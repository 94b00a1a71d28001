import RouteView.Settings.Basic
import RouteView.Template.Evaluation
import RouteView.Template.Loader

/-!
# Renderers

A renderer looks for a view among the templates in memory, then in its loaders in order; a loader that
does not have the view passes it on, any other failure ends the search.  A view that nobody has stands
for itself.  A layout sees the rendered view as its safe key `content`.

`ViewRenderer` is what an application needs of a renderer.
-/
set_option autoImplicit false
namespace RouteView.Template

structure Renderer where
  loaders : List Loader
  memory : Dictionary Text
  autoEscape : Bool

/-- The key under which a layout finds the rendered view. -/
def contentKey : Text := "content"

theorem lookup_contentKey (own : Value) (data : Data) :
    lookup (Dictionary.insert contentKey own data) contentKey = some own := by
  have steps : Text.splitOn '.' contentKey = [contentKey] := by decide
  rw [lookup, steps, descend, stepInto, Dictionary.get?_insert, if_pos rfl]
  rfl

namespace Renderer

/-- Only templates in memory, and automatic escaping. -/
def new : Renderer := ⟨[], [], true⟩

/-- One loader over the view directories of the settings. -/
def ofSettings (s : Settings) : Renderer :=
  ⟨[.ofDirectories s.viewDirs s.viewExtension], [], s.autoEscape⟩

def addTemplate (name source : Text) (r : Renderer) : Renderer :=
  { r with memory := Dictionary.insert name source r.memory }

def addLoader (loader : Loader) (r : Renderer) : Renderer := { r with loaders := r.loaders ++ [loader] }

/-- The source of a view in the first loader that has it. -/
def search (tree : FileTree) (name : Text) : List Loader → Evaluation Text
  | [] => .error (.fault (.templateMissing ("View '" ++ name ++ "' could not be found")))
  | loader :: rest =>
      match loader.load tree name with
      | .error (.fault (.templateMissing _)) => search tree name rest
      | result => result

def findSource (tree : FileTree) (r : Renderer) (name : Text) : Evaluation Text :=
  search tree name (.sources r.memory :: r.loaders)

/-- A view on data; a name that no loader has stands for itself. -/
def renderOrName (tree : FileTree) (r : Renderer) (name : Text) (data : Data) (safeKeys : List Text) :
    Evaluation Text :=
  match r.findSource tree name with
  | .ok source => (renderTemplate r.autoEscape source data safeKeys).evaluation
  | .error (.fault (.templateMissing _)) => .ok name
  | .error stop => .error stop

def render (tree : FileTree) (r : Renderer) (view : Text) (data : Data) : Evaluation Text :=
  r.renderOrName tree view data []

def renderLayout (tree : FileTree) (r : Renderer) (layout content : Text) (data : Data) :
    Evaluation Text :=
  r.renderOrName tree layout (Dictionary.insert contentKey (.text content) data) [contentKey]

def inspect (r : Renderer) : Text :=
  "TemplateRenderer \x7b loaders: " ++ Text.ofNat r.loaders.length ++ ", auto_escape: " ++
    Value.boolText r.autoEscape ++ ", .. \x7d"

end Renderer
end RouteView.Template

namespace RouteView

/-- How an application turns views and layouts into text. -/
structure ViewRenderer where
  render : Text → Data → Evaluation Text
  renderLayout : Text → Text → Data → Evaluation Text

/-- A view, inside a layout when one is given. -/
def ViewRenderer.renderWithin (r : ViewRenderer) (view : Text) (layout : Option Text) (data : Data) :
    Evaluation Text := do
  let content ← r.render view data
  match layout with
  | some layout => r.renderLayout layout content data
  | none => return content

def Template.Renderer.viewRenderer (tree : FileTree) (r : Template.Renderer) : ViewRenderer :=
  ⟨r.render tree, r.renderLayout tree⟩

end RouteView
