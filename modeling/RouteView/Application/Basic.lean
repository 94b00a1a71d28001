import RouteView.Callback
import RouteView.Template.Renderer

/-!
# Applications

An application has routes, a renderer, callbacks for the start, the end and the failure of a request,
and a layout and data that every request begins with.
-/
set_option autoImplicit false
namespace RouteView

/-- What turns views into text: templates, or a renderer of another kind. -/
inductive PageRenderer
  | templates (r : Template.Renderer)
  | custom (r : ViewRenderer)

def PageRenderer.viewRenderer (tree : FileTree) : PageRenderer → ViewRenderer
  | templates r => r.viewRenderer tree
  | custom r => r

structure Application (ω : Type) where
  routes : IndexedTable (Callback ω)
  renderer : PageRenderer
  onStart : Option (Callback ω)
  onFinish : Option (Callback ω)
  onError : Option (Callback ω)
  layout : Option Text
  data : Data

namespace Application
variable {ω : Type}

def withRenderer (renderer : PageRenderer) : Application ω := ⟨.empty, renderer, none, none, none, none, []⟩

def new : Application ω := withRenderer (.templates Template.Renderer.new)

/-- An application with the view directories and the layout of the settings. -/
def ofSettings (s : Settings) : Application ω :=
  { withRenderer (.templates (Template.Renderer.ofSettings s)) with layout := s.layout }

/-- The application with one more route, or another one of its name. -/
def route (app : Application ω) (name source : Text) (view : Option Text)
    (handler : Option (Callback ω)) : Attempt (Application ω) :=
  match app.routes.register name source view handler with
  | (.error fault, _) => .error fault
  | (.ok (), routes) => .ok { app with routes }

def setData (app : Application ω) (key : Text) (value : Value) : Application ω :=
  { app with data := app.data.insert key value }

/-- The application with a template in memory; nothing when its renderer has no templates. -/
def addTemplate? (app : Application ω) (name source : Text) : Option (Application ω) :=
  match app.renderer with
  | .templates r => some { app with renderer := .templates (r.addTemplate name source) }
  | .custom _ => none

def resolve (app : Application ω) (path : Text) : Option (Resolved (Callback ω)) :=
  app.routes.resolve path

def url (app : Application ω) (name : Text) (params : Parameters) : Attempt Text :=
  app.routes.reverse name params

def inspect (app : Application ω) : Text :=
  "Application \x7b routes: " ++ app.routes.inspect ++ ", layout: " ++
    (match app.layout with
      | none => ("None" : Text)
      | some layout => "Some(" ++ Text.quote layout ++ ")") ++
    ", data: \x7b" ++ Text.join ", " (Value.inspectFields app.data) ++ "\x7d, on_start: " ++
    Value.boolText app.onStart.isSome ++ ", on_finish: " ++ Value.boolText app.onFinish.isSome ++
    ", on_error: " ++ Value.boolText app.onError.isSome ++ ", .. \x7d"

end Application
end RouteView
