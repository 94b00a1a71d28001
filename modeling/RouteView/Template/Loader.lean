import RouteView.Fault
import RouteView.Dictionary
import RouteView.Files.Path
import RouteView.Files.Tree

/-!
# Loaders

A loader finds the source of a view by its name: in a dictionary, or in directories of a file tree.  In
directories a name without an extension gets the loader's own, leading slashes do not count, and a name
with a component of two dots is refused.  An extension with a slash in it cannot be added to anything:
that aborts.
-/
set_option autoImplicit false
namespace RouteView.Template

inductive Loader
  | sources (templates : Dictionary Text)
  | directories (dirs : List Text) (extension : Text)

namespace Loader

/-- A loader over directories; dots in front of the extension do not count. -/
def ofDirectories (dirs : List Text) (extension : Text) : Loader :=
  .directories dirs (extension.dropWhile (· = '.'))

def fromDictionary (templates : Dictionary Text) (name : Text) : Attempt Text :=
  match templates.get? name with
  | some source => .ok source
  | none => .error (.templateMissing ("Template '" ++ name ++ "' not found in StringLoader"))

def fileName (extension name : Text) : Evaluation Text :=
  let path := name.dropWhile (· = '/')
  if extension = [] ∨ (FilePath.extension path).isSome then .ok path
  else if '/' ∈ extension then .error .abort
  else .ok (FilePath.addExtension extension path)

/-- The text of the first directory that has the file. -/
def readFirst (tree : FileTree) (missing : Fault) (file : Text) : List Text → Attempt Text
  | [] => .error missing
  | dir :: rest =>
      let path := FilePath.join dir file
      if tree.isFile path then (tree.read path).mapError fun fault => .io fault.message
      else readFirst tree missing file rest

def fromDirectories (tree : FileTree) (dirs : List Text) (extension name : Text) : Evaluation Text :=
  if (Text.splitOn '/' name).contains ['.', '.'] then
    .error (.fault (.templateMissing
      ("Refusing to load '" ++ name ++ "' outside the view directories")))
  else do
    let file ← fileName extension name
    let missing := Fault.templateMissing
      ("View '" ++ name ++ "' not found in directories: " ++ Text.bracket (dirs.map Text.quote))
    Attempt.evaluation (readFirst tree missing file dirs)

def load (tree : FileTree) (name : Text) : Loader → Evaluation Text
  | sources templates => (fromDictionary templates name).evaluation
  | directories dirs extension => fromDirectories tree dirs extension name

end Loader
end RouteView.Template
