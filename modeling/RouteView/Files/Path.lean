import RouteView.Text.Basic

/-!
# File names and extensions

The file name of a path is its last component that is neither empty nor a single dot; two dots are no
file name.  Its extension is the text after its last dot, unless that dot begins the name.
-/
set_option autoImplicit false
namespace RouteView.FilePath

/-- The path up to the end of its last component that is neither empty nor a single dot. -/
def trimTail (path : Text) : Text := go path.reverse |>.reverse
where
  go : Text → Text
    | [] => []
    | '/' :: rest => go rest
    | '.' :: '/' :: rest => go rest
    | ['.'] => []
    | rest => rest

def fileName (path : Text) : Option Text :=
  let name := ((trimTail path).reverse.takeWhile (· ≠ '/')).reverse
  if name = [] ∨ name = ['.', '.'] then none else some name

/-- The text after the last dot of a name that has more than that dot before it. -/
def nameExtension (name : Text) : Option Text :=
  let after := name.reverse.takeWhile (· ≠ '.')
  if after.length + 1 < name.length then some after.reverse else none

def extension (path : Text) : Option Text := (fileName path).bind nameExtension

/-- The path with an extension added to a file name that has none; a path without a file name is left
as it is. -/
def addExtension (ext path : Text) : Text :=
  match fileName path with
  | none => path
  | some _ => trimTail path ++ '.' :: ext

def join (directory name : Text) : Text :=
  if name.head? = some '/' then name
  else if directory = [] ∨ directory.getLast? = some '/' then directory ++ name
  else directory ++ '/' :: name

end RouteView.FilePath
