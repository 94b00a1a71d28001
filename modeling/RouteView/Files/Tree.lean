import RouteView.Text.Basic

/-!
# File trees

A tree of directories and files, named by the components of their places.  A path is followed component
by component, from the root if it begins with a slash and from the working directory otherwise: an empty
component and a single dot stay where they are, two dots go to the parent, and every step needs a
directory to start from.  Names and whole paths are bounded in bytes, and no path holds a NUL.
-/
set_option autoImplicit false
namespace RouteView

/-- What is found at a place: a file, with its text if its bytes are one, or a directory. -/
inductive FileEntry
  | file (text : Option Text)
  | directory
deriving DecidableEq

/-- The entries by their places from the root.  A directory is there as soon as something is inside it. -/
structure FileTree where
  entries : List (List Text × FileEntry)
  /-- The place of the working directory. -/
  working : List Text

inductive FileFault
  | missing
  | notDirectory
  | isDirectory
  | notText
  | nameTooLong
  | nulByte
deriving DecidableEq

def FileFault.message : FileFault → Text
  | missing => "No such file or directory (os error 2)"
  | notDirectory => "Not a directory (os error 20)"
  | isDirectory => "Is a directory (os error 21)"
  | notText => "stream did not contain valid UTF-8"
  | nameTooLong => "File name too long (os error 36)"
  | nulByte => "file name contained an unexpected NUL byte"

namespace FileTree

/-- A component that stays in the directory where it stands. -/
def isStill (part : Text) : Bool := part = [] || part = ['.']

/-- The components of a path that lead on. -/
def components (path : Text) : List Text := (Text.splitOn '/' path).filter fun part => !isStill part

/-- Where a path begins, seen from a working directory. -/
def start (working : List Text) (path : Text) : List Text := if path.head? = some '/' then [] else working

/-- A directory whose name no path spells. -/
def unnamed : List Text := [[]]

/-- The files at some paths, the relative ones in an unnamed working directory. -/
def ofPaths (files : List (Text × FileEntry)) : FileTree :=
  ⟨files.map fun (path, entry) => (start unnamed path ++ components path, entry), unnamed⟩

def empty : FileTree := ofPaths []

def find? (tree : FileTree) (place : List Text) : Option FileEntry :=
  match tree.entries.lookup place with
  | some entry => some entry
  | none =>
      if place.isPrefixOf tree.working ∨ tree.entries.any (fun (other, _) => place.isPrefixOf other) then
        some .directory
      else none

def nameLimit : Nat := 255

def pathLimit : Nat := 4095

/-- The place that one component leads to; nothing need be there. -/
def step (tree : FileTree) (place : List Text) (part : Text) : Except FileFault (List Text) :=
  match tree.find? place with
  | none => .error .missing
  | some (.file _) => .error .notDirectory
  | some .directory =>
      if isStill part then .ok place
      else if part = ['.', '.'] then .ok place.dropLast
      else if nameLimit < Text.byteLength part then .error .nameTooLong
      else .ok (place ++ [part])

/-- The place reached from `place` along the components. -/
def follow (tree : FileTree) (place : List Text) (parts : List Text) : Except FileFault (List Text) :=
  parts.foldlM tree.step place

/-- The place that a path leads to. -/
def place (tree : FileTree) (path : Text) : Except FileFault (List Text) :=
  tree.follow (start tree.working path) (Text.splitOn '/' path)

def entry (tree : FileTree) (path : Text) : Except FileFault FileEntry :=
  if '\x00' ∈ path then .error .nulByte
  else if pathLimit < Text.byteLength path then .error .nameTooLong
  else if path = [] then .error .missing
  else do
    let place ← tree.place path
    match tree.find? place with
    | some entry => .ok entry
    | none => .error .missing

def isFile (tree : FileTree) (path : Text) : Bool :=
  match tree.entry path with
  | .ok (.file _) => true
  | _ => false

def read (tree : FileTree) (path : Text) : Except FileFault Text :=
  match tree.entry path with
  | .error fault => .error fault
  | .ok .directory => .error .isDirectory
  | .ok (.file none) => .error .notText
  | .ok (.file (some text)) => .ok text

end FileTree
end RouteView
