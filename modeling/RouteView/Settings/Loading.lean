import RouteView.Files.Tree
import RouteView.Settings.Environment
import RouteView.Toml.Document
import RouteView.Value.Reader

/-!
# Loading settings

Settings are read from JSON or TOML, as text or from a file, and laid over the defaults; variables of
the environment may be laid over that.
-/
set_option autoImplicit false
namespace RouteView.Settings

inductive Format
  | json
  | toml
deriving DecidableEq

namespace Format

def name : Format → Text
  | json => "JSON"
  | toml => "TOML"

/-- How many containers may be open at once in JSON. -/
def jsonDepth : Nat := 127

def read? : Format → Text → Option Value
  | json, source => Value.ofJson? jsonDepth source
  | toml, source => Toml.read? source

end Format

/-- The settings of a value laid over the defaults. -/
def overDefaults (format : Format) (v : Value) : Attempt Settings :=
  (ofValue (Value.merge (.object default.toData) v)).mapError fun fault =>
    .configuration ("Failed to deserialize settings from " ++ format.name ++ ": " ++ fault.message)

def ofText (format : Format) (source : Text) : Attempt Settings :=
  match format.read? source with
  | none => .error (.configuration ("Failed to parse " ++ format.name))
  | some v => overDefaults format v

def ofFile (tree : FileTree) (format : Format) (path : Text) : Attempt Settings :=
  match tree.read path with
  | .error fault => .error (.configuration
      ("Failed to read " ++ format.name ++ " file '" ++ path ++ "': " ++ fault.message))
  | .ok source => ofText format source

/-- The settings of a file, with the variables of an environment on top. -/
def ofFileWithEnvironment (tree : FileTree) (env : Environment) (format : Format) (path : Text) :
    Attempt Settings :=
  (ofFile tree format path).map fun s => s.override env

end RouteView.Settings
