import RouteView.Fault
import RouteView.Value.Merge
import RouteView.Value.Writer

/-!
# Settings

The settings of an application, their defaults, and their form as a value.  An object is read key by key
in ascending order; unknown keys do not count and absent ones keep their defaults.  An array gives the
settings in the order of their declaration.
-/
set_option autoImplicit false
namespace RouteView

structure Settings where
  debug : Bool
  bindAddress : Text
  viewDirs : List Text
  viewExtension : Text
  layout : Option Text
  autoEscape : Bool
  logLevel : Text
deriving DecidableEq

inductive SettingsFault
  | wrongType (found : Value) (expected : Text)
  | tooShort (length : Nat)
  | tooLong (length : Nat)

/-- What a value is called in a complaint about its type. -/
def Value.describe : Value → Text
  | .null => "null"
  | .bool b => "boolean \x60" ++ boolText b ++ "\x60"
  | .int n => "integer \x60" ++ Text.ofInt n ++ "\x60"
  | .float x => "floating point \x60" ++ numberFormat.text x ++ "\x60"
  | .text t => "string " ++ Text.quote t
  | .array _ => "sequence"
  | .object _ => "map"

def SettingsFault.message : SettingsFault → Text
  | wrongType found expected => "invalid type: " ++ found.describe ++ ", expected " ++ expected
  | tooShort n => "invalid length " ++ Text.ofNat n ++ ", expected struct Settings with 7 elements"
  | tooLong n => "invalid length " ++ Text.ofNat n ++ ", expected fewer elements in array"

namespace Settings

def default : Settings :=
  { debug := true, bindAddress := "127.0.0.1:8000", viewDirs := [("views" : Text)],
    viewExtension := "html", layout := none, autoEscape := true, logLevel := "info" }

def toData (s : Settings) : Data :=
  [("auto_escape", .bool s.autoEscape), ("bind_address", .text s.bindAddress),
    ("debug", .bool s.debug), ("layout", (s.layout.map Value.text).getD .null),
    ("log_level", .text s.logLevel), ("view_dirs", .array (s.viewDirs.map Value.text)),
    ("view_extension", .text s.viewExtension)]

def readBool : Value → Except SettingsFault Bool
  | .bool b => .ok b
  | other => .error (.wrongType other "a boolean")

def readText (expected : Text) : Value → Except SettingsFault Text
  | .text t => .ok t
  | other => .error (.wrongType other expected)

def readString : Value → Except SettingsFault Text := readText "a string"

def readLayout : Value → Except SettingsFault (Option Text)
  | .null => .ok none
  | other => (readString other).map some

def readDirs : Value → Except SettingsFault (List Text)
  | .array items => items.mapM (readText "path string")
  | other => .error (.wrongType other "a sequence")

/-- The settings with the value of one key; an unknown key changes nothing. -/
def readKey (s : Settings) (key : Text) (v : Value) : Except SettingsFault Settings :=
  if key = "auto_escape".toList then do return { s with autoEscape := ← readBool v }
  else if key = "bind_address".toList then do return { s with bindAddress := ← readString v }
  else if key = "debug".toList then do return { s with debug := ← readBool v }
  else if key = "layout".toList then do return { s with layout := ← readLayout v }
  else if key = "log_level".toList then do return { s with logLevel := ← readString v }
  else if key = "view_dirs".toList then do return { s with viewDirs := ← readDirs v }
  else if key = "view_extension".toList then do return { s with viewExtension := ← readString v }
  else .ok s

def readKeys (s : Settings) : List (Text × Value) → Except SettingsFault Settings
  | [] => .ok s
  | (key, v) :: rest => do readKeys (← readKey s key v) rest

/-- The keys in the order of their declaration. -/
def declared : List Text :=
  ["debug", "bind_address", "view_dirs", "view_extension", "layout", "auto_escape", "log_level"]

/-- The settings with values for the keys in turn, `total` values being given in all. -/
def readInOrder (total : Nat) (s : Settings) : List Text → List Value → Except SettingsFault Settings
  | [], [] => .ok s
  | [], _ :: _ => .error (.tooLong total)
  | _ :: _, [] => .error (.tooShort total)
  | key :: keys, v :: rest => do readInOrder total (← readKey s key v) keys rest

def ofValue : Value → Except SettingsFault Settings
  | .object fields => readKeys default fields
  | .array items => readInOrder items.length default declared items
  | other => .error (.wrongType other "struct Settings")

end Settings
end RouteView
