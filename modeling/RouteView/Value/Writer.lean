import RouteView.Decimal.Format
import RouteView.Text.Quoted
import RouteView.Value.Basic

/-!
# Writing values

`Value.json` is the compact JSON text of a value, `Value.display` its text in a view, where null shows
nothing and a text stands without quotes, and `Value.inspect` the text that names every constructor.
-/
set_option autoImplicit false
namespace RouteView.Value

/-- Plain notation from five places after the point to sixteen digits before it, a point in every
number, ties to the even digit. -/
def numberFormat : Decimal.Format := ⟨.toEven, some (-5, 15), true⟩

def hexPair (n : Nat) : Text := [Nat.digitChar (n / 16), Nat.digitChar (n % 16)]

def jsonChar (c : Char) : Text :=
  if c = '"' then ['\\', '"']
  else if c = '\\' then ['\\', '\\']
  else if c = '\x08' then ['\\', 'b']
  else if c = '\x0c' then ['\\', 'f']
  else if c = '\n' then ['\\', 'n']
  else if c = '\r' then ['\\', 'r']
  else if c = '\t' then ['\\', 't']
  else if c.toNat < 0x20 then ['\\', 'u', '0', '0'] ++ hexPair c.toNat
  else [c]

def jsonText (text : Text) : Text := '"' :: text.flatMap jsonChar ++ ['"']

def boolText (b : Bool) : Text := if b then "true" else "false"

mutual

def json : Value → Text
  | .null => "null"
  | .bool b => boolText b
  | .int n => Text.ofInt n
  | .float x => numberFormat.text x
  | .text t => jsonText t
  | .array items => '[' :: Text.join [','] (jsonItems items) ++ [']']
  | .object fields => '\x7b' :: Text.join [','] (jsonFields fields) ++ ['\x7d']

def jsonItems : List Value → List Text
  | [] => []
  | item :: rest => json item :: jsonItems rest

def jsonFields : List (Text × Value) → List Text
  | [] => []
  | (name, value) :: rest => (jsonText name ++ ':' :: json value) :: jsonFields rest

end

def display : Value → Text
  | .null => []
  | .text t => t
  | other => json other

mutual

/-- The text that names every constructor. -/
def inspect : Value → Text
  | .null => "Null"
  | .bool b => "Bool(" ++ boolText b ++ ")"
  | .int n => "Number(" ++ Text.ofInt n ++ ")"
  | .float x => "Number(" ++ numberFormat.text x ++ ")"
  | .text t => "String(" ++ Text.quote t ++ ")"
  | .array items => "Array " ++ Text.bracket (inspectItems items)
  | .object fields => "Object \x7b" ++ Text.join ", " (inspectFields fields) ++ "\x7d"

def inspectItems : List Value → List Text
  | [] => []
  | item :: rest => inspect item :: inspectItems rest

def inspectFields : List (Text × Value) → List Text
  | [] => []
  | (name, value) :: rest => (Text.quote name ++ ": " ++ inspect value) :: inspectFields rest

end

end RouteView.Value
