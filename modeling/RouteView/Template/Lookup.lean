import RouteView.Value.Basic
import RouteView.Value.Number

/-!
# Looking up data

A dotted path leads from a key of the data through object keys and array indexes.  An index is a decimal
number below `2 ^ 64`, with or without a plus sign.
-/
set_option autoImplicit false
namespace RouteView.Template

/-- The number that an index step denotes. -/
def indexOf? (step : Text) : Option Nat := Value.unsigned? (Nat.pow 2 64) step

def stepInto (step : Text) : Value → Option Value
  | .object fields => Dictionary.get? step fields
  | .array items => (indexOf? step).bind (items[·]?)
  | _ => none

/-- The value at the end of a list of steps. -/
def descend (value : Value) : List Text → Option Value
  | [] => some value
  | step :: rest => (stepInto step value).bind (descend · rest)

def lookup (data : Data) (path : Text) : Option Value := descend (.object data) (Text.splitOn '.' path)

end RouteView.Template
