import RouteView.Decimal.Binary64
import RouteView.Dictionary

/-!
# Data values

The data that views, handlers and settings work on: null, truth values, whole and floating numbers,
texts, arrays, and objects with their names in ascending order.
-/
set_option autoImplicit false
namespace RouteView

inductive Value
  | null
  | bool (b : Bool)
  | int (n : Int)
  | float (x : Binary64)
  | text (t : Text)
  | array (items : List Value)
  | object (fields : List (Text × Value))

/-- View data: the entries of an object. -/
abbrev Data := Dictionary Value

namespace Value

instance : Inhabited Value := ⟨.null⟩

def isNull : Value → Bool
  | .null => true
  | _ => false

def asText? : Value → Option Text
  | .text t => some t
  | _ => none

def asObject? : Value → Option Data
  | .object fields => some fields
  | _ => none

/-- The whole number of a value that fits in 64 bits with a sign. -/
def asInt64? : Value → Option Int
  | .int n => if -0x8000000000000000 ≤ n ∧ n < 0x8000000000000000 then some n else none
  | _ => none

mutual

/-- Every object inside has its names in strictly ascending order. -/
def Ordered : Value → Prop
  | .array items => OrderedItems items
  | .object fields => Dictionary.Ascending fields ∧ OrderedFields fields
  | _ => True

def OrderedItems : List Value → Prop
  | [] => True
  | item :: rest => Ordered item ∧ OrderedItems rest

def OrderedFields : List (Text × Value) → Prop
  | [] => True
  | (_, value) :: rest => Ordered value ∧ OrderedFields rest

end

end Value
end RouteView
