import RouteView.Fault
import RouteView.Parameters
import RouteView.Pattern.Segments

/-!
# Assembling a path

A path is built from a pattern by giving its parameters their texts.  An optional group is left out when
a parameter directly inside it has none; outside all groups every parameter needs one.
-/
set_option autoImplicit false
namespace RouteView.Segments

/-- The text of a group, or nothing when one of its own parameters has no text. -/
def fill (params : Parameters) : Segments → Option Text
  | nil => some []
  | literal text rest => (fill params rest).map (text ++ ·)
  | parameter name rest => do
      let text ← params name
      let more ← fill params rest
      return text ++ more
  | optional children rest => (fill params rest).map (((fill params children).getD []) ++ ·)

/-- The path of a pattern; the first parameter without a text is reported for `route`. -/
def assemble (route : Text) (params : Parameters) : Segments → Attempt Text
  | nil => .ok []
  | literal text rest => (assemble route params rest).map (text ++ ·)
  | parameter name rest =>
      match params name with
      | none => .error (.missingParameter name route)
      | some text => (assemble route params rest).map (text ++ ·)
  | optional children rest => (assemble route params rest).map (((fill params children).getD []) ++ ·)

/-- A parameter of a pattern and whether one of its occurrences is outside all groups. -/
structure Parameter where
  name : Text
  required : Bool
deriving DecidableEq

/-- The list with one more occurrence noted. -/
def noteParameter (name : Text) (required : Bool) : List Parameter → List Parameter
  | [] => [⟨name, required⟩]
  | p :: rest =>
      if p.name = name then ⟨name, p.required || required⟩ :: rest
      else p :: noteParameter name required rest

/-- The parameters noted so far and those of the segments, in the order of their first occurrences. -/
def collect (required : Bool) : Segments → List Parameter → List Parameter
  | nil, found => found
  | literal _ rest, found => collect required rest found
  | parameter name rest, found => collect required rest (noteParameter name required found)
  | optional children rest, found => collect required rest (collect false children found)

def parameters (segments : Segments) : List Parameter := collect true segments []

end RouteView.Segments
