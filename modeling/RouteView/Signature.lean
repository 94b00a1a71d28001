import RouteView.Fault
import RouteView.Value.Writer

/-!
# Signatures and bound arguments

A callback declares its parameters.  Binding walks them in order: a parameter takes the value supplied
under its name, be it null, else its default, else null if it may be null; otherwise the binding fails
with the first parameter that has none of these.  `bind_names` says that a binding has the parameters of
its signature.
-/
set_option autoImplicit false
namespace RouteView

structure Parameter where
  name : Text
  default : Option Value
  nullable : Bool

namespace Parameter

def required (name : Text) : Parameter := ⟨name, none, false⟩

def withDefault (name : Text) (value : Value) : Parameter := ⟨name, some value, false⟩

def orNull (p : Parameter) : Parameter := { p with nullable := true }

/-- A parameter that is null when nothing is supplied. -/
def optional (name : Text) : Parameter := ⟨name, none, true⟩

end Parameter

/-- The parameters of a callback in the order of their declaration. -/
abbrev Signature := List Parameter

/-- The values supplied by name. -/
abbrev Arguments := Text → Option Value

/-- The parameters of a signature with their values. -/
abbrev Bound := List (Text × Value)

namespace Arguments

def ofList (entries : List (Text × Value)) : Arguments := fun name => entries.lookup name

def ofDictionary (entries : Dictionary Value) : Arguments := fun name => entries.get? name

end Arguments

/-- The value of a parameter. -/
def Parameter.resolve (args : Arguments) (p : Parameter) : Attempt Value :=
  match args p.name with
  | some value => .ok value
  | none =>
      match p.default with
      | some value => .ok value
      | none => if p.nullable then .ok .null else .error (.missingArgument p.name)

def Signature.bind (args : Arguments) : Signature → Attempt Bound
  | [] => .ok []
  | p :: rest => do
      let value ← p.resolve args
      return (p.name, value) :: (← Signature.bind args rest)

theorem Signature.bind_names {args : Arguments} {signature : Signature} {bound : Bound}
    (h : Signature.bind args signature = .ok bound) :
    bound.map Prod.fst = signature.map Parameter.name := by
  induction signature generalizing bound with
  | nil =>
      simp only [Signature.bind, Except.ok.injEq] at h
      rw [← h]
      rfl
  | cons p rest ih =>
      simp only [Signature.bind] at h
      cases hv : p.resolve args with
      | error fault => rw [hv] at h; cases h
      | ok value =>
          cases hr : Signature.bind args rest with
          | error fault => rw [hv, hr] at h; cases h
          | ok more =>
              rw [hv, hr] at h
              cases h
              rw [List.map_cons, List.map_cons, ih hr]

namespace Bound

def get? (bound : Bound) (name : Text) : Option Value := bound.lookup name

/-- The text of the first parameter of a name, if its value is a text. -/
def getText? (bound : Bound) (name : Text) : Option Text := (bound.get? name).bind Value.asText?

def values (bound : Bound) : List Value := bound.map Prod.snd

end Bound

def Parameter.inspect (p : Parameter) : Text :=
  "Parameter \x7b name: " ++ Text.quote p.name ++ ", default: " ++
    (match p.default with
      | none => ("None" : Text)
      | some value => "Some(" ++ value.inspect ++ ")") ++
    ", nullable: " ++ Value.boolText p.nullable ++ " \x7d"

def Signature.inspect (signature : Signature) : Text :=
  "Signature \x7b parameters: " ++ Text.bracket (signature.map Parameter.inspect) ++ " \x7d"

end RouteView
