import RouteView.Value.Basic

/-!
# Laying one value over another

Two objects are merged key by key, at every depth; anything else replaces what was there.
-/
set_option autoImplicit false
namespace RouteView.Value

mutual

/-- The value `upper` laid on `base`. -/
def merge (base : Value) (upper : Value) : Value :=
  match upper with
  | .object fields =>
      match base with
      | .object old => .object (mergeFields old fields)
      | _ => .object fields
  | other => other

def mergeFields (old : Data) : List (Text × Value) → Data
  | [] => old
  | (name, value) :: rest =>
      let merged := match old.get? name with
        | some before => merge before value
        | none => value
      mergeFields (old.insert name merged) rest

end

end RouteView.Value
