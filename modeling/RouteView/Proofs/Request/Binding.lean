import RouteView.Signature

/-!
# Binding a signature

`Parameter.value?` is the value that a parameter takes from a source of arguments: the supplied one, else its default,
else null if it may be null.  A signature is bound when all of its parameters have a value (`bind_of_values`), and
otherwise the first of them that has none is reported (`bind_of_missing`).  Of the source only the values under the
names of the signature count (`bind_congr`).
-/
set_option autoImplicit false
namespace RouteView

def Parameter.value? (args : Arguments) (p : Parameter) : Option Value :=
  ((args p.name).or p.default).or (if p.nullable then some .null else none)

section
variable {args other : Arguments} {p : Parameter}

theorem Parameter.resolve_eq :
    p.resolve args = (p.value? args).elim (.error (.missingArgument p.name)) .ok := by
  rw [resolve, value?]
  cases args p.name with
  | some supplied => rfl
  | none =>
      cases p.default with
      | some default => rfl
      | none => cases p.nullable <;> rfl

theorem Parameter.resolve_optional (args : Arguments) (name : Text) :
    (optional name).resolve args = .ok ((args name).getD .null) := by
  have known : (optional name).name = name := rfl
  rw [resolve, known]
  cases args name with
  | none => rfl
  | some value => rfl

namespace Signature

theorem bind_cons (p : Parameter) (rest : Signature) : Signature.bind args (p :: rest) =
    (p.resolve args >>= fun value => rest.bind args >>= fun bound => .ok ((p.name, value) :: bound)) := rfl

theorem bind_of_values {signature : Signature} : ∀ {bound : Bound},
    signature.mapM (fun p => (p.value? args).map (Prod.mk p.name)) = some bound →
    signature.bind args = .ok bound := by
  induction signature with
  | nil =>
      intro bound h
      rw [List.mapM_nil] at h
      exact congrArg Except.ok (Option.some.inj h)
  | cons p rest ih =>
      intro bound h
      rw [List.mapM_cons] at h
      obtain ⟨entry, first, h⟩ := Option.bind_eq_some_iff.mp h
      obtain ⟨more, later, h⟩ := Option.bind_eq_some_iff.mp h
      obtain ⟨value, found, rfl⟩ := Option.map_eq_some_iff.mp first
      rw [bind_cons, Parameter.resolve_eq, found, Option.elim_some, ih later]
      exact congrArg Except.ok (Option.some.inj h)

theorem bind_of_missing {signature : Signature} {p : Parameter}
    (h : signature.find? (fun p => (p.value? args).isNone) = some p) :
    signature.bind args = .error (.missingArgument p.name) := by
  induction signature with
  | nil => cases h
  | cons first rest ih =>
      rw [List.find?_cons] at h
      rw [bind_cons, Parameter.resolve_eq]
      cases found : first.value? args with
      | none =>
          rw [found] at h
          exact congrArg (fun p : Parameter => Except.error (Fault.missingArgument p.name)) (Option.some.inj h)
      | some value =>
          rw [found] at h
          rw [Option.elim_some, ih h]
          rfl

theorem bind_congr {signature : Signature} (h : ∀ p ∈ signature, args p.name = other p.name) :
    signature.bind args = signature.bind other := by
  induction signature with
  | nil => rfl
  | cons p rest ih =>
      have same : p.resolve args = p.resolve other := by
        rw [Parameter.resolve, Parameter.resolve, h p (.head _)]
      rw [bind_cons, bind_cons, same, ih fun q member => h q (.tail _ member)]

end Signature
end

end RouteView
