import RouteView.Proofs.Request.Binding
import RouteView.Signature.Columns

/-!
# What a binding holds

A signature is bound as a whole or not at all (`exists_bind_iff`), and a binding has at every position the name of the
parameter there and the value that it takes (`bind_getElem?`).  `bind_all_or_nothing` says so of the columns of names
and values, from which nothing is read out of range, and of the sources of arguments that make no difference.
-/
set_option autoImplicit false
namespace RouteView

/-- The value that a parameter takes: the supplied one, be it null; else its default, whether it may be null or not;
else null. -/
inductive Parameter.Takes (args : Arguments) (p : Parameter) : Value → Prop
  | supplied {value : Value} : args p.name = some value → Takes args p value
  | default {value : Value} : args p.name = none → p.default = some value → Takes args p value
  | null : args p.name = none → p.default = none → p.nullable = true → Takes args p .null

def Parameter.Served (args : Arguments) (p : Parameter) : Prop :=
  (args p.name).isSome ∨ p.default.isSome ∨ p.nullable = true

variable {args larger : Arguments} {p : Parameter} {value : Value} {signature : Signature} {bound : Bound}

theorem Parameter.value?_eq_some : p.value? args = some value ↔ p.Takes args value := by
  constructor
  · intro taken
    rw [value?] at taken
    cases given : args p.name with
    | some supplied =>
        rw [given] at taken
        cases taken
        exact .supplied given
    | none =>
        cases declared : p.default with
        | some default =>
            rw [given, declared] at taken
            cases taken
            exact .default given declared
        | none =>
            cases nullable : p.nullable with
            | true =>
                rw [given, declared, nullable] at taken
                cases taken
                exact .null given declared nullable
            | false => simp [given, declared, nullable] at taken
  · intro takes
    cases takes with
    | supplied given => simp [value?, given]
    | default given declared => simp [value?, given, declared]
    | null given declared nullable => simp [value?, given, declared, nullable]

theorem Parameter.value?_isSome : (p.value? args).isSome = true ↔ p.Served args := by
  rw [value?, Served, Option.isSome_or, Option.isSome_or, Bool.or_eq_true, Bool.or_eq_true, or_assoc]
  cases p.nullable <;> simp

theorem Parameter.value?_isNone : (p.value? args).isNone = true ↔ ¬ p.Served args := by
  rw [← value?_isSome]
  cases p.value? args <;> simp

theorem Parameter.Takes.grow (takes : p.Takes args value) (more : ∀ name value, args name = some value →
    larger name = some value) : p.Served larger ∧ ((args p.name).isSome → p.Takes larger value) := by
  cases takes with
  | supplied given => exact ⟨Or.inl (by rw [more _ _ given]; rfl), fun _ => .supplied (more _ _ given)⟩
  | default given declared => exact ⟨Or.inr (Or.inl (by rw [declared]; rfl)), by simp [given]⟩
  | null given _ nullable => exact ⟨Or.inr (Or.inr nullable), by simp [given]⟩

namespace Signature

theorem bind_cons_eq_ok {rest : Signature} : Signature.bind args (p :: rest) = .ok bound ↔
    ∃ value more, p.value? args = some value ∧ rest.bind args = .ok more ∧ (p.name, value) :: more = bound := by
  rw [bind_cons, Parameter.resolve_eq]
  cases p.value? args with
  | none => simp [bind_eq_ok]
  | some value => simp [bind_eq_ok]

/-- At every position there is the parameter of the signature with its value. -/
theorem bind_getElem? : ∀ {bound : Bound}, signature.bind args = .ok bound → ∀ i : Nat,
    bound[i]? = signature[i]?.bind fun p => (p.value? args).map (Prod.mk p.name) := by
  induction signature with
  | nil =>
      intro bound made i
      cases made
      rfl
  | cons p rest ih =>
      intro bound made i
      obtain ⟨value, more, taken, later, rfl⟩ := bind_cons_eq_ok.mp made
      cases i with
      | zero => simp [taken]
      | succ i => simpa using ih later i

theorem exists_bind (served : ∀ p ∈ signature, p.Served args) : ∃ bound, signature.bind args = .ok bound := by
  induction signature with
  | nil => exact ⟨[], rfl⟩
  | cons p rest ih =>
      rw [List.forall_mem_cons] at served
      obtain ⟨more, later⟩ := ih served.2
      obtain ⟨value, taken⟩ := Option.isSome_iff_exists.mp (Parameter.value?_isSome.mpr served.1)
      refine ⟨(p.name, value) :: more, ?_⟩
      rw [bind_cons, Parameter.resolve_eq, taken, later]
      rfl

/-- All parameters before the one that is reported have values. -/
theorem bind_of_not_served (unserved : ¬ ∀ p ∈ signature, p.Served args) :
    ∃ before p after, signature = before ++ p :: after ∧ (∀ q ∈ before, q.Served args) ∧ ¬ p.Served args ∧
      signature.bind args = .error (.missingArgument p.name) := by
  cases missing : signature.find? (fun p => (p.value? args).isNone) with
  | none =>
      refine absurd (fun p member => ?_) unserved
      have found := List.find?_eq_none.mp missing p member
      rwa [Parameter.value?_isNone, Classical.not_not] at found
  | some p =>
      obtain ⟨here, before, after, split, earlier⟩ := List.find?_eq_some_iff_append.mp missing
      refine ⟨before, p, after, split, fun q member => ?_, Parameter.value?_isNone.mp here, bind_of_missing missing⟩
      have found := earlier q member
      rwa [Bool.not_eq_true', ← Bool.not_eq_true, Parameter.value?_isNone, Classical.not_not] at found

theorem exists_bind_iff : (∃ bound, signature.bind args = .ok bound) ↔ ∀ p ∈ signature, p.Served args := by
  refine ⟨fun ⟨bound, made⟩ => Classical.byContradiction fun unserved => ?_, exists_bind⟩
  obtain ⟨_, _, _, _, _, _, failed⟩ := bind_of_not_served unserved
  rw [made] at failed
  cases failed

/-- Under a name stands the value of the first parameter of that name. -/
theorem get?_of_bind : ∀ {bound : Bound}, signature.bind args = .ok bound → ∀ name,
    bound.get? name = (signature.find? (·.name = name)).bind (·.value? args) := by
  induction signature with
  | nil =>
      intro bound made name
      cases made
      rfl
  | cons p rest ih =>
      intro bound made name
      obtain ⟨value, more, taken, later, rfl⟩ := bind_cons_eq_ok.mp made
      rw [Bound.get?, List.lookup_cons, List.find?_cons]
      by_cases same : p.name = name
      · subst same
        simp [taken]
      · rw [beq_eq_false_iff_ne.mpr (Ne.symm same), decide_eq_false same]
        exact ih later name

theorem takes_of_bind (made : signature.bind args = .ok bound) {i : Nat} (here : signature[i]? = some p) :
    ∃ value, p.Takes args value ∧ bound[i]? = some (p.name, value) := by
  have served := exists_bind_iff.mp ⟨bound, made⟩ p (List.mem_of_getElem? here)
  obtain ⟨value, taken⟩ := Option.isSome_iff_exists.mp (Parameter.value?_isSome.mpr served)
  refine ⟨value, Parameter.value?_eq_some.mp taken, ?_⟩
  rw [bind_getElem? made, here, Option.bind_some, taken]
  rfl

theorem get?_eq_none_of_bind (made : signature.bind args = .ok bound) {name : Text} :
    bound.get? name = none ↔ ∀ p ∈ signature, p.name ≠ name := by
  rw [get?_of_bind made]
  cases found : signature.find? (·.name = name) with
  | none => simpa using List.find?_eq_none.mp found
  | some p =>
      have member := List.mem_of_find?_eq_some found
      have named : p.name = name := by simpa using List.find?_some found
      have served := Parameter.value?_isSome.mpr (exists_bind_iff.mp ⟨bound, made⟩ p member)
      constructor
      · intro nothing
        rw [Option.bind_some] at nothing
        rw [nothing] at served
        cases served
      · exact fun undeclared => absurd named (undeclared p member)

theorem get?_of_first {before after : Signature} (made : Signature.bind args (before ++ p :: after) = .ok bound)
    (first : ∀ q ∈ before, q.name ≠ p.name) : bound.get? p.name = p.value? args := by
  have passed : before.find? (·.name = p.name) = none := List.find?_eq_none.mpr (by simpa using first)
  rw [get?_of_bind made, List.find?_append, passed, Option.none_or, List.find?_cons, decide_eq_true rfl,
    Option.bind_some]

/-- What was supplied stays as it is when there are more arguments. -/
theorem bind_grow (made : signature.bind args = .ok bound)
    (more : ∀ name value, args name = some value → larger name = some value) :
    ∃ bigger, signature.bind larger = .ok bigger ∧
      ∀ (i : Nat) (p : Parameter), signature[i]? = some p → (args p.name).isSome → bigger[i]? = bound[i]? := by
  have grown : ∀ p ∈ signature, p.Served larger := by
    intro p member
    obtain ⟨i, here⟩ := List.getElem?_of_mem member
    obtain ⟨value, takes, _⟩ := takes_of_bind made here
    exact (takes.grow more).1
  obtain ⟨bigger, remade⟩ := exists_bind grown
  refine ⟨bigger, remade, fun i p here given => ?_⟩
  obtain ⟨value, takes, found⟩ := takes_of_bind made here
  have taken := Parameter.value?_eq_some.mpr ((takes.grow more).2 given)
  rw [bind_getElem? remade, here, Option.bind_some, taken, found]
  rfl

theorem length_values (made : signature.bind args = .ok bound) :
    bound.columns.values.length = signature.length := by
  have names := congrArg List.length (bind_names made)
  simpa [Bound.columns] using names

theorem takes_of_columns (made : signature.bind args = .ok bound) {i : Nat} (here : signature[i]? = some p) :
    ∃ value, p.Takes args value ∧ bound.columns.values[i]? = some value ∧ bound[i]? = some (p.name, value) := by
  obtain ⟨value, takes, found⟩ := takes_of_bind made here
  refine ⟨value, takes, ?_, found⟩
  rw [Bound.columns, List.getElem?_map, found]
  rfl

theorem columns_eq_ok {columns : Columns} :
    signature.columns args = .ok columns ↔ ∃ bound, signature.bind args = .ok bound ∧ bound.columns = columns := by
  rw [Columns.columns_eq, map_eq_ok]

/-- All parameters of a signature have values, and then each is found with its own, by its position and, unless an
earlier one has its name, by its name; or the first that has none is reported.  More arguments do no harm, and those
that are not declared do nothing. -/
theorem bind_all_or_nothing (args : Arguments) (signature : Signature) :
    ((∃ columns, signature.columns args = .ok columns) ↔ ∀ p ∈ signature, p.Served args) ∧
    (∀ columns, signature.columns args = .ok columns →
      (columns.names = signature.map Parameter.name ∧ columns.values.length = signature.length ∧
        signature.bind args = .ok columns.pairs ∧
        ∀ (i : Nat) (p : Parameter), signature[i]? = some p →
          ∃ value, p.Takes args value ∧ columns.values[i]? = some value ∧
            columns.pairs[i]? = some (p.name, value)) ∧
      (∀ name, columns.get name = .ok (columns.pairs.get? name) ∧
        (columns.get name = .ok none ↔ ∀ p ∈ signature, p.name ≠ name)) ∧
      (∀ before p after, signature = before ++ p :: after → (∀ q ∈ before, q.name ≠ p.name) →
        ∃ value, columns.values[before.length]? = some value ∧ columns.get p.name = .ok (some value)) ∧
      ∀ larger : Arguments, (∀ name value, args name = some value → larger name = some value) →
        ∃ more, signature.columns larger = .ok more ∧
          ∀ (i : Nat) (p : Parameter), signature[i]? = some p → (args p.name).isSome →
            more.values[i]? = columns.values[i]?) ∧
    ((¬ ∀ p ∈ signature, p.Served args) → ∃ before p after, signature = before ++ p :: after ∧
      (∀ q ∈ before, q.Served args) ∧ ¬ p.Served args ∧
      signature.columns args = .error (.missingArgument p.name)) ∧
    ∀ other : Arguments, (∀ p ∈ signature, other p.name = args p.name) →
      signature.columns other = signature.columns args := by
  refine ⟨?_, fun columns made => ?_, fun unserved => ?_, fun other same => ?_⟩
  · simp only [columns_eq_ok, ← exists_bind_iff]
    exact ⟨fun ⟨_, bound, made, _⟩ => ⟨bound, made⟩, fun ⟨bound, made⟩ => ⟨_, bound, made, rfl⟩⟩
  · obtain ⟨bound, bind_made, rfl⟩ := columns_eq_ok.mp made
    rw [Bound.pairs_columns]
    refine ⟨⟨bind_names bind_made, length_values bind_made, bind_made, fun i p => takes_of_columns bind_made⟩,
      fun name => ⟨Columns.get_columns bound name, ?_⟩, fun before p after split first => ?_, fun larger more => ?_⟩
    · rw [Columns.get_columns, Except.ok.injEq, get?_eq_none_of_bind bind_made]
    · subst split
      have here : (before ++ p :: after)[before.length]? = some p := by simp
      obtain ⟨value, takes, beside, _⟩ := takes_of_columns bind_made here
      refine ⟨value, beside, ?_⟩
      rw [Columns.get_columns, get?_of_first bind_made first, Parameter.value?_eq_some.mpr takes]
    · obtain ⟨bigger, remade, same⟩ := bind_grow bind_made more
      refine ⟨_, columns_eq_ok.mpr ⟨bigger, remade, rfl⟩, fun i p here given => ?_⟩
      rw [Bound.columns, Bound.columns, List.getElem?_map, List.getElem?_map, same i p here given]
  · obtain ⟨before, p, after, split, earlier, here, failed⟩ := bind_of_not_served unserved
    refine ⟨before, p, after, split, earlier, here, ?_⟩
    rw [Columns.columns_eq, failed]
    rfl
  · rw [Columns.columns_eq, Columns.columns_eq, bind_congr same]

/-- A supplied null counts, and a default goes before null. -/
example : Signature.columns (.ofList [("b", .null), ("x", .bool true)])
    [.withDefault "b" (.bool true), .orNull (.withDefault "p" (.bool false)), .optional "c"] =
    .ok ⟨["b".toList, "p".toList, "c".toList], [.null, .bool false, .null]⟩ := rfl

end Signature
end RouteView
