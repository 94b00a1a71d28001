import RouteView.Proofs.Value.Ascending

/-!
# Laws of merging

Objects are merged key by key: `get?_mergeFields` says what the result has under each key, and since the result is
ascending (`ordered_merge`) this determines it (`mergeFields_eq`).  Hence a value that is laid on again changes
nothing (`merge_merge_self`), and objects without a common key may be laid on in either order (`merge_right_comm`).
-/
set_option autoImplicit false
namespace RouteView
namespace Value

/-- What holds of everything but objects, and of an object when it holds of its entries, holds of all values. -/
@[elab_as_elim]
theorem fields_induction {motive : Value → Prop} (flat : ∀ v, Flat v → motive v)
    (fields : ∀ entries, (∀ name v, (name, v) ∈ entries → motive v) → motive (.object entries)) : ∀ v, motive v
  | .object entries => fields entries fun _ v member => fields_induction flat fields v
  | .null => flat _ (fun _ => by nofun)
  | .bool _ => flat _ (fun _ => by nofun)
  | .int _ => flat _ (fun _ => by nofun)
  | .float _ => flat _ (fun _ => by nofun)
  | .text _ => flat _ (fun _ => by nofun)
  | .array _ => flat _ (fun _ => by nofun)
termination_by v => sizeOf v
decreasing_by
  have inside := List.sizeOf_lt_of_mem member
  simp only [Prod.mk.sizeOf_spec] at inside
  simp only [object.sizeOf_spec]
  omega

theorem flat_or_object (v : Value) : Flat v ∨ ∃ fields, v = .object fields := by
  cases v with
  | object fields => exact .inr ⟨fields, rfl⟩
  | _ => exact .inl fun _ => by nofun

theorem orderedFields_iff {fields : List (Text × Value)} :
    OrderedFields fields ↔ ∀ name v, (name, v) ∈ fields → Ordered v := by
  induction fields with
  | nil => exact ⟨fun _ _ _ member => (List.not_mem_nil member).elim, fun _ => trivial⟩
  | cons entry rest ih =>
      obtain ⟨key, value⟩ := entry
      rw [OrderedFields, ih]
      constructor
      · rintro ⟨first, others⟩ name v member
        rcases List.mem_cons.mp member with same | behind
        · cases same
          exact first
        · exact others name v behind
      · intro all
        exact ⟨all key value List.mem_cons_self, fun name v member => all name v (List.mem_cons_of_mem _ member)⟩

/-! ## One layer -/

section Layer
variable {old fields : Data}

theorem mergeFields_cons (old : Data) (name : Text) (v : Value) (rest : List (Text × Value)) :
    mergeFields old ((name, v) :: rest) =
      mergeFields (old.insert name (((old.get? name).map fun before => merge before v).getD v)) rest := by
  rw [mergeFields]
  cases old.get? name with
  | none => rfl
  | some before => rfl

/-- Under each key stands the merge of what the two objects have there, or what the one that has it has. -/
theorem get?_mergeFields (distinct : (Dictionary.keys fields).Nodup) (key : Text) :
    ∀ old : Data, (mergeFields old fields).get? key = Option.merge merge (old.get? key) (fields.get? key) := by
  induction fields with
  | nil =>
      intro old
      rw [mergeFields]
      cases old.get? key with
      | none => rfl
      | some before => rfl
  | cons entry rest ih =>
      obtain ⟨name, v⟩ := entry
      obtain ⟨once, distinct⟩ := List.nodup_cons.mp distinct
      intro old
      rw [mergeFields_cons, ih distinct, Dictionary.get?_insert, Dictionary.get?_cons]
      by_cases same : name = key
      · subst same
        rw [if_pos rfl, if_pos rfl, Dictionary.get?_eq_none once]
        cases old.get? name with
        | none => rfl
        | some before => rfl
      · rw [if_neg same, if_neg (Ne.symm same)]

theorem mem_keys_mergeFields (distinct : (Dictionary.keys fields).Nodup) (old : Data) (key : Text) :
    key ∈ Dictionary.keys (mergeFields old fields) ↔
      key ∈ Dictionary.keys old ∨ key ∈ Dictionary.keys fields := by
  simp only [Dictionary.mem_keys_iff, get?_mergeFields distinct]
  cases Dictionary.get? key old <;> cases Dictionary.get? key fields <;> simp [Option.merge]

/-- The merged entries are the ascending ones with the right value under each key. -/
theorem mergeFields_eq {merged : Data} (hold : old.Ascending) (hfields : fields.Ascending)
    (hmerged : merged.Ascending)
    (same : ∀ key, Option.merge merge (old.get? key) (fields.get? key) = merged.get? key) :
    mergeFields old fields = merged := by
  refine Dictionary.eq_of_get? (ascending_mergeFields fields old hold) hmerged fun key => ?_
  rw [get?_mergeFields hfields.nodup, same]

end Layer

theorem merge_flat (base : Value) {upper : Value} (flat : Flat upper) : merge base upper = upper := by
  cases upper with
  | object fields => exact absurd rfl (flat fields)
  | _ => rfl

theorem merge_object (old fields : Data) : merge (.object old) (.object fields) = .object (mergeFields old fields) :=
  rfl

/-! ## All layers -/

section Ordered
variable {old fields : Data} {base upper : Value}

theorem Ordered.get? {key : Text} {v : Value} (h : Ordered (.object fields)) (found : fields.get? key = some v) :
    Ordered v :=
  orderedFields_iff.mp h.2 key v (Dictionary.mem_of_get? found)

theorem ordered_merge (hbase : Ordered base) (hupper : Ordered upper) : Ordered (merge base upper) := by
  induction upper using fields_induction generalizing base with
  | flat upper flat =>
      rw [merge_flat base flat]
      exact hupper
  | fields fields ih =>
      cases base with
      | object old =>
          have ascending := ascending_mergeFields fields old hbase.1
          refine ⟨ascending, orderedFields_iff.mpr fun name v member => ?_⟩
          have found := (Dictionary.get?_eq_some ascending.nodup).mpr member
          rw [get?_mergeFields hupper.1.nodup] at found
          cases before : Dictionary.get? name old with
          | none =>
              rw [before, Option.merge_none_left] at found
              exact hupper.get? found
          | some first =>
              cases after : Dictionary.get? name fields with
              | none =>
                  rw [before, after] at found
                  cases found
                  exact hbase.get? before
              | some second =>
                  rw [before, after] at found
                  cases found
                  exact ih name second (Dictionary.mem_of_get? after) (hbase.get? before) (hupper.get? after)
      | _ => exact hupper

theorem merge_self (h : Ordered upper) : merge upper upper = upper := by
  induction upper using fields_induction with
  | flat upper flat => exact merge_flat upper flat
  | fields fields ih =>
      rw [merge_object, mergeFields_eq h.1 h.1 h.1 fun key => ?_]
      cases found : Dictionary.get? key fields with
      | none => rfl
      | some v => exact congrArg some (ih key v (Dictionary.mem_of_get? found) (h.get? found))

theorem merge_merge_self (hbase : Ordered base) (hupper : Ordered upper) :
    merge (merge base upper) upper = merge base upper := by
  induction upper using fields_induction generalizing base with
  | flat upper flat => rw [merge_flat _ flat, merge_flat _ flat]
  | fields fields ih =>
      cases base with
      | object old =>
          have ascending := ascending_mergeFields fields old hbase.1
          rw [merge_object, merge_object, mergeFields_eq ascending hupper.1 ascending fun key => ?_]
          rw [get?_mergeFields hupper.1.nodup]
          cases after : Dictionary.get? key fields with
          | none => cases Dictionary.get? key old <;> rfl
          | some second =>
              cases before : Dictionary.get? key old with
              | none => exact congrArg some (merge_self (hupper.get? after))
              | some first =>
                  exact congrArg some
                    (ih key second (Dictionary.mem_of_get? after) (hbase.get? before) (hupper.get? after))
      | _ => exact merge_self hupper

theorem merge_empty (old : Data) : merge (.object old) (.object []) = .object old := rfl

theorem empty_merge (hupper : Ordered upper) : merge (.object []) upper = upper := by
  cases upper with
  | object fields =>
      have same : mergeFields [] fields = fields :=
        mergeFields_eq List.Pairwise.nil hupper.1 hupper.1 fun _ => Option.merge_none_left ..
      rw [merge_object, same]
  | _ => rfl

/-- An object is laid on anything else as on the empty object. -/
theorem merge_object_of_flat (flat : Flat base) (hfields : Ordered (.object fields)) :
    merge base (.object fields) = merge (.object []) (.object fields) := by
  rw [merge_of_flat flat, empty_merge hfields]

theorem merge_right_comm {more : Data} (hbase : Ordered base) (hfields : Ordered (.object fields))
    (hmore : Ordered (.object more)) (apart : ∀ key ∈ Dictionary.keys fields, key ∉ Dictionary.keys more) :
    merge (merge base (.object fields)) (.object more) = merge (merge base (.object more)) (.object fields) := by
  have objects : ∀ old : Data, old.Ascending →
      mergeFields (mergeFields old fields) more = mergeFields (mergeFields old more) fields := by
    intro old ascending
    refine mergeFields_eq (ascending_mergeFields fields old ascending) hmore.1
      (ascending_mergeFields fields _ (ascending_mergeFields more old ascending)) fun key => ?_
    rw [get?_mergeFields hfields.1.nodup, get?_mergeFields hfields.1.nodup, get?_mergeFields hmore.1.nodup]
    by_cases member : key ∈ Dictionary.keys fields
    · rw [Dictionary.get?_eq_none (apart key member)]
      simp only [Option.merge_none_right]
    · rw [Dictionary.get?_eq_none member]
      simp only [Option.merge_none_right]
  rcases flat_or_object base with flat | ⟨old, rfl⟩
  · rw [merge_object_of_flat flat hfields, merge_object_of_flat flat hmore]
    exact congrArg Value.object (objects [] List.Pairwise.nil)
  · exact congrArg Value.object (objects old hbase.1)

end Ordered

/-- Only two objects are merged, key by key and at every depth; all else is replaced.  A layer that is laid on twice
counts once, the empty object adds nothing, and layers without a common key do not depend on their order. -/
theorem merge_laws {base upper : Value} (hbase : Ordered base) (hupper : Ordered upper) :
    Ordered (merge base upper) ∧
    (Flat base ∨ Flat upper → merge base upper = upper) ∧
    (∀ old fields, base = .object old → upper = .object fields → ∃ merged, merge base upper = .object merged ∧
      (∀ key, key ∈ Dictionary.keys merged ↔ key ∈ Dictionary.keys old ∨ key ∈ Dictionary.keys fields) ∧
      ∀ key, Dictionary.get? key merged =
        Option.merge merge (Dictionary.get? key old) (Dictionary.get? key fields)) ∧
    merge (merge base upper) upper = merge base upper ∧
    (∀ old, base = .object old → merge base (.object []) = base) ∧ merge (.object []) base = base ∧
    merge base base = base ∧
    ∀ fields more, upper = .object fields → Ordered (.object more) →
      (∀ key ∈ Dictionary.keys fields, key ∉ Dictionary.keys more) →
      merge (merge base upper) (.object more) = merge (merge base (.object more)) upper := by
  refine ⟨ordered_merge hbase hupper, ?replaced, ?merged, merge_merge_self hbase hupper, ?empty, empty_merge hbase,
    merge_self hbase, ?apart⟩
  case replaced =>
    rintro (flat | flat)
    · exact merge_of_flat flat upper
    · exact merge_flat base flat
  case merged =>
    rintro old fields rfl rfl
    have distinct := hupper.1.nodup
    exact ⟨mergeFields old fields, rfl, mem_keys_mergeFields distinct old, fun key => get?_mergeFields distinct key old⟩
  case empty =>
    rintro old rfl
    exact merge_empty old
  case apart =>
    rintro fields more rfl hmore apart
    exact merge_right_comm hbase hupper hmore apart

/-- Nested objects are merged, an array and null replace what was there, and the layers are apart at the top. -/
theorem merge_laws_nested :
    let base : Value := .object [("a", .object [("b", .int 1), ("c", .int 2)]), ("d", .object [("e", .null)])]
    let upper : Value := .object [("a", .object [("b", .array [.int 3])]), ("d", .null)]
    let more : Data := [("f", .bool true)]
    let merged : Data := [("a", .object [("b", .array [.int 3]), ("c", .int 2)]), ("d", .null)]
    Ordered base ∧ Ordered upper ∧ Ordered (.object more) ∧ merge base upper = .object merged ∧
      merge (.object merged) upper = .object merged ∧
      merge (.object merged) (.object more) = merge (merge base (.object more)) upper := by
  intro base upper more merged
  have hbase : Ordered base := ⟨by decide, ⟨by decide, trivial, trivial, trivial⟩, ⟨by decide, trivial, trivial⟩, trivial⟩
  have hupper : Ordered upper := ⟨by decide, ⟨by decide, ⟨trivial, trivial⟩, trivial⟩, trivial, trivial⟩
  have hmore : Ordered (.object more) := ⟨by decide, trivial, trivial⟩
  have laws := merge_laws hbase hupper
  have computed : merge base upper = .object merged := rfl
  refine ⟨hbase, hupper, hmore, computed, ?_, ?_⟩
  · rw [← computed]
    exact laws.2.2.2.1
  · rw [← computed]
    exact laws.2.2.2.2.2.2.2 _ more rfl hmore (by decide)

end Value
end RouteView
