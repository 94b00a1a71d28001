import RouteView.Settings.Loading

/-!
# The names of an object

An object that is read from a whole text has its names in ascending order, in JSON and in TOML
(`ascending_of_read`), and merging keeps them so; entries that lie on no objects are merged by inserting them
(`mergeFields_of_flat`).  A TOML document is a table from its first line to its last one, whatever its headers and
keys open and assign (`IsTable`).
-/
set_option autoImplicit false
namespace RouteView

/-! ## Merging -/

namespace Value

def Flat (v : Value) : Prop := ∀ fields, v ≠ .object fields

/-- A value that lies on no object stays as it is. -/
theorem merge_of_flat {before : Value} (flat : Flat before) (v : Value) : merge before v = v := by
  cases v with
  | object fields =>
      cases before with
      | object inner => exact absurd rfl (flat inner)
      | _ => rfl
  | _ => rfl

theorem mergeFields_of_flat {fields : Data} (distinct : (Dictionary.keys fields).Nodup) : ∀ old : Data,
    (∀ key ∈ Dictionary.keys fields, ∀ inner, old.get? key ≠ some (.object inner)) →
      mergeFields old fields = fields.foldl (fun dict (name, value) => dict.insert name value) old := by
  induction fields with
  | nil => intro old _; rfl
  | cons entry rest ih =>
      obtain ⟨key, v⟩ := entry
      obtain ⟨once, distinct⟩ := List.nodup_cons.mp distinct
      intro old flat
      have step : mergeFields old ((key, v) :: rest) = mergeFields (Dictionary.insert key v old) rest := by
        rw [mergeFields]
        cases found : Dictionary.get? key old with
        | none => rfl
        | some before =>
            have kept : merge before v = v := by
              refine merge_of_flat (fun inner same => ?_) v
              exact flat key List.mem_cons_self inner (by rw [found, same])
            simp only [kept]
      rw [step, List.foldl_cons]
      refine ih distinct _ fun other member inner => ?_
      have apart : key ≠ other := by
        rintro rfl
        exact once member
      rw [Dictionary.get?_insert, if_neg apart]
      exact flat other (List.mem_cons_of_mem _ member) inner

theorem ascending_mergeFields (fields : List (Text × Value)) :
    ∀ old : Data, Dictionary.Ascending old → Dictionary.Ascending (mergeFields old fields) := by
  induction fields with
  | nil => intro old ascending; exact ascending
  | cons entry rest ih => intro old ascending; exact ih _ (Dictionary.ascending_insert ascending)

end Value

/-! ## JSON -/

namespace Value

theorem flat_of_floatOf {negative : Bool} {significand : Nat} {e : Int} {v : Value}
    (h : floatOf negative significand e = some v) : Flat v := by
  obtain ⟨x, _, h⟩ := Option.bind_eq_some_iff.mp h
  obtain ⟨y, _, h⟩ := Option.bind_eq_some_iff.mp h
  cases h
  exact fun _ => by nofun

theorem Numeral.flat {n : Numeral} {v : Value} (h : n.value = some v) : Flat v := by
  simp only [Numeral.value] at h
  split at h
  · split at h
    · exact flat_of_floatOf h
    · split at h
      · cases h
        exact fun _ => by nofun
      · split at h
        · cases h
          exact fun _ => by nofun
        · exact flat_of_floatOf h
  · split at h
    · exact flat_of_floatOf h
    · split at h
      · cases h
      · cases h
        exact fun _ => by nofun

theorem ascending_of_readValue {depth fuel : Nat} {input rest : Text} {fields : Data}
    (h : readValue depth fuel input = some (.object fields, rest)) : Dictionary.Ascending fields := by
  cases fuel with
  | zero => cases h
  | succ fuel =>
      rw [readValue] at h
      split at h
      · cases h
      · simp at h
      · split at h
        · cases h
        · split at h <;> simp at h
      · split at h
        · cases h
        · split at h
          · cases h
            exact List.Pairwise.nil
          · obtain ⟨⟨entries, after⟩, _, same⟩ := Option.map_eq_some_iff.mp h
            cases same
            exact Dictionary.ascending_ofList entries
      · simp at h
      · simp at h
      · simp at h
      · obtain ⟨⟨numeral, after⟩, _, h⟩ := Option.bind_eq_some_iff.mp h
        obtain ⟨v, given, same⟩ := Option.bind_eq_some_iff.mp h
        cases same
        exact absurd rfl (numeral.flat given fields)

theorem ascending_ofJson? {depth : Nat} {input : Text} {fields : Data}
    (h : ofJson? depth input = some (.object fields)) : Dictionary.Ascending fields := by
  obtain ⟨⟨v, rest⟩, read, h⟩ := Option.bind_eq_some_iff.mp h
  simp only at h
  split at h
  · cases h
    exact ascending_of_readValue read
  · cases h

end Value

/-! ## TOML -/

namespace Toml
namespace Item

inductive IsTable : Item → Prop
  | mk (implicit dotted : Bool) (entries : List (Text × Item)) : IsTable (table implicit dotted entries)

def KeepsTables (f : Item → Option Item) : Prop := ∀ {item item' : Item}, f item = some item' → IsTable item'

theorem keepsTables_addKey (direct : Bool) (key : Text) (item : Item) : KeepsTables (addKey direct key item) := by
  intro table table' h
  rw [addKey.eq_def] at h
  split at h
  · split at h
    · cases h
    · cases h
      exact ⟨_, _, _⟩
  · cases h

theorem keepsTables_openTable (key : Text) : KeepsTables (openTable key) := by
  intro table table' h
  rw [openTable.eq_def] at h
  split at h
  · split at h
    · cases h
      exact ⟨_, _, _⟩
    · cases h
      exact ⟨_, _, _⟩
    · cases h
  · cases h

theorem keepsTables_openElement (key : Text) : KeepsTables (openElement key) := by
  intro table table' h
  rw [openElement.eq_def] at h
  split at h
  · split at h
    · cases h
      exact ⟨_, _, _⟩
    · cases h
      exact ⟨_, _, _⟩
    · cases h
  · cases h

theorem keepsTables_update (dotted : Bool) {f : Item → Option Item} (keeps : KeepsTables f) (path : List Text) :
    KeepsTables (update dotted f path) := by
  intro item item' h
  cases path with
  | nil => exact keeps h
  | cons key path =>
      cases item with
      | table implicit made entries =>
          rw [update] at h
          obtain ⟨child, _, same⟩ := Option.map_eq_some_iff.mp h
          cases same
          exact ⟨_, _, _⟩
      | _ => cases h

theorem keepsTables_assign (current path : List Text) (given : Item) :
    KeepsTables fun item => item.assign current path given := by
  intro item item' h
  simp only [assign] at h
  split at h
  · cases h
  · exact keepsTables_update _ (keepsTables_update _ (keepsTables_addKey _ _ _) _) _ h

theorem keepsTables_openHeader (element : Bool) (path : List Text) : KeepsTables (openHeader element path) := by
  intro item item' h
  rw [openHeader] at h
  split at h
  · cases h
  · cases element with
    | true => exact keepsTables_update _ (keepsTables_openElement _) _ h
    | false => exact keepsTables_update _ (keepsTables_openTable _) _ h

theorem IsTable.ascending {item : Item} (h : IsTable item) {fields : Data}
    (value : item.toValue? = some (.object fields)) : Dictionary.Ascending fields := by
  obtain ⟨implicit, dotted, entries⟩ := h
  rw [toValue?] at value
  split at value
  · next tag _ =>
      rw [spelled?.eq_def] at value
      split at value
      · split at value <;> cases value
      · cases value
  · obtain ⟨values, _, same⟩ := Option.map_eq_some_iff.mp value
    cases same
    exact Dictionary.ascending_ofList values

end Item

theorem isTable_readDocument (fuel : Nat) : ∀ (current : List Text) (root : Item) (input : Text) (result : Item),
    root.IsTable → readDocument fuel current root input = some result → result.IsTable := by
  induction fuel with
  | zero => intro current root input result _ h; cases h
  | succ fuel ih =>
      intro current root input result table h
      rw [readDocument] at h
      split at h
      · cases h
        exact table
      · obtain ⟨_, _, h⟩ := Option.bind_eq_some_iff.mp h
        exact ih _ _ _ _ table h
      · exact ih _ _ _ _ table h
      · obtain ⟨_, _, h⟩ := Option.bind_eq_some_iff.mp h
        exact ih _ _ _ _ table h
      · obtain ⟨⟨path, rest⟩, _, h⟩ := Option.bind_eq_some_iff.mp h
        simp only at h
        split at h
        · obtain ⟨opened, step, h⟩ := Option.bind_eq_some_iff.mp h
          obtain ⟨_, _, h⟩ := Option.bind_eq_some_iff.mp h
          exact ih _ _ _ _ (Item.keepsTables_openHeader true path step) h
        · cases h
      · obtain ⟨⟨path, rest⟩, _, h⟩ := Option.bind_eq_some_iff.mp h
        simp only at h
        split at h
        · obtain ⟨opened, step, h⟩ := Option.bind_eq_some_iff.mp h
          obtain ⟨_, _, h⟩ := Option.bind_eq_some_iff.mp h
          exact ih _ _ _ _ (Item.keepsTables_openHeader false path step) h
        · cases h
      · obtain ⟨⟨path, rest⟩, _, h⟩ := Option.bind_eq_some_iff.mp h
        simp only at h
        split at h
        · obtain ⟨⟨v, after⟩, _, h⟩ := Option.bind_eq_some_iff.mp h
          obtain ⟨assigned, step, h⟩ := Option.bind_eq_some_iff.mp h
          obtain ⟨_, _, h⟩ := Option.bind_eq_some_iff.mp h
          exact ih _ _ _ _ (Item.keepsTables_assign current path v step) h
        · cases h

theorem ascending_read? {input : Text} {fields : Data} (h : read? input = some (.object fields)) :
    Dictionary.Ascending fields := by
  obtain ⟨root, read, value⟩ := Option.bind_eq_some_iff.mp h
  exact (isTable_readDocument _ [] Item.newTable _ root ⟨_, _, _⟩ read).ascending value

end Toml

theorem Settings.Format.ascending_of_read {format : Format} {source : Text} {fields : Data}
    (h : format.read? source = some (.object fields)) : Dictionary.Ascending fields := by
  cases format with
  | json => exact Value.ascending_ofJson? h
  | toml => exact Toml.ascending_read? h

end RouteView
