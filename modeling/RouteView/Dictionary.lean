import RouteView.Text.Basic

/-!
# Dictionaries

A dictionary holds one value per name, its entries in ascending order of names (characters are compared
by code point).  `get?_insert` and `mem_keys_insert` describe insertion through look-up and the names,
`insert_insert` says that a later entry replaces an earlier one;
`ascending_insert`, `ascending_erase` and `ascending_ofList` say that the order is kept.  Entries of distinct
names are found under them in whatever order they stand (`get?_eq_some`, `get?_perm`), also after they have been
inserted one by one (`get?_foldl_insert`, `get?_ofList`).  Ascending entries are determined by look-up
(`eq_of_get?`).
-/
set_option autoImplicit false
namespace RouteView

/-- Entries in ascending order of their names. -/
abbrev Dictionary (α : Type) := List (Text × α)

namespace Dictionary
variable {α : Type}

def get? (name : Text) : Dictionary α → Option α
  | [] => none
  | (key, value) :: rest => if key = name then some value else get? name rest

/-- The dictionary with `value` under `name`, whether the name was there or not. -/
def insert (name : Text) (value : α) : Dictionary α → Dictionary α
  | [] => [(name, value)]
  | (key, old) :: rest =>
      if key = name then (name, value) :: rest
      else if name < key then (name, value) :: (key, old) :: rest
      else (key, old) :: insert name value rest

def erase (name : Text) : Dictionary α → Dictionary α
  | [] => []
  | (key, value) :: rest => if key = name then rest else (key, value) :: erase name rest

/-- The dictionary of a list of entries; a later entry replaces an earlier one of its name. -/
def ofList (entries : List (Text × α)) : Dictionary α :=
  entries.foldl (fun dict (name, value) => insert name value dict) []

def keys (dict : Dictionary α) : List Text := dict.map Prod.fst

def Ascending (dict : Dictionary α) : Prop := dict.keys.Pairwise (· < ·)

instance (dict : Dictionary α) : Decidable dict.Ascending := by unfold Ascending; infer_instance

theorem get?_cons (name key : Text) (value : α) (rest : Dictionary α) :
    get? name ((key, value) :: rest) = if name = key then some value else get? name rest := by
  rw [get?]
  by_cases same : name = key
  · rw [if_pos same, if_pos same.symm]
  · rw [if_neg same, if_neg (Ne.symm same)]

theorem get?_insert (name : Text) (value : α) (other : Text) (dict : Dictionary α) :
    get? other (insert name value dict) = if name = other then some value else get? other dict := by
  induction dict with
  | nil => simp [insert, get?]
  | cons entry rest ih =>
      obtain ⟨key, old⟩ := entry
      simp only [insert]
      by_cases hk : key = name
      · subst hk; rw [if_pos rfl]; simp only [get?]; split <;> rfl
      · rw [if_neg hk]
        by_cases hl : name < key
        · rw [if_pos hl]; simp only [get?]
        · rw [if_neg hl]
          simp only [get?, ih]
          by_cases ho : key = other
          · subst ho; simp [Ne.symm hk]
          · simp [ho]

theorem insert_insert (name : Text) (first second : α) (dict : Dictionary α) :
    insert name second (insert name first dict) = insert name second dict := by
  induction dict with
  | nil => simp [insert]
  | cons entry rest ih =>
      obtain ⟨key, old⟩ := entry
      simp only [insert]
      by_cases same : key = name
      · rw [if_pos same, if_pos same, insert, if_pos rfl]
      · rw [if_neg same, if_neg same]
        by_cases before : name < key
        · rw [if_pos before, if_pos before, insert, if_pos rfl]
        · rw [if_neg before, if_neg before, insert, if_neg same, if_neg before, ih]

theorem mem_keys_insert {name key : Text} {value : α} {dict : Dictionary α} :
    key ∈ keys (insert name value dict) ↔ key = name ∨ key ∈ keys dict := by
  induction dict with
  | nil => simp [insert, keys]
  | cons entry rest ih =>
      obtain ⟨first, old⟩ := entry
      simp only [insert, keys] at ih ⊢
      split
      · next h => subst h; simp
      · split
        · simp
        · simp only [List.map_cons, List.mem_cons, ih]; grind

theorem ascending_cons {key : Text} {value : α} {rest : Dictionary α} :
    Ascending ((key, value) :: rest) ↔ (∀ other ∈ keys rest, key < other) ∧ Ascending rest := by
  simp [Ascending, keys]

theorem ascending_insert {name : Text} {value : α} {dict : Dictionary α} (h : Ascending dict) :
    Ascending (insert name value dict) := by
  induction dict with
  | nil => simp [insert, Ascending, keys]
  | cons entry rest ih =>
      obtain ⟨key, old⟩ := entry
      rw [ascending_cons] at h
      simp only [insert]
      by_cases hk : key = name
      · rw [if_pos hk]
        subst hk
        exact ascending_cons.mpr h
      · rw [if_neg hk]
        by_cases hl : name < key
        · rw [if_pos hl]
          refine ascending_cons.mpr ⟨?_, ascending_cons.mpr h⟩
          intro other ho
          rcases List.mem_cons.mp ho with rfl | ho
          · exact hl
          · exact List.lt_trans hl (h.1 other ho)
        · rw [if_neg hl]
          refine ascending_cons.mpr ⟨?_, ih h.2⟩
          intro other ho
          rcases mem_keys_insert.mp ho with rfl | ho
          · exact Std.lt_of_le_of_ne (Std.not_lt.mp hl) hk
          · exact h.1 other ho

theorem ascending_ofList (entries : List (Text × α)) : Ascending (ofList entries) := by
  have general : ∀ (more : List (Text × α)) (dict : Dictionary α), Ascending dict →
      Ascending (more.foldl (fun dict (name, value) => insert name value dict) dict) := by
    intro more
    induction more with
    | nil => intro dict h; exact h
    | cons entry rest ih => intro dict h; exact ih _ (ascending_insert h)
  exact general entries [] List.Pairwise.nil

section LookUp
variable {name : Text} {value : α} {dict : Dictionary α}

theorem mem_of_get? (h : get? name dict = some value) : (name, value) ∈ dict := by
  induction dict with
  | nil => cases h
  | cons entry rest ih =>
      obtain ⟨key, found⟩ := entry
      rw [get?_cons] at h
      by_cases same : name = key
      · rw [if_pos same, Option.some.injEq] at h
        rw [same, h]
        exact List.mem_cons_self
      · rw [if_neg same] at h
        exact List.mem_cons_of_mem _ (ih h)

theorem mem_keys_of_mem (h : (name, value) ∈ dict) : name ∈ keys dict := List.mem_map.mpr ⟨_, h, rfl⟩

theorem get?_eq_none (absent : name ∉ keys dict) : get? name dict = none :=
  Option.eq_none_iff_forall_ne_some.mpr fun _ found => absent (mem_keys_of_mem (mem_of_get? found))

theorem mem_keys_iff : name ∈ keys dict ↔ ∃ value, get? name dict = some value := by
  constructor
  · intro member
    cases found : get? name dict with
    | some value => exact ⟨value, rfl⟩
    | none =>
        induction dict with
        | nil => cases member
        | cons entry rest ih =>
            obtain ⟨key, old⟩ := entry
            rw [get?_cons] at found
            split at found
            · cases found
            · next apart => exact ih ((List.mem_cons.mp member).resolve_left apart) found
  · rintro ⟨value, found⟩
    exact mem_keys_of_mem (mem_of_get? found)

theorem get?_eq_some (distinct : (keys dict).Nodup) : get? name dict = some value ↔ (name, value) ∈ dict := by
  refine ⟨mem_of_get?, fun member => ?_⟩
  induction dict with
  | nil => cases member
  | cons entry rest ih =>
      obtain ⟨key, found⟩ := entry
      obtain ⟨once, distinct⟩ := List.nodup_cons.mp distinct
      rw [get?_cons]
      rcases List.mem_cons.mp member with same | behind
      · cases same
        exact if_pos rfl
      · have apart : name ≠ key := by
          rintro rfl
          exact once (mem_keys_of_mem behind)
        rw [if_neg apart, ih distinct behind]

theorem get?_perm {other : Dictionary α} (perm : dict.Perm other) (distinct : (keys dict).Nodup) (name : Text) :
    get? name dict = get? name other := by
  have distinct' : (keys other).Nodup := (perm.map Prod.fst).nodup_iff.mp distinct
  refine Option.ext fun value => ?_
  rw [get?_eq_some distinct, get?_eq_some distinct', perm.mem_iff]

theorem Ascending.nodup (h : Ascending dict) : (keys dict).Nodup :=
  List.Pairwise.imp Std.ne_of_lt h

/-- Ascending entries are determined by what is found under each name. -/
theorem eq_of_get? {other : Dictionary α} (h : Ascending dict) (h' : Ascending other)
    (same : ∀ name, get? name dict = get? name other) : dict = other := by
  have members : ∀ entry : Text × α, entry ∈ dict ↔ entry ∈ other := by
    intro entry
    obtain ⟨key, found⟩ := entry
    rw [← get?_eq_some h.nodup, ← get?_eq_some h'.nodup, same]
  have apart : ∀ {entries : Dictionary α}, Ascending entries → entries.Nodup :=
    fun h => List.Pairwise.of_map Prod.fst (fun _ _ apart same => apart (same ▸ rfl)) h.nodup
  have perm : dict.Perm other := (List.perm_ext_iff_of_nodup (apart h) (apart h')).mpr members
  exact perm.eq_of_pairwise (fun _ _ _ _ before after => absurd before (Std.not_lt.mpr (Std.le_of_lt after)))
    (List.pairwise_map.mp h) (List.pairwise_map.mp h')

theorem get?_erase (h : Ascending dict) (name other : Text) :
    get? other (erase name dict) = if name = other then none else get? other dict := by
  induction dict with
  | nil => simp [erase, get?]
  | cons entry rest ih =>
      obtain ⟨key, old⟩ := entry
      obtain ⟨above, ascending⟩ := ascending_cons.mp h
      simp only [erase]
      by_cases same : key = name
      · subst same
        rw [if_pos rfl, get?_cons]
        by_cases asked : key = other
        · subst asked
          rw [if_pos rfl]
          exact get?_eq_none fun member => Std.lt_irrefl (above _ member)
        · rw [if_neg asked, if_neg (Ne.symm asked)]
      · rw [if_neg same, get?_cons, get?_cons, ih ascending]
        by_cases asked : name = other
        · subst asked
          rw [if_neg (Ne.symm same), if_pos rfl, if_pos rfl]
        · rw [if_neg asked, if_neg asked]

theorem erase_sublist (name : Text) (dict : Dictionary α) : (erase name dict).Sublist dict := by
  induction dict with
  | nil => exact .slnil
  | cons entry rest ih =>
      obtain ⟨key, old⟩ := entry
      simp only [erase]
      split
      · exact List.sublist_cons_self ..
      · exact ih.cons_cons _

theorem ascending_erase (name : Text) (h : Ascending dict) : Ascending (erase name dict) :=
  h.sublist ((erase_sublist name dict).map Prod.fst)

theorem get?_foldl_insert {entries : List (Text × α)} (distinct : (keys entries).Nodup) (name : Text) :
    ∀ dict : Dictionary α, get? name (entries.foldl (fun dict (name, value) => insert name value dict) dict) =
      (get? name entries).or (get? name dict) := by
  -- for all entries before the first one, since each turn starts from what the last one left
  induction entries with
  | nil => intro dict; rfl
  | cons entry rest ih =>
      obtain ⟨key, value⟩ := entry
      obtain ⟨once, distinct⟩ := List.nodup_cons.mp distinct
      intro dict
      rw [List.foldl_cons, ih distinct, get?_insert, get?_cons]
      by_cases same : name = key
      · rw [if_pos same, if_pos same.symm, get?_eq_none (same ▸ once)]
        rfl
      · rw [if_neg same, if_neg (Ne.symm same)]

theorem get?_ofList {entries : List (Text × α)} (distinct : (keys entries).Nodup) (name : Text) :
    get? name (ofList entries) = get? name entries := by
  rw [ofList, get?_foldl_insert distinct]
  exact Option.or_none

end LookUp

end Dictionary
end RouteView
