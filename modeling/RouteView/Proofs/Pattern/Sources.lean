import RouteView.Dictionary
import RouteView.Pattern.Basic

/-!
# Sources of parameters

The texts of parameters may be given as a list of entries, as a map or as an object.  A map holds one entry a name, in
any order, and a later entry replaces an earlier one (`Holds`), whereas the first entry of a list counts; hence a map
gives what a list gives when it was filled from the end of the list (`Holds.get?_eq`).  `assemble_sources` says that
a pattern then makes the same of all of them.
-/
set_option autoImplicit false
namespace RouteView

/-! ## Maps -/

section Map
variable {α : Type}

/-- The entries have been put into the map one after the other, from the last one to the first.  Each one takes the
place of an entry of its name or joins the others, and in what order the map keeps its entries is its own affair. -/
inductive Holds : List (Text × α) → List (Text × α) → Prop
  | empty : Holds [] []
  | add {entries map next : List (Text × α)} {name : Text} {value : α} : Holds entries map →
      name ∉ Dictionary.keys map → next.Perm ((name, value) :: map) → Holds ((name, value) :: entries) next
  | replace {entries map others next : List (Text × α)} {name : Text} {old value : α} : Holds entries map →
      map.Perm ((name, old) :: others) → next.Perm ((name, value) :: others) → Holds ((name, value) :: entries) next

variable {entries map : List (Text × α)}

theorem nodup_of_perm {other : List (Text × α)} (perm : map.Perm other) (distinct : (Dictionary.keys map).Nodup) :
    (Dictionary.keys other).Nodup := (perm.map Prod.fst).nodup_iff.mp distinct

theorem Holds.nodup (h : Holds entries map) : (Dictionary.keys map).Nodup := by
  induction h with
  | empty => exact List.nodup_nil
  | add _ new perm ih => exact nodup_of_perm perm.symm (List.nodup_cons.mpr ⟨new, ih⟩)
  | @replace _ _ others _ name _ value _ split perm ih =>
      have before := nodup_of_perm split ih
      have after : (Dictionary.keys ((name, value) :: others)).Nodup := before
      exact nodup_of_perm perm.symm after

/-- A map has under each name the first entry of the list. -/
theorem Holds.get?_eq (h : Holds entries map) (name : Text) :
    Dictionary.get? name map = Dictionary.get? name entries := by
  induction h with
  | empty => rfl
  | add held new perm ih =>
      have distinct := (held.add new perm).nodup
      rw [Dictionary.get?_perm perm distinct, Dictionary.get?_cons, Dictionary.get?_cons, ih]
  | replace held split perm ih =>
      have distinct := (held.replace split perm).nodup
      rw [Dictionary.get?_perm perm distinct, Dictionary.get?_cons, Dictionary.get?_cons]
      split
      · rfl
      · next other =>
          rw [← ih, Dictionary.get?_perm split held.nodup, Dictionary.get?_cons, if_neg other]

namespace Dictionary

theorem insert_perm_add {name : Text} {value : α} {dict : Dictionary α} (new : name ∉ keys dict) :
    (insert name value dict).Perm ((name, value) :: dict) := by
  induction dict with
  | nil => exact List.Perm.refl _
  | cons entry rest ih =>
      obtain ⟨key, old⟩ := entry
      have other : key ≠ name := by
        rintro rfl
        exact new List.mem_cons_self
      have later : name ∉ keys rest := fun member => new (List.mem_cons_of_mem _ member)
      rw [insert, if_neg other]
      split
      · exact List.Perm.refl _
      · exact ((ih later).cons _).trans (List.Perm.swap ..)

theorem insert_perm_replace {name : Text} {old : α} (value : α) {dict : Dictionary α} (ascending : Ascending dict)
    (found : get? name dict = some old) :
    ∃ others, dict.Perm ((name, old) :: others) ∧ (insert name value dict).Perm ((name, value) :: others) := by
  induction dict with
  | nil => cases found
  | cons entry rest ih =>
      obtain ⟨key, first⟩ := entry
      obtain ⟨above, ascending⟩ := ascending_cons.mp ascending
      rw [get?_cons] at found
      by_cases same : name = key
      · subst same
        rw [if_pos rfl, Option.some.injEq] at found
        subst found
        rw [insert, if_pos rfl]
        exact ⟨rest, List.Perm.refl _, List.Perm.refl _⟩
      · rw [if_neg same] at found
        have behind : key < name := above name (mem_keys_of_mem (mem_of_get? found))
        obtain ⟨others, before, after⟩ := ih ascending found
        rw [insert, if_neg (Ne.symm same), if_neg (Std.not_lt.mpr (Std.le_of_lt behind))]
        exact ⟨(key, first) :: others, (before.cons _).trans (List.Perm.swap ..),
          (after.cons _).trans (List.Perm.swap ..)⟩

/-- A dictionary is such a map. -/
theorem holds_ofList (entries : List (Text × α)) : Holds entries (ofList entries.reverse) := by
  have last : ∀ (name : Text) (value : α) (rest : List (Text × α)),
      ofList ((name, value) :: rest).reverse = insert name value (ofList rest.reverse) := by
    intro name value rest
    rw [List.reverse_cons, ofList, List.foldl_append]
    rfl
  induction entries with
  | nil => exact Holds.empty
  | cons entry rest ih =>
      obtain ⟨name, value⟩ := entry
      rw [last]
      cases found : get? name (ofList rest.reverse) with
      | none =>
          have new : name ∉ keys (ofList rest.reverse) := by
            intro member
            obtain ⟨old, known⟩ := mem_keys_iff.mp member
            cases found.symm.trans known
          exact ih.add new (insert_perm_add new)
      | some old =>
          obtain ⟨others, before, after⟩ := insert_perm_replace value (ascending_ofList _) found
          exact ih.replace before after

end Dictionary
end Map

/-! ## Parameters -/

/-- The text that a value stands for in a URL: null for none, a text for itself, and any other value for its JSON
text. -/
def Value.urlText? : Value → Option Text
  | .null => none
  | .text t => some t
  | other => some other.json

namespace Parameters

def objectEntries (object : Data) : List (Text × Text) :=
  object.filterMap fun entry => entry.2.urlText?.map (Prod.mk entry.1)

def quoted (entries : List (Text × Text)) : List (Text × Value) := entries.map fun (name, text) => (name, .text text)

theorem ofList_apply (entries : List (Text × Text)) (name : Text) :
    ofList entries name = Dictionary.get? name entries := by
  rw [ofList]
  induction entries with
  | nil => rfl
  | cons entry rest ih =>
      obtain ⟨key, text⟩ := entry
      rw [List.lookup_cons, Dictionary.get?_cons, ih]
      by_cases same : name = key
      · simp [same]
      · rw [beq_eq_false_iff_ne.mpr same, if_neg same]

theorem ofObject_apply (object : Data) (name : Text) :
    ofObject object name = (Dictionary.get? name object).bind Value.urlText? := by
  rw [ofObject]
  cases Dictionary.get? name object with
  | none => rfl
  | some value => cases value <;> rfl

theorem get?_quoted (entries : List (Text × Text)) (name : Text) :
    Dictionary.get? name (quoted entries) = (Dictionary.get? name entries).map Value.text := by
  rw [quoted]
  induction entries with
  | nil => rfl
  | cons entry rest ih =>
      obtain ⟨key, text⟩ := entry
      rw [List.map_cons, Dictionary.get?_cons, Dictionary.get?_cons, ih]
      split <;> rfl

theorem keys_quoted (entries : List (Text × Text)) : Dictionary.keys (quoted entries) = Dictionary.keys entries := by
  simp [Dictionary.keys, quoted]

theorem get?_objectEntries {object : Data} (distinct : (Dictionary.keys object).Nodup) (name : Text) :
    Dictionary.get? name (objectEntries object) = (Dictionary.get? name object).bind Value.urlText? := by
  rw [objectEntries]
  induction object with
  | nil => rfl
  | cons entry rest ih =>
      obtain ⟨key, value⟩ := entry
      obtain ⟨once, distinct⟩ := List.nodup_cons.mp distinct
      rw [Dictionary.get?_cons]
      cases given : value.urlText? with
      | none =>
          rw [List.filterMap_cons_none (by simp [given]), ih distinct]
          by_cases same : name = key
          · subst same
            rw [if_pos rfl, Dictionary.get?_eq_none once, Option.bind_none, Option.bind_some, given]
          · rw [if_neg same]
      | some text =>
          rw [List.filterMap_cons_some (b := (key, text)) (by simp [given]), Dictionary.get?_cons, ih distinct]
          by_cases same : name = key
          · rw [if_pos same, if_pos same, Option.bind_some, given]
          · rw [if_neg same, if_neg same]

section Sources
variable {entries : List (Text × Text)}

theorem ofDictionary_of_holds {map : List (Text × Text)} (held : Holds entries map) :
    ofDictionary map = ofList entries := by
  funext name
  rw [ofDictionary, held.get?_eq, ofList_apply]

theorem ofObject_of_holds {object : Data} (held : Holds (quoted entries) object) :
    ofObject object = ofList entries := by
  funext name
  rw [ofObject_apply, held.get?_eq, get?_quoted, ofList_apply]
  cases Dictionary.get? name entries with
  | none => rfl
  | some text => rfl

theorem ofList_perm {order : List (Text × Text)} (distinct : (Dictionary.keys entries).Nodup)
    (perm : order.Perm entries) : ofList order = ofList entries := by
  funext name
  rw [ofList_apply, ofList_apply, Dictionary.get?_perm perm.symm distinct]

theorem ofObject_eq {object : Data} (distinct : (Dictionary.keys object).Nodup) :
    ofObject object = ofList (objectEntries object) := by
  funext name
  rw [ofObject_apply, ofList_apply, get?_objectEntries distinct]

end Sources
end Parameters

namespace Pattern
open Parameters (ofList ofDictionary ofObject quoted objectEntries)

/-- A pattern makes the same path, or the same fault, of entries in a list, in a map and in an object. -/
theorem assemble_sources (pattern : Pattern) (route : Text) :
    (∀ entries : List (Text × Text),
      ((∀ map, Holds entries map →
          pattern.assemble route (ofDictionary map) = pattern.assemble route (ofList entries)) ∧
        (∀ object, Holds (quoted entries) object →
          pattern.assemble route (ofObject object) = pattern.assemble route (ofList entries)) ∧
        Holds entries (Dictionary.ofList entries.reverse) ∧
        Holds (quoted entries) (Dictionary.ofList (quoted entries).reverse)) ∧
      ((Dictionary.keys entries).Nodup → ∀ order, order.Perm entries →
        pattern.assemble route (ofList order) = pattern.assemble route (ofList entries) ∧
        (∀ map, Holds order map →
          pattern.assemble route (ofDictionary map) = pattern.assemble route (ofList entries)) ∧
        ∀ object, Holds (quoted order) object →
          pattern.assemble route (ofObject object) = pattern.assemble route (ofList entries))) ∧
    ∀ object : Data, (Dictionary.keys object).Nodup →
      pattern.assemble route (ofObject object) = pattern.assemble route (ofList (objectEntries object)) := by
  refine ⟨fun entries => ⟨⟨fun map held => ?_, fun object held => ?_, Dictionary.holds_ofList _,
    Dictionary.holds_ofList _⟩, fun distinct order perm => ?_⟩, fun object distinct => ?_⟩
  · rw [Parameters.ofDictionary_of_holds held]
  · rw [Parameters.ofObject_of_holds held]
  · have same := Parameters.ofList_perm distinct perm
    refine ⟨by rw [same], fun map held => ?_, fun object held => ?_⟩
    · rw [Parameters.ofDictionary_of_holds held, same]
    · rw [Parameters.ofObject_of_holds held, same]
  · rw [Parameters.ofObject_eq distinct]

/-- Of two texts of one name the first in the list is the last in the map, which keeps its entries in an order of its
own; a null leaves a group out. -/
theorem assemble_sources_repeated :
    let pattern : Pattern := .path (.literal "/" (.parameter "x" (.optional (.literal "-" (.parameter "y" .nil)) .nil)))
    let entries : List (Text × Text) := [("x", "1"), ("y", "2"), ("x", "3")]
    let map : List (Text × Text) := [("y", "2"), ("x", "1")]
    let object : Data := [("x", .int 7), ("y", .null)]
    Holds entries map ∧ pattern.assemble "r" (ofDictionary map) = pattern.assemble "r" (ofList entries) ∧
      pattern.assemble "r" (ofList entries) = .ok "/1-2" ∧ (Dictionary.keys object).Nodup ∧
      pattern.assemble "r" (ofObject object) = pattern.assemble "r" (ofList [("x", "7")]) ∧
      pattern.assemble "r" (ofList map.reverse) = pattern.assemble "r" (ofList map) := by
  intro pattern entries map object
  have held : Holds entries map :=
    .replace (.add (.add .empty (by decide) (.refl _)) (by decide) (.refl _)) (List.Perm.swap ..) (List.Perm.swap ..)
  obtain ⟨lists, objects⟩ := assemble_sources pattern "r"
  have reordered := (lists map).2 (by decide) map.reverse (List.reverse_perm map)
  exact ⟨held, (lists entries).1.1 map held, rfl, by decide, objects object (by decide), reordered.1⟩

end Pattern
end RouteView
