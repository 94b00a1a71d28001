import Mathlib.Data.List.Induction
import Mathlib.Data.List.Nodup
import RouteView.Proofs.Pattern.Parameters
import RouteView.RouteTable.Indexed

/-!
# What an indexed table holds

Positions are only a way to find a route: `insert_table` and `get?_table` say that an indexed table is changed
and read like the list of its routes.  From there a run of registrations, some of which may fail, is told by its
history of successful ones: the names stand in the order of their first registrations (`names_run`) and each has
the route of its last one (`get?_run`).  `run_refines` says so of everything that can be seen of a table.
-/
set_option autoImplicit false
namespace RouteView

/-! ## Lists of routes -/

namespace RouteTable
variable {η : Type}

theorem insert_eq_set {table : RouteTable η} {route : Route η} : ∀ {position : Nat},
    table.names[position]? = some route.name →
    (∀ earlier < position, table.names[earlier]? ≠ some route.name) →
    table.insert route = table.set position route := by
  induction table with
  | nil => intro position found _; simp [names] at found
  | cons first rest ih =>
      intro position found first_position
      rw [insert]
      cases position with
      | zero =>
          have same : first.name = route.name := by simpa [names] using found
          rw [if_pos same, List.set_cons_zero]
      | succ position =>
          have different : first.name ≠ route.name := by
            intro same
            exact first_position 0 (Nat.succ_pos position) (by simp [names, same])
          have later : (names rest)[position]? = some route.name := by simpa [names] using found
          rw [if_neg different, List.set_cons_succ, ih later]
          intro earlier before
          have away := first_position (earlier + 1) (Nat.succ_lt_succ before)
          simpa [names] using away

theorem insert_eq_append {table : RouteTable η} {route : Route η} (missing : route.name ∉ table.names) :
    table.insert route = table ++ [route] := by
  induction table with
  | nil => rfl
  | cons first rest ih =>
      rw [names, List.map_cons, List.mem_cons, not_or] at missing
      rw [insert, if_neg (Ne.symm missing.1), ih missing.2]
      rfl

theorem get?_isSome {table : RouteTable η} {name : Text} :
    (table.get? name).isSome = true ↔ name ∈ table.names := by
  simp [get?, names, List.find?_isSome]

theorem firstMatch_eq_findSome? (table : RouteTable η) (path : Text) :
    table.firstMatch path =
      table.findSome? fun route => (route.pattern.captures? path).map (Resolved.mk route) := by
  induction table with
  | nil => rfl
  | cons first rest ih =>
      rw [firstMatch, List.findSome?_cons]
      cases first.pattern.captures? path with
      | some captures => rfl
      | none => exact ih

end RouteTable

/-- Assembling a path fails for want of a parameter and for nothing else. -/
theorem Pattern.assemble_error {pattern : Pattern} {route : Text} {params : Parameters} {fault : Fault}
    (h : pattern.assemble route params = .error fault) : ∃ name, fault = .missingParameter name route := by
  cases pattern with
  | wildcard => cases h
  | path segments =>
      obtain ⟨name, _, cause⟩ := (Segments.assemble_eq_error segments).mp h
      exact ⟨name, cause⟩

/-! ## An index and its table -/

namespace IndexedTable
variable {η : Type}

theorem positions_eq_none {table : IndexedTable η} {name : Text} :
    table.positions.get? name = none ↔ name ∉ table.table.names := by
  rw [Option.eq_none_iff_forall_ne_some, List.mem_iff_getElem?]
  simp only [ne_eq, table.located, not_exists]

theorem position_unique {table : IndexedTable η} {name : Text} {position other : Nat}
    (found : table.table.names[position]? = some name) (again : table.table.names[other]? = some name) :
    position = other := by
  have first := (table.located name position).mpr found
  have second := (table.located name other).mpr again
  rw [first] at second
  exact Option.some.inj second

theorem ne_of_earlier {table : IndexedTable η} {name : Text} {position earlier : Nat}
    (found : table.table.names[position]? = some name) (before : earlier < position) :
    table.table.names[earlier]? ≠ some name := by
  intro again
  have same := position_unique again found
  omega

theorem nodup_names (table : IndexedTable η) : table.table.names.Nodup := by
  rw [List.nodup_iff_getElem?_ne_getElem?]
  intro position other before inside same
  obtain ⟨name, found⟩ : ∃ name, table.table.names[other]? = some name :=
    ⟨_, List.getElem?_eq_getElem inside⟩
  exact ne_of_earlier found before (same.trans found)

theorem get?_table (table : IndexedTable η) (name : Text) : table.get? name = table.table.get? name := by
  unfold get?
  split
  · next position found =>
      have named := (table.located name position).mp found
      have inside : position < table.table.length := position_lt found
      symm
      rw [RouteTable.get?, List.find?_eq_some_iff_getElem]
      refine ⟨?_, position, inside, rfl, fun earlier before => ?_⟩
      · simpa [RouteTable.names, List.getElem?_eq_getElem inside] using named
      · have short : earlier < table.table.length := Nat.lt_trans before inside
        have different := ne_of_earlier named before
        simpa [RouteTable.names, List.getElem?_eq_getElem short] using different
  · next missing =>
      have absent := positions_eq_none.mp missing
      rw [← RouteTable.get?_isSome] at absent
      exact (Option.not_isSome_iff_eq_none.mp absent).symm

theorem get?_of_mem (table : IndexedTable η) {route : Route η} (member : route ∈ table.table) :
    table.table.get? route.name = some route := by
  obtain ⟨position, inside, here⟩ := List.mem_iff_getElem.mp member
  have named : table.table.names[position]? = some route.name := by
    simp [RouteTable.names, List.getElem?_eq_getElem inside, here]
  have found := (table.located route.name position).mpr named
  rw [← get?_table, get?]
  split
  · next other again =>
      obtain rfl : other = position := Option.some.inj (again.symm.trans found)
      exact congrArg some here
  · next missing =>
      rw [missing] at found
      cases found

theorem insert_table (table : IndexedTable η) (route : Route η) :
    (table.insert route).table = table.table.insert route := by
  unfold insert
  split
  · next position found =>
      have named := (table.located route.name position).mp found
      exact (RouteTable.insert_eq_set named fun earlier before => ne_of_earlier named before).symm
  · next missing => exact (RouteTable.insert_eq_append (positions_eq_none.mp missing)).symm

theorem reverse_table (table : IndexedTable η) (name : Text) (params : Parameters) :
    table.reverse name params = table.table.reverse name params := by
  cases found : table.table.get? name with
  | none => rw [reverse, RouteTable.reverse, get?_table, found]
  | some route => rw [reverse, RouteTable.reverse, get?_table, found]

theorem get?_addresses (table : IndexedTable η) (name : Text) : table.addresses.table.get? name =
    (table.table.get? name).map fun route => ⟨route.name, route.pattern, route.view, none⟩ := by
  rw [RouteTable.get?, RouteTable.get?, addresses, List.find?_map]
  rfl

theorem reverse_addresses (table : IndexedTable η) (name : Text) (params : Parameters) :
    table.addresses.reverse name params = table.reverse name params := by
  rw [reverse_table, reverse_table, RouteTable.reverse, RouteTable.reverse, get?_addresses]
  cases table.table.get? name with
  | none => rfl
  | some route => rfl

theorem contains_iff {table : IndexedTable η} {name : Text} :
    table.contains name = true ↔ name ∈ table.table.names := by
  rw [contains, ← Option.not_isNone, Bool.not_eq_true', ← Bool.not_eq_true, Option.isNone_iff_eq_none,
    positions_eq_none, not_not]

theorem reverse_unknown {table : IndexedTable η} {name : Text} {params : Parameters} :
    table.reverse name params = .error (.unknownRoute name) ↔ name ∉ table.table.names := by
  rw [reverse_table, RouteTable.reverse, ← RouteTable.get?_isSome]
  cases found : table.table.get? name with
  | none => simp
  | some route =>
      simp only [Option.isSome_some, not_true, iff_false]
      intro failed
      obtain ⟨parameter, other⟩ := Pattern.assemble_error failed
      cases other

end IndexedTable

/-! ## Runs of registrations -/

inductive Registration (η : Type)
  | register (name source : Text) (view : Option Text) (handler : Option η)
  | insert (route : Route η)

def Registration.route {η : Type} : Registration η → Attempt (Route η)
  | register name source view handler => (Pattern.parse source).map fun pattern => ⟨name, pattern, view, handler⟩
  | insert route => .ok route

theorem Route.make_eq {η : Type} (name source : Text) (view : Option Text) (handler : Option η) :
    make name source view handler = (Pattern.parse source).map fun pattern => ⟨name, pattern, view, handler⟩ := by
  rw [make]
  cases Pattern.parse source with
  | error fault => rfl
  | ok pattern => rfl

namespace IndexedTable
variable {η : Type}

def perform (table : IndexedTable η) : Registration η → Attempt Unit × IndexedTable η
  | .register name source view handler => table.register name source view handler
  | .insert route => (.ok (), table.insert route)

def run (calls : List (Registration η)) : IndexedTable η :=
  calls.foldl (fun table call => (table.perform call).2) empty

/-- The routes that the calls register, one for each call that succeeds. -/
def history (calls : List (Registration η)) : List (Route η) :=
  calls.filterMap fun call => call.route.toOption

theorem perform_ok {table : IndexedTable η} {call : Registration η} {route : Route η}
    (h : call.route = .ok route) : table.perform call = (.ok (), table.insert route) := by
  cases call with
  | register name source view handler =>
      have made : Route.make name source view handler = .ok route := (Route.make_eq ..).trans h
      rw [perform, register, made]
  | insert other =>
      cases h
      rfl

theorem perform_error {table : IndexedTable η} {call : Registration η} {fault : Fault}
    (h : call.route = .error fault) : table.perform call = (.error fault, table) := by
  cases call with
  | register name source view handler =>
      have failed : Route.make name source view handler = .error fault := (Route.make_eq ..).trans h
      rw [perform, register, failed]
  | insert other => cases h

theorem run_append (calls : List (Registration η)) (call : Registration η) :
    run (calls ++ [call]) = ((run calls).perform call).2 := by
  rw [run, List.foldl_append]
  rfl

theorem history_append (calls : List (Registration η)) (call : Registration η) :
    history (calls ++ [call]) = history calls ++ call.route.toOption.toList := by
  rw [history, List.filterMap_append]
  cases made : call.route.toOption with
  | none => simp [history, made]
  | some route => simp [history, made]

theorem run_cases (calls : List (Registration η)) (call : Registration η) :
    (∃ route, (run (calls ++ [call])).table = (run calls).table.insert route ∧
      history (calls ++ [call]) = history calls ++ [route]) ∨
    ((run (calls ++ [call])).table = (run calls).table ∧ history (calls ++ [call]) = history calls) := by
  rw [run_append, history_append]
  cases made : call.route with
  | ok route =>
      refine Or.inl ⟨route, ?_, rfl⟩
      rw [perform_ok made, insert_table]
  | error fault =>
      refine Or.inr ⟨?_, List.append_nil _⟩
      rw [perform_error made]

theorem names_run (calls : List (Registration η)) :
    (run calls).table.names = ((history calls).map Route.name).eraseDups := by
  -- from the end: the last call meets the table that all others left
  induction calls using List.reverseRecOn with
  | nil => rfl
  | append_singleton calls call ih =>
      rcases run_cases calls call with ⟨route, table, registered⟩ | ⟨table, registered⟩
      · rw [table, registered, RouteTable.names_insert, List.map_append, List.map_singleton, eraseDups_concat,
          ih]
        simp only [List.mem_eraseDups]
      · rw [table, registered, ih]

theorem get?_run (calls : List (Registration η)) (name : Text) :
    (run calls).table.get? name = (history calls).reverse.find? (·.name = name) := by
  induction calls using List.reverseRecOn with
  | nil => rfl
  | append_singleton calls call ih =>
      rcases run_cases calls call with ⟨route, table, registered⟩ | ⟨table, registered⟩
      · rw [table, registered, RouteTable.get?_insert, ih, List.reverse_append, List.reverse_singleton,
          List.singleton_append, List.find?_cons]
        by_cases same : route.name = name
        · simp [same]
        · simp [same]
      · rw [table, registered, ih]

/-- Everything that can be seen of a table after any calls, in terms of the routes that they registered: the list, what
one more call does, look-up by name and the positions behind it, the first match, and the URL of a name. -/
theorem run_refines (calls : List (Registration η)) :
    ((run calls).table.names = ((history calls).map Route.name).eraseDups ∧ (run calls).table.names.Nodup ∧
      ∀ route ∈ (run calls).table, (history calls).reverse.find? (·.name = route.name) = some route) ∧
    (∀ call, ((run calls).perform call).1 = call.route.map (fun _ => ()) ∧
      ∀ fault, ((run calls).perform call).1 = .error fault → ((run calls).perform call).2 = run calls) ∧
    (∀ name, (run calls).get? name = (run calls).table.find? (·.name = name) ∧
      ((run calls).contains name = true ↔ ∃ route ∈ (run calls).table, route.name = name) ∧
      ∀ position, (run calls).positions.get? name = some position →
        ∃ route, (run calls).table[position]? = some route ∧ route.name = name) ∧
    (run calls).length = (run calls).table.length ∧
    (∀ path, (run calls).resolve path = (run calls).table.findSome? fun route =>
      (route.pattern.captures? (withoutQuery path)).map (Resolved.mk route)) ∧
    ∀ name params,
      (∀ route ∈ (run calls).table, route.name = name →
        (run calls).reverse name params = route.pattern.assemble name params) ∧
      ((run calls).reverse name params = .error (.unknownRoute name) ↔
        ∀ route ∈ (run calls).table, route.name ≠ name) := by
  have mem_names : ∀ name, name ∈ (run calls).table.names ↔ ∃ route ∈ (run calls).table, route.name = name :=
    fun name => List.mem_map
  refine ⟨⟨names_run calls, nodup_names _, fun route member => ?_⟩, fun call => ?_,
    fun name => ⟨get?_table _ name, contains_iff.trans (mem_names name), fun position found => ?_⟩, rfl,
    fun path => RouteTable.firstMatch_eq_findSome? _ _, fun name params => ⟨fun route member named => ?_, ?_⟩⟩
  · rw [← get?_run]
    exact get?_of_mem _ member
  · cases made : call.route with
    | ok route =>
        rw [perform_ok made]
        exact ⟨rfl, fun fault failed => by cases failed⟩
    | error fault =>
        rw [perform_error made]
        exact ⟨rfl, fun _ _ => rfl⟩
  · have named := ((run calls).located name position).mp found
    rwa [RouteTable.names, List.getElem?_map, Option.map_eq_some_iff] at named
  · subst named
    rw [reverse_table, RouteTable.reverse, get?_of_mem _ member]
  · rw [reverse_unknown, mem_names]
    simp only [not_exists, not_and, ne_eq]

end IndexedTable
end RouteView
