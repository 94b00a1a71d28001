import RouteView.Proofs.RouteTable.Refinement

/-!
# What a registration changes in the match order

A table is taken apart at one of its routes: the routes before it, itself, the routes after it.  A registration of
another name changes one of the two sides and leaves the names before the route alone (`Stands.insert`); one of its
own name puts the new route between two unchanged sides (`insert_split_same`).  The first match of a table is that of
its front or else that of its rest (`firstMatch_append`).  Hence a wildcard shadows every name that is registered
after its own (`resolve_shadowed`), and a route that is registered again makes a difference only to paths that reach
its position and that its old or its new pattern matches (`register_replaces`).
-/
set_option autoImplicit false
namespace RouteView

namespace RouteTable
variable {η : Type} {table before after : RouteTable η} {path : Text}

/-! ## First matches -/

theorem firstMatch_append (front rest : RouteTable η) (path : Text) :
    RouteTable.firstMatch path (front ++ rest) = (front.firstMatch path).or (rest.firstMatch path) := by
  simp only [firstMatch_eq_findSome?, List.findSome?_append]

theorem firstMatch_eq_none :
    table.firstMatch path = none ↔ ∀ route ∈ table, route.pattern.captures? path = none := by
  simp only [firstMatch_eq_findSome?, List.findSome?_eq_none_iff, Option.map_eq_none_iff]

theorem firstMatch_matches {found : Resolved η} (h : table.firstMatch path = some found) :
    found.route ∈ table ∧ found.route.pattern.captures? path = some found.captures := by
  rw [firstMatch_eq_findSome?] at h
  obtain ⟨route, member, hit⟩ := List.exists_of_findSome?_eq_some h
  obtain ⟨captures, matched, rfl⟩ := Option.map_eq_some_iff.mp hit
  exact ⟨member, matched⟩

/-- A first match whose route is among the front ones is that of the front. -/
theorem firstMatch_front {front rest : RouteTable η} {found : Resolved η}
    (h : RouteTable.firstMatch path (front ++ rest) = some found) (member : found.route ∈ front) :
    front.firstMatch path = some found := by
  have matched := (firstMatch_matches h).2
  rw [firstMatch_append] at h
  cases hit : front.firstMatch path with
  | some other =>
      rw [hit, Option.some_or] at h
      exact h
  | none =>
      have unmatched := firstMatch_eq_none.mp hit found.route member
      cases unmatched.symm.trans matched

/-- A route that does not match makes no difference. -/
theorem firstMatch_skip {front rest : RouteTable η} {route : Route η}
    (unmatched : route.pattern.captures? path = none) :
    RouteTable.firstMatch path (front ++ route :: rest) = RouteTable.firstMatch path (front ++ rest) := by
  rw [firstMatch_append, firstMatch_append, firstMatch, unmatched]

/-! ## Tables taken apart at a route -/

theorem insert_split_other {route w : Route η} (other : route.name ≠ w.name) :
    RouteTable.insert route (before ++ w :: after) =
      if route.name ∈ before.names then before.insert route ++ w :: after else before ++ w :: after.insert route := by
  induction before with
  | nil => simp [insert, names, Ne.symm other]
  | cons first rest ih =>
      have known : route.name ∈ names (first :: rest) ↔ first.name = route.name ∨ route.name ∈ names rest := by
        rw [names, List.map_cons, List.mem_cons, eq_comm]
        rfl
      rw [List.cons_append, insert, insert, ih]
      by_cases same : first.name = route.name
      · rw [if_pos same, if_pos same, if_pos (known.mpr (Or.inl same)), List.cons_append]
      · rw [if_neg same, if_neg same]
        by_cases member : route.name ∈ names rest
        · rw [if_pos member, if_pos (known.mpr (Or.inr member)), List.cons_append]
        · rw [if_neg member, if_neg fun inside => (known.mp inside).elim same member, List.cons_append]

theorem insert_split_same {route old : Route η} (same : old.name = route.name) (fresh : route.name ∉ before.names) :
    RouteTable.insert route (before ++ old :: after) = before ++ route :: after := by
  induction before with
  | nil => rw [List.nil_append, insert, if_pos same, List.nil_append]
  | cons first rest ih =>
      rw [names, List.map_cons, List.mem_cons, not_or] at fresh
      rw [List.cons_append, insert, if_neg (Ne.symm fresh.1), ih fresh.2, List.cons_append]

/-- The route is in the table, after the routes of these names and no others. -/
def Stands (w : Route η) (earlier : List Text) (table : RouteTable η) : Prop :=
  ∃ before after, table = before ++ w :: after ∧ RouteTable.names before = earlier

theorem Stands.insert {w route : Route η} {earlier : List Text} (h : Stands w earlier table)
    (other : route.name ≠ w.name) : Stands w earlier (table.insert route) := by
  obtain ⟨before, after, rfl, rfl⟩ := h
  rw [insert_split_other other]
  by_cases member : route.name ∈ names before
  · rw [if_pos member]
    refine ⟨RouteTable.insert route before, after, rfl, ?_⟩
    rw [names_insert, if_pos member]
  · rw [if_neg member]
    exact ⟨before, RouteTable.insert route after, rfl, rfl⟩

/-- Where a wildcard stands every path has a match, by the wildcard or by a route before it. -/
theorem Stands.firstMatch {w : Route η} {earlier : List Text} (h : Stands w earlier table)
    (wildcard : w.pattern = .wildcard) (path : Text) :
    ∃ found, table.firstMatch path = some found ∧ (found = ⟨w, []⟩ ∨ found.route.name ∈ earlier) := by
  obtain ⟨before, after, rfl, rfl⟩ := h
  rw [firstMatch_append]
  cases hit : before.firstMatch path with
  | some found =>
      refine ⟨found, rfl, Or.inr ?_⟩
      exact List.mem_map_of_mem (firstMatch_matches hit).1
  | none =>
      have matched : w.pattern.captures? path = some [] := by rw [wildcard, Pattern.captures?]
      refine ⟨⟨w, []⟩, ?_, Or.inl rfl⟩
      rw [Option.none_or, RouteTable.firstMatch, matched]

end RouteTable

/-- In a list without repetitions, names stand in the order of their first occurrences. -/
theorem idxOf_lt_of_eraseDups {names first rest : List Text} {a b : Text}
    (h : names.eraseDups = first ++ b :: rest) (member : a ∈ first) : names.idxOf a < names.idxOf b := by
  induction names using List.reverseRecOn generalizing rest with
  | nil => simp at h
  | append_singleton names name ih =>
      have known : ∀ {c : Text}, c ∈ names → (names ++ [name]).idxOf c = names.idxOf c :=
        fun inside => List.idxOf_append_of_mem inside
      rw [eraseDups_concat] at h
      by_cases again : name ∈ names
      · rw [if_pos again] at h
        have inside : ∀ c ∈ first ++ b :: rest, c ∈ names := fun c hc => List.mem_eraseDups.mp (h ▸ hc)
        rw [known (inside a (by simp [member])), known (inside b (by simp))]
        exact ih h
      · rw [if_neg again] at h
        rcases List.eq_nil_or_concat rest with rfl | ⟨others, last, rfl⟩
        · obtain ⟨front, same⟩ := List.append_inj' h rfl
          cases same
          have inside : a ∈ names := List.mem_eraseDups.mp (front ▸ member)
          rw [known inside, List.idxOf_append_of_notMem again]
          exact Nat.lt_of_lt_of_le (List.idxOf_lt_length_of_mem inside) (Nat.le_add_right ..)
        · rw [List.concat_eq_append, ← List.cons_append, ← List.append_assoc] at h
          have front := (List.append_inj' h rfl).1
          have inside : ∀ c ∈ first ++ b :: others, c ∈ names := fun c hc => List.mem_eraseDups.mp (front ▸ hc)
          rw [known (inside a (by simp [member])), known (inside b (by simp))]
          exact ih front

namespace IndexedTable
variable {η : Type}

/-! ## A wildcard in a table -/

/-- The first successful registration of `name` comes before that of `other`, if there is one. -/
def FirstBefore (calls : List (Registration η)) (name other : Text) : Prop :=
  ((history calls).map Route.name).idxOf name < ((history calls).map Route.name).idxOf other

theorem stands_of_mem {table : RouteTable η} {w : Route η} (h : w ∈ table) :
    ∃ earlier, RouteTable.Stands w earlier table := by
  obtain ⟨before, after, split⟩ := List.append_of_mem h
  exact ⟨RouteTable.names before, before, after, split, rfl⟩

theorem stands_run {calls more : List (Registration η)} {w : Route η} {earlier : List Text}
    (h : RouteTable.Stands w earlier (run calls).table) (kept : ∀ route ∈ history more, route.name ≠ w.name) :
    RouteTable.Stands w earlier (run (calls ++ more)).table := by
  induction more using List.reverseRecOn with
  | nil => rwa [List.append_nil]
  | append_singleton more call ih =>
      rw [history_append] at kept
      have still := ih fun route member => kept route (List.mem_append_left _ member)
      rw [← List.append_assoc, run_append]
      cases made : call.route with
      | error fault => rwa [perform_error made]
      | ok route =>
          have other : route.name ≠ w.name := by
            refine kept route (List.mem_append_right _ ?_)
            rw [made]
            exact List.mem_singleton_self route
          rw [perform_ok made, insert_table]
          exact still.insert other

theorem firstBefore_of_stands {calls : List (Registration η)} {w : Route η} {earlier : List Text} {name : Text}
    (h : RouteTable.Stands w earlier (run calls).table) (member : name ∈ earlier) :
    FirstBefore calls name w.name := by
  obtain ⟨before, after, split, rfl⟩ := h
  have order := names_run calls
  rw [split, RouteTable.names, List.map_append, List.map_cons] at order
  exact idxOf_lt_of_eraseDups order.symm member

/-- Once a wildcard is in the table, and until its name is registered again, every path is resolved, by the wildcard
or by a route whose name was registered earlier, whatever else is registered. -/
theorem resolve_shadowed {calls more : List (Registration η)} {w : Route η} (present : w ∈ (run calls).table)
    (wildcard : w.pattern = .wildcard) (kept : ∀ route ∈ history more, route.name ≠ w.name) (path : Text) :
    ∃ found, (run (calls ++ more)).resolve path = some found ∧
      (found.route = w ∧ found.captures = [] ∨ FirstBefore (calls ++ more) found.route.name w.name) ∧
      ∀ name, FirstBefore (calls ++ more) w.name name → found.route.name ≠ name := by
  obtain ⟨earlier, stands⟩ := stands_of_mem present
  have still := stands_run stands kept
  obtain ⟨found, matched, rfl | member⟩ := still.firstMatch wildcard (withoutQuery path)
  · refine ⟨⟨w, []⟩, matched, Or.inl ⟨rfl, rfl⟩, fun name later same => ?_⟩
    exact Nat.lt_irrefl _ (same ▸ later)
  · have first := firstBefore_of_stands still member
    refine ⟨found, matched, Or.inr first, fun name later same => ?_⟩
    exact Nat.lt_asymm first (same ▸ later)

/-- The last pattern of `b` matches the path, but its name came after the wildcard's. -/
theorem resolve_shadowed_late :
    let calls : List (Registration Nat) := [.register "a" "/a" none none, .register "w" "*" none (some 1)]
    let more : List (Registration Nat) :=
      [.register "b" "/b" none none, .register "w" "[" none none, .register "b" "/x" none none,
        .register "a" "/c" none none]
    ∃ found, (run (calls ++ more)).resolve "/x?q" = some found ∧
      FirstBefore (calls ++ more) "w" "b" ∧ found.route.name ≠ "b" := by
  intro calls more
  have present : (⟨"w", .wildcard, none, some 1⟩ : Route Nat) ∈ (run calls).table := List.mem_cons_of_mem _ (.head _)
  have kept : ∀ route ∈ history more, route.name ≠ "w" := by
    have names : (history more).map Route.name = ["b", "b", "a"] := by decide
    intro route member same
    have inside : ("w" : Text) ∈ (history more).map Route.name := same ▸ List.mem_map_of_mem member
    rw [names] at inside
    revert inside
    decide
  have registered : FirstBefore (calls ++ more) "w" "b" := by
    unfold FirstBefore
    decide
  obtain ⟨found, resolved, _, never⟩ := resolve_shadowed present rfl kept "/x?q"
  exact ⟨found, resolved, registered, never "b" registered⟩

/-! ## A route in the place of another one -/

theorem register_eq_ok {table after : IndexedTable η} {name source : Text} {view : Option Text}
    {handler : Option η} (h : table.register name source view handler = (.ok (), after)) :
    ∃ pattern, Pattern.parse source = .ok pattern ∧ after = table.insert ⟨name, pattern, view, handler⟩ := by
  rw [register, Route.make_eq] at h
  cases parsed : Pattern.parse source with
  | error fault =>
      rw [parsed] at h
      cases h
  | ok pattern =>
      rw [parsed] at h
      exact ⟨pattern, rfl, (Prod.mk.inj h).2.symm⟩

section Position
variable {table : IndexedTable η} {position : Nat} {old new : Route η} {path : Text}

theorem table_eq_sides (here : table.table[position]? = some old) :
    table.table = table.table.take position ++ old :: table.table.drop (position + 1) := by
  obtain ⟨inside, there⟩ := List.getElem?_eq_some_iff.mp here
  rw [← there, List.cons_getElem_drop_succ, List.take_append_drop]

theorem not_mem_sides (here : table.table[position]? = some old) :
    old.name ∉ RouteTable.names (table.table.take position) ∧
      old.name ∉ RouteTable.names (table.table.drop (position + 1)) := by
  have distinct := table.nodup_names
  rw [table_eq_sides here, RouteTable.names, List.map_append, List.map_cons, List.nodup_append,
    List.nodup_cons] at distinct
  obtain ⟨_, ⟨later, _⟩, apart⟩ := distinct
  exact ⟨fun member => apart _ member _ (.head _) rfl, later⟩

/-- A route that takes a position has the sides of the one that it replaces. -/
theorem insert_at (here : table.table[position]? = some old) (same : old.name = new.name) :
    (table.insert new).table = table.table.take position ++ new :: table.table.drop (position + 1) := by
  have fresh := (not_mem_sides here).1
  rw [same] at fresh
  rw [insert_table, table_eq_sides here, RouteTable.insert_split_same same fresh, ← table_eq_sides here]

theorem names_insert_at (here : table.table[position]? = some old) (same : old.name = new.name) :
    (table.insert new).table.names = table.table.names := by
  rw [insert_table, RouteTable.names_insert, ← same, if_pos]
  exact List.mem_map_of_mem (List.mem_of_getElem? here)

theorem firstMatch_take_eq_none (unmatched : ∀ earlier < position, ∀ route,
    table.table[earlier]? = some route → route.pattern.captures? path = none) :
    RouteTable.firstMatch path (table.table.take position) = none := by
  refine RouteTable.firstMatch_eq_none.mpr fun route member => ?_
  obtain ⟨earlier, there⟩ := List.mem_iff_getElem?.mp member
  rw [List.getElem?_take] at there
  split at there
  · next before => exact unmatched earlier before route there
  · cases there

theorem resolve_insert_before (here : table.table[position]? = some old) (same : old.name = new.name)
    {found : Resolved η} {earlier : Nat} (resolved : table.resolve path = some found)
    (there : table.table[earlier]? = some found.route) (before : earlier < position) :
    (table.insert new).resolve path = some found := by
  have member : found.route ∈ table.table.take position := by
    rw [List.mem_iff_getElem?]
    exact ⟨earlier, by rw [List.getElem?_take_of_lt before, there]⟩
  rw [resolve, RouteTable.resolve, table_eq_sides here] at resolved
  rw [resolve, RouteTable.resolve, insert_at here same, RouteTable.firstMatch_append,
    RouteTable.firstMatch_front resolved member, Option.some_or]

theorem resolve_insert_unmatched (here : table.table[position]? = some old) (same : old.name = new.name)
    (missed : old.pattern.captures? (withoutQuery path) = none)
    (misses : new.pattern.captures? (withoutQuery path) = none) :
    (table.insert new).resolve path = table.resolve path := by
  rw [resolve, RouteTable.resolve, insert_at here same, RouteTable.firstMatch_skip misses, resolve,
    RouteTable.resolve, table_eq_sides here, RouteTable.firstMatch_skip missed, ← table_eq_sides here]

theorem resolve_insert_reached (here : table.table[position]? = some old) (same : old.name = new.name)
    (unmatched : ∀ earlier < position, ∀ route, table.table[earlier]? = some route →
      route.pattern.captures? (withoutQuery path) = none) :
    (table.insert new).resolve path =
      RouteTable.firstMatch (withoutQuery path) (new :: table.table.drop (position + 1)) := by
  rw [resolve, RouteTable.resolve, insert_at here same, RouteTable.firstMatch_append,
    firstMatch_take_eq_none unmatched, Option.none_or]

end Position

/-- A successful registration of a name that stands at `position`: what it leaves alone, and what it changes. -/
theorem register_replaces {table after : IndexedTable η} {position : Nat} {old : Route η} {name source : Text}
    {view : Option Text} {handler : Option η} (here : table.table[position]? = some old) (named : old.name = name)
    (registered : table.register name source view handler = (.ok (), after)) :
    ∃ new : Route η, new.name = name ∧ Pattern.parse source = .ok new.pattern ∧ new.view = view ∧
      new.handler = handler ∧ after.get? name = some new ∧
      after.length = table.length ∧ after.table.names = table.table.names ∧
      (∀ other, other ≠ name → after.get? other = table.get? other) ∧
      ∀ path,
        (∀ found earlier, table.resolve path = some found → table.table[earlier]? = some found.route →
          earlier < position → after.resolve path = some found) ∧
        (old.pattern.captures? (withoutQuery path) = none → new.pattern.captures? (withoutQuery path) = none →
          after.resolve path = table.resolve path) ∧
        ((∀ earlier < position, ∀ route, table.table[earlier]? = some route →
            route.pattern.captures? (withoutQuery path) = none) →
          ((∃ found, after.resolve path = some found ∧ found.route.name = name) ↔
            ∃ captures, new.pattern.captures? (withoutQuery path) = some captures) ∧
          (∀ captures, new.pattern.captures? (withoutQuery path) = some captures →
            after.resolve path = some ⟨new, captures⟩) ∧
          (new.pattern.captures? (withoutQuery path) = none →
            after.resolve path = (table.table.drop (position + 1)).findSome? fun route =>
              (route.pattern.captures? (withoutQuery path)).map (Resolved.mk route))) := by
  obtain ⟨pattern, parsed, rfl⟩ := register_eq_ok registered
  subst named
  refine ⟨⟨old.name, pattern, view, handler⟩, rfl, parsed, rfl, rfl, ?_⟩
  generalize made : (⟨old.name, pattern, view, handler⟩ : Route η) = new
  have same : old.name = new.name := by rw [← made]
  have names := names_insert_at here same
  have size : (table.insert new).length = table.length := by
    have counted := congrArg List.length names
    rwa [RouteTable.names, RouteTable.names, List.length_map, List.length_map] at counted
  have look : ∀ other, (table.insert new).get? other = if old.name = other then some new else table.get? other := by
    intro other
    rw [get?_table, insert_table, RouteTable.get?_insert, get?_table, same]
  refine ⟨by rw [look, if_pos rfl], size, names, fun other away => by rw [look, if_neg (Ne.symm away)],
    fun path => ⟨fun found earlier => resolve_insert_before here same, resolve_insert_unmatched here same,
      fun unmatched => ?_⟩⟩
  rw [resolve_insert_reached here same unmatched, RouteTable.firstMatch]
  cases hit : new.pattern.captures? (withoutQuery path) with
  | some captures =>
      refine ⟨⟨fun _ => ⟨captures, rfl⟩, fun _ => ⟨⟨new, captures⟩, rfl, same.symm⟩⟩, ?_, ?_⟩
      · rintro _ ⟨⟩
        rfl
      · rintro ⟨⟩
  | none =>
      refine ⟨⟨?_, ?_⟩, ?_, fun _ => RouteTable.firstMatch_eq_findSome? _ _⟩
      · rintro ⟨found, later, again⟩
        have member := List.mem_map_of_mem (f := Route.name) (RouteTable.firstMatch_matches later).1
        exact absurd (again ▸ member) (not_mem_sides here).2
      · rintro ⟨_, ⟨⟩⟩
      · rintro _ ⟨⟩

/-- The second of three routes is moved to `/x/:id`, so that the third one gets `/b`. -/
theorem register_replaces_middle :
    let table : IndexedTable Nat :=
      run [.register "a" "/a" none none, .register "n" "/:id" none none, .register "c" "/b[/:x]" none (some 3)]
    let after := (table.register "n" "/x/:id" none (some 2)).2
    table.register "n" "/x/:id" none (some 2) = (.ok (), after) ∧ after.table.names = ["a", "n", "c"] ∧
      (∃ found, table.resolve "/b?q" = some found ∧ found.route.name = "n") ∧
      ∃ found, after.resolve "/b?q" = some found ∧ found.route.name = "c" := by
  intro table after
  have here : table.table[1]? = some ⟨"n", .path (.literal "/" (.parameter "id" .nil)), none, none⟩ := rfl
  have registered : table.register "n" "/x/:id" none (some 2) = (.ok (), after) := rfl
  obtain ⟨new, _, parsed, _, _, _, _, names, _, paths⟩ := register_replaces here rfl registered
  have pattern : Pattern.path (.literal "/x/" (.parameter "id" .nil)) = new.pattern := Except.ok.inj parsed
  have passed : ∀ earlier < 1, ∀ route, table.table[earlier]? = some route →
      route.pattern.captures? (withoutQuery "/b?q") = none := by
    intro earlier before route there
    obtain rfl := Nat.lt_one_iff.mp before
    cases there
    decide
  have missed : new.pattern.captures? (withoutQuery "/b?q") = none := by
    rw [← pattern]
    decide
  have later := ((paths "/b?q").2.2 passed).2.2 missed
  exact ⟨registered, names, ⟨_, rfl, rfl⟩, ⟨_, later, rfl⟩⟩

end IndexedTable
end RouteView
