import RouteView.RouteTable

/-!
# Indexed route tables

A route table with the position of every name, so that a route is found by its name without a search.  The
positions are those of the names in the table and nothing else (`located`); hence two routes never share a
name, and a position that is looked up is always one of the table.
-/
set_option autoImplicit false
namespace RouteView

structure IndexedTable (η : Type) where
  table : RouteTable η
  positions : Dictionary Nat
  located : ∀ name position, positions.get? name = some position ↔ table.names[position]? = some name

namespace RouteTable
variable {η : Type}

theorem names_set {table : RouteTable η} {position : Nat} {route : Route η}
    (h : table.names[position]? = some route.name) : names (table.set position route) = table.names := by
  obtain ⟨inside, same⟩ := List.getElem?_eq_some_iff.mp h
  rw [names, List.map_set, ← same]
  exact List.set_getElem_self inside

theorem names_append (table : RouteTable η) (route : Route η) :
    names (table ++ [route]) = table.names ++ [route.name] := by
  rw [names, List.map_append, List.map_singleton]
  rfl

end RouteTable

namespace IndexedTable
variable {η : Type}

theorem position_lt {table : IndexedTable η} {name : Text} {position : Nat}
    (found : table.positions.get? name = some position) : position < table.table.length := by
  have inside := (List.getElem?_eq_some_iff.mp ((table.located name position).mp found)).1
  rwa [RouteTable.names, List.length_map] at inside

/-- A name is at the end of the table once its route is there, and all others stay where they are. -/
theorem located_append {table : IndexedTable η} {route : Route η}
    (missing : table.positions.get? route.name = none) (name : Text) (position : Nat) :
    (table.positions.insert route.name table.table.length).get? name = some position ↔
      (RouteTable.names (table.table ++ [route]))[position]? = some name := by
  have known := table.located name position
  have size : table.table.names.length = table.table.length := List.length_map ..
  rw [Dictionary.get?_insert, RouteTable.names_append, List.getElem?_append, size]
  by_cases inside : position < table.table.length
  · rw [if_pos inside, ← known]
    by_cases same : route.name = name
    · subst same
      rw [if_pos rfl, missing, Option.some.injEq]
      constructor
      · intro h; omega
      · intro h; cases h
    · rw [if_neg same]
  · have beyond : table.positions.get? name ≠ some position := fun found => inside (position_lt found)
    rw [if_neg inside]
    by_cases same : route.name = name
    · subst same
      rw [if_pos rfl, Option.some.injEq, List.getElem?_singleton]
      constructor
      · rintro rfl; simp
      · intro h
        split at h
        · omega
        · cases h
    · rw [if_neg same, List.getElem?_singleton]
      constructor
      · intro h; exact absurd h beyond
      · intro h
        split at h
        · exact absurd (Option.some.inj h) same
        · cases h

def empty : IndexedTable η := ⟨[], [], fun _ _ => by simp [Dictionary.get?, RouteTable.names]⟩

/-- The table with `route` at the position of its name, or at the end when the name has none. -/
def insert (table : IndexedTable η) (route : Route η) : IndexedTable η :=
  match found : table.positions.get? route.name with
  | some position => ⟨table.table.set position route, table.positions, fun name other => by
      rw [RouteTable.names_set ((table.located _ _).mp found)]
      exact table.located name other⟩
  | none => ⟨table.table ++ [route], table.positions.insert route.name table.table.length,
      located_append found⟩

/-- Registers a route of a pattern source; the table stays as it is when the source is malformed. -/
def register (table : IndexedTable η) (name source : Text) (view : Option Text) (handler : Option η) :
    Attempt Unit × IndexedTable η :=
  match Route.make name source view handler with
  | .error fault => (.error fault, table)
  | .ok route => (.ok (), table.insert route)

def get? (table : IndexedTable η) (name : Text) : Option (Route η) :=
  match found : table.positions.get? name with
  | some position => some (table.table.get ⟨position, position_lt found⟩)
  | none => none

def contains (table : IndexedTable η) (name : Text) : Bool := (table.positions.get? name).isSome

def length (table : IndexedTable η) : Nat := table.table.length

def isEmpty (table : IndexedTable η) : Bool := table.table.isEmpty

def resolve (table : IndexedTable η) (path : Text) : Option (Resolved η) := table.table.resolve path

def reverse (table : IndexedTable η) (name : Text) (params : Parameters) : Attempt Text :=
  match table.get? name with
  | none => .error (.unknownRoute name)
  | some route => route.pattern.assemble name params

/-- The table without its handlers, which is all that building URLs needs. -/
def addresses (table : IndexedTable η) : IndexedTable Unit :=
  ⟨table.table.map fun route => ⟨route.name, route.pattern, route.view, none⟩, table.positions, by
    simpa [RouteTable.names, Function.comp_def] using table.located⟩

def inspect (table : IndexedTable η) : Text := table.table.inspect

end IndexedTable
end RouteView
