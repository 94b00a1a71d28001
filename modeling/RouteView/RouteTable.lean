import RouteView.Pattern.Basic

/-!
# The route table

Named routes in the order in which their names were first registered.  A route that is registered again
takes the place of the old one.  A path is resolved to the first route whose pattern matches it without
its query, and a URL is built from the pattern of a named route.  `get?_insert` and `names_insert` say
what a registration changes.  Applications hold such a table with an index of its names.
-/
set_option autoImplicit false
namespace RouteView

/-- A named pattern with the view shown for it and whatever handles its requests. -/
structure Route (η : Type) where
  name : Text
  pattern : Pattern
  view : Option Text
  handler : Option η

/-- Routes in match order, one for each name. -/
abbrev RouteTable (η : Type) := List (Route η)

/-- A route that matched, and the texts that its parameters captured. -/
structure Resolved (η : Type) where
  route : Route η
  captures : Captures

def withoutQuery (path : Text) : Text := Text.before '?' path

namespace Route
variable {η : Type}

def make (name source : Text) (view : Option Text) (handler : Option η) : Attempt (Route η) := do
  return ⟨name, ← Pattern.parse source, view, handler⟩

def inspect (route : Route η) : Text :=
  "Route \x7b name: " ++ Text.quote route.name ++ ", pattern: " ++ route.pattern.inspect ++
    ", view: " ++ (match route.view with
      | none => ("None" : Text)
      | some view => "Some(" ++ Text.quote view ++ ")") ++
    ", has_handler: " ++ Value.boolText route.handler.isSome ++ " \x7d"

end Route

namespace RouteTable
variable {η : Type}

/-- The table with `route` in the place of the route of its name, or at the end. -/
def insert (route : Route η) : RouteTable η → RouteTable η
  | [] => [route]
  | first :: rest => if first.name = route.name then route :: rest else first :: insert route rest

def names (table : RouteTable η) : List Text := table.map Route.name

def get? (table : RouteTable η) (name : Text) : Option (Route η) := table.find? (·.name = name)

/-- The first route that matches a path without a query. -/
def firstMatch (path : Text) : RouteTable η → Option (Resolved η)
  | [] => none
  | route :: rest =>
      match route.pattern.captures? path with
      | some captures => some ⟨route, captures⟩
      | none => firstMatch path rest

/-- The first route that matches the path without its query. -/
def resolve (table : RouteTable η) (path : Text) : Option (Resolved η) :=
  table.firstMatch (withoutQuery path)

def reverse (table : RouteTable η) (name : Text) (params : Parameters) : Attempt Text :=
  match table.get? name with
  | none => .error (.unknownRoute name)
  | some route => route.pattern.assemble name params

def inspect (table : RouteTable η) : Text := Text.bracket (table.map Route.inspect)

theorem get?_insert (table : RouteTable η) (route : Route η) (name : Text) :
    (table.insert route).get? name = if route.name = name then some route else table.get? name := by
  induction table with
  | nil => simp [insert, get?]
  | cons first rest ih =>
      simp only [insert, get?] at ih ⊢
      by_cases hf : first.name = route.name
      · simp only [List.find?_cons, hf]
        by_cases hn : route.name = name <;> simp [hn]
      · simp only [if_neg hf, List.find?_cons]
        by_cases hn : first.name = name
        · have hr : route.name ≠ name := fun he => hf (hn.trans he.symm)
          simp [hn, hr]
        · simp [hn, ih]

theorem names_insert (table : RouteTable η) (route : Route η) :
    (table.insert route).names =
      if route.name ∈ table.names then table.names else table.names ++ [route.name] := by
  induction table with
  | nil => simp [insert, names]
  | cons first rest ih =>
      simp only [insert, names] at ih ⊢
      by_cases hf : first.name = route.name
      · simp [hf]
      · rw [if_neg hf, List.map_cons, ih]
        by_cases hr : route.name ∈ rest.map Route.name
        · simp [hr]
        · simp [hr, Ne.symm hf]

end RouteTable

def Resolved.inspect {η : Type} (found : Resolved η) : Text :=
  "ResolverMatch \x7b route: " ++ Text.quote found.route.name ++ ", captures: \x7b" ++
    Text.join ", " (found.captures.map fun (name, text) => Text.quote name ++ ": " ++ Text.quote text) ++
    "\x7d \x7d"

end RouteView
