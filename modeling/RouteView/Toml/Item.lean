import RouteView.Toml.Scalar

/-!
# Items of a TOML document

A document under construction is a tree of tables.  A table is implicit when only its parts have been
named so far, and dotted when a dotted key made it.  Headers and keys extend the tree by the rules of
the format: no key is given twice, a header opens each table once, and a dotted key stays among tables
that dotted keys made.

A table keeps its keys in the order of the document, because the first one tells what the table stands
for: one that begins with `momentKey` is the tagged form of a date or time.  `keys_put` says where a key
goes.
-/
set_option autoImplicit false
namespace RouteView.Toml

inductive Item
  /-- A truth value, number or string. -/
  | scalar (v : Value)
  /-- A date or time in its normal form. -/
  | moment (normal : Text)
  | array (items : List Item)
  /-- A table written as one value; nothing is added to it later. -/
  | inline (entries : List (Text × Item))
  | table (implicit dotted : Bool) (entries : List (Text × Item))
  | tables (elements : List Item)

namespace Item

def newTable : Item := table false false []

/-- The entries with `item` under `key`: in its place if the key is there, at the end otherwise. -/
def put (key : Text) (item : Item) : List (Text × Item) → List (Text × Item)
  | [] => [(key, item)]
  | (other, old) :: rest => if other = key then (key, item) :: rest else (other, old) :: put key item rest

/-- The entries with `item` under `key` at the end. -/
def putLast (key : Text) (item : Item) (entries : List (Text × Item)) : List (Text × Item) :=
  entries.filter (fun entry => entry.1 ≠ key) ++ [(key, item)]

theorem keys_put (key : Text) (item : Item) (entries : List (Text × Item)) :
    (put key item entries).map Prod.fst =
      if key ∈ entries.map Prod.fst then entries.map Prod.fst else entries.map Prod.fst ++ [key] := by
  induction entries with
  | nil => simp [put]
  | cons entry rest ih =>
      obtain ⟨other, old⟩ := entry
      by_cases h : other = key
      · simp [put, h]
      · simp only [put, if_neg h, List.map_cons, ih, List.mem_cons, Ne.symm h, false_or]
        split <;> rfl

/-- The item with `f` applied to the table at the end of a path.  Missing tables on the way are made; of
several tables of one name the last is meant; a dotted key passes only through implicit tables. -/
def update (dotted : Bool) (f : Item → Option Item) : List Text → Item → Option Item
  | [], item => f item
  | key :: path, table implicit made entries =>
      let child : Option Item := match entries.lookup key with
        | none => update dotted f path (table true dotted [])
        | some (tables elements) =>
            match elements.getLast? with
            | none => none
            | some last => (update dotted f path last).map fun last => tables (elements.dropLast ++ [last])
        | some (table isImplicit made entries) =>
            if dotted && !isImplicit then none else update dotted f path (table isImplicit made entries)
        | some _ => none
      child.map fun child => table implicit made (put key child entries)
  | _, _ => none

/-- A table with one more key; `direct` says that no dotted key led to it. -/
def addKey (direct : Bool) (key : Text) (item : Item) : Item → Option Item
  | table implicit dotted entries =>
      if dotted = direct ∨ (entries.lookup key).isSome then none
      else some (table implicit dotted (put key item entries))
  | _ => none

/-- A table with the table `key` opened in it, which becomes its last entry. -/
def openTable (key : Text) : Item → Option Item
  | table implicit dotted entries =>
      match entries.lookup key with
      | none => some (table implicit dotted (put key newTable entries))
      | some (table true false inner) =>
          some (table implicit dotted (putLast key (table false false inner) entries))
      | some _ => none
  | _ => none

/-- A table with one more element in the array of tables `key`. -/
def openElement (key : Text) : Item → Option Item
  | table implicit dotted entries =>
      match entries.lookup key with
      | none => some (table implicit dotted (put key (tables [newTable]) entries))
      | some (tables elements) =>
          some (table implicit dotted (put key (tables (elements ++ [newTable])) entries))
      | some _ => none
  | _ => none

/-- The item with a key, given by its dotted path, in the table at `current`. -/
def assign (item : Item) (current path : List Text) (given : Item) : Option Item :=
  match path.getLast? with
  | none => none
  | some key =>
      let parents := path.dropLast
      update false (update true (addKey parents.isEmpty key given) parents) current item

def openHeader (element : Bool) (path : List Text) (item : Item) : Option Item :=
  match path.getLast? with
  | none => none
  | some key => update false (if element then openElement key else openTable key) path.dropLast item

/-- The inline table with the entries of a table. -/
def close : Item → Item
  | table _ _ entries => inline entries
  | item => item

/-! ## Values -/

/-- The key that tags a table as a date or time. -/
def momentKey : Text := "$__toml_private_datetime"

/-- What stands under `momentKey` in a table that begins with it. -/
def tagged? : List (Text × Item) → Option Item
  | [] => none
  | (key, item) :: _ => if key = momentKey then some item else none

/-- The date or time that a string spells. -/
def spelled? : Item → Option Value
  | scalar (.text t) =>
      match readMoment t with
      | some (normal, []) => some (.text normal)
      | _ => none
  | _ => none

mutual

/-- The value of a finished item.  Behind its tag nothing of a tagged table matters; a tag that spells no
date or time makes the whole document invalid. -/
def toValue? : Item → Option Value
  | scalar v => some v
  | moment normal => some (.text normal)
  | array items => (itemValues? items).map .array
  | inline entries | table _ _ entries =>
      match tagged? entries with
      | some item => item.spelled?
      | none => (entryValues? entries).map fun fields => .object (Dictionary.ofList fields)
  | tables elements => (itemValues? elements).map .array

def itemValues? : List Item → Option (List Value)
  | [] => some []
  | item :: rest => do
      let value ← toValue? item
      let values ← itemValues? rest
      some (value :: values)

def entryValues? : List (Text × Item) → Option (List (Text × Value))
  | [] => some []
  | (key, item) :: rest => do
      let value ← toValue? item
      let values ← entryValues? rest
      some ((key, value) :: values)

end

end Item
end RouteView.Toml
