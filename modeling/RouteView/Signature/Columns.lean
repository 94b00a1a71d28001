import RouteView.Signature

/-!
# Bindings in two columns

A binding can be kept as a column of names and a column of values.  The columns are filled parameter by parameter,
and a value is read at the position of its name; a position beyond the values aborts.  `columns_eq` says that the
columns are those of the binding, and `get_of_even` that reading them is looking a name up in it.
-/
set_option autoImplicit false
namespace RouteView

structure Columns where
  names : List Text
  values : List Value

namespace Columns

def push (columns : Columns) (name : Text) (value : Value) : Columns :=
  ⟨columns.names ++ [name], columns.values ++ [value]⟩

/-- The columns with the parameters of a signature behind them, unless one of these has no value. -/
def fill (args : Arguments) (columns : Columns) : Signature → Attempt Columns
  | [] => .ok columns
  | p :: rest => do fill args (columns.push p.name (← p.resolve args)) rest

/-- The value beside the first occurrence of a name. -/
def get (columns : Columns) (name : Text) : Evaluation (Option Value) :=
  match columns.names.findIdx? (· = name) with
  | none => .ok none
  | some position =>
      match columns.values[position]? with
      | some value => .ok (some value)
      | none => .error .abort

def pairs (columns : Columns) : Bound := columns.names.zip columns.values

end Columns

def Signature.columns (args : Arguments) (signature : Signature) : Attempt Columns :=
  Columns.fill args ⟨[], []⟩ signature

def Bound.columns (bound : Bound) : Columns := ⟨bound.map Prod.fst, bound.map Prod.snd⟩

theorem Bound.pairs_columns (bound : Bound) : bound.columns.pairs = bound := (List.zip_of_prod rfl rfl).symm

namespace Columns
variable {args : Arguments}

theorem fill_eq (signature : Signature) : ∀ columns : Columns, fill args columns signature =
    (signature.bind args).map fun bound =>
      ⟨columns.names ++ bound.map Prod.fst, columns.values ++ bound.map Prod.snd⟩ := by
  -- for all columns, since each parameter is pushed behind those before it
  induction signature with
  | nil =>
      intro columns
      simp [fill, Signature.bind, Except.map]
  | cons p rest ih =>
      intro columns
      rw [fill, Signature.bind]
      cases p.resolve args with
      | error fault => rfl
      | ok value =>
          simp only [bind, Except.bind, ih]
          cases Signature.bind args rest with
          | error fault => rfl
          | ok bound => simp [Except.map, push, pure, Except.pure]

theorem columns_eq (signature : Signature) : signature.columns args = (signature.bind args).map Bound.columns := by
  rw [Signature.columns, fill_eq]
  rfl

theorem get_of_even {names : List Text} : ∀ {values : List Value}, names.length = values.length → ∀ name,
    get ⟨names, values⟩ name = .ok ((names.zip values).lookup name) := by
  induction names with
  | nil => exact fun _ _ => rfl
  | cons first names ih =>
      intro values even name
      cases values with
      | nil => cases even
      | cons value values =>
          have later := ih (Nat.succ.inj even) name
          rw [get, List.findIdx?_cons, List.zip_cons_cons, List.lookup_cons]
          by_cases same : first = name
          · subst same
            simp
          · rw [beq_eq_false_iff_ne.mpr (Ne.symm same)]
            simp only [same, decide_false, Bool.false_eq_true, if_false, ← later, get]
            cases names.findIdx? (· = name) with
            | none => rfl
            | some position => simp

theorem get_columns (bound : Bound) (name : Text) : bound.columns.get name = .ok (bound.get? name) := by
  have even : (bound.map Prod.fst).length = (bound.map Prod.snd).length := by
    rw [List.length_map, List.length_map]
  have read := get_of_even even name
  rwa [show (bound.map Prod.fst).zip (bound.map Prod.snd) = bound from Bound.pairs_columns bound] at read

end Columns
end RouteView
