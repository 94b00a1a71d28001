import RouteView.Fault
import RouteView.Text.Blank

/-!
# Expressions

The content of a variable tag is a dotted path followed by filters.  Filters stand behind vertical bars
outside double quotes; a filter may have an argument behind a colon, whose enclosing double quotes are
not part of it.
-/
set_option autoImplicit false
namespace RouteView.Template

structure Filter where
  name : Text
  argument : Option Text
deriving DecidableEq

structure Expression where
  path : Text
  filters : List Filter
deriving DecidableEq

inductive ExpressionFault
  | emptyPath (source : Text)
  | emptyFilter (source : Text)
  | unknownFilter (name : Text)
deriving DecidableEq

def ExpressionFault.message : ExpressionFault → Text
  | emptyPath source => "Empty variable expression: '\x7b\x7b " ++ source ++ " \x7d\x7d'"
  | emptyFilter source => "Empty filter name in '" ++ source ++ "'"
  | unknownFilter name => "Unknown filter '" ++ name ++ "'"

/-- The parts between the bars outside double quotes; `quoted` says whether the text begins inside. -/
def splitBars (quoted : Bool) : Text → List Text
  | [] => [[]]
  | c :: rest =>
      if c = '|' ∧ quoted = false then [] :: splitBars false rest
      else match splitBars (if c = '"' then !quoted else quoted) rest with
        | [] => [[c]]
        | part :: parts => (c :: part) :: parts

/-- The text without a double quote at either end, when it has both. -/
def unquote (text : Text) : Text :=
  match text with
  | '"' :: rest => if rest.getLast? = some '"' then rest.dropLast else text
  | _ => text

def Filter.parse (source part : Text) : Except ExpressionFault Filter :=
  let filter : Filter := match Text.cutAt ':' part with
    | some (name, argument) => ⟨Text.trim name, some (unquote (Text.trim argument))⟩
    | none => ⟨Text.trim part, none⟩
  if filter.name = [] then .error (.emptyFilter source) else .ok filter

def Expression.parse (source : Text) : Except ExpressionFault Expression :=
  match splitBars false source with
  | [] => .error (.emptyPath source)
  | path :: parts =>
      if Text.trim path = [] then .error (.emptyPath source)
      else do return ⟨Text.trim path, ← parts.mapM (Filter.parse source)⟩

end RouteView.Template
