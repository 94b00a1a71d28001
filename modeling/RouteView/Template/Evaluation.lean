import RouteView.Template.Item
import RouteView.Template.Lookup
import RouteView.Text.CaseMap
import RouteView.Text.Entity
import RouteView.Value.Writer

/-!
# Evaluating templates

An expression yields a text and whether it is safe, that is, may stand in markup as it is.  Filters
change one or both in turn.  With automatic escaping a text that is not safe is escaped when it is
written.  A template is evaluated token by token, and the first fault ends it.
-/
set_option autoImplicit false
namespace RouteView.Template

structure Rendered where
  text : Text
  safe : Bool
deriving DecidableEq

inductive FilterKind
  | safe
  | escape
  | upper
  | lower
  | fallback
deriving DecidableEq

def FilterKind.ofName? (name : Text) : Option FilterKind :=
  if name = "safe".toList then some safe
  else if name = "escape".toList then some escape
  else if name = "upper".toList then some upper
  else if name = "lower".toList then some lower
  else if name = "default".toList then some fallback
  else none

def FilterKind.name : FilterKind → Text
  | safe => "safe"
  | escape => "escape"
  | upper => "upper"
  | lower => "lower"
  | fallback => "default"

theorem FilterKind.ofName?_eq_some {name : Text} {kind : FilterKind} :
    ofName? name = some kind ↔ name = kind.name := by
  constructor
  · intro known
    unfold ofName? at known
    repeat' split at known
    all_goals cases known
    all_goals assumption
  · rintro rfl
    cases kind <;> rfl

/-- The output after a filter, `missing` saying whether the path led to no value or to null. -/
def FilterKind.apply (missing : Bool) (argument : Option Text) (r : Rendered) : FilterKind → Rendered
  | safe => ⟨r.text, true⟩
  | escape => ⟨if r.safe then r.text else Text.escape r.text, true⟩
  | upper => ⟨Text.toUpper r.text, r.safe⟩
  | lower => ⟨Text.toLower r.text, r.safe⟩
  | fallback => if missing || r.text.isEmpty then ⟨argument.getD [], false⟩ else r

def applyFilters (missing : Bool) (r : Rendered) : List Filter → Except ExpressionFault Rendered
  | [] => .ok r
  | filter :: rest =>
      match FilterKind.ofName? filter.name with
      | none => .error (.unknownFilter filter.name)
      | some kind => applyFilters missing (kind.apply missing filter.argument r) rest

/-- What every filter of a chain keeps, the chain keeps. -/
theorem applyFilters_keeps {missing : Bool} {P : Rendered → Prop} {filters : List Filter}
    (keeps : ∀ filter ∈ filters, ∀ kind : FilterKind, filter.name = kind.name →
      ∀ r, P r → P (kind.apply missing filter.argument r)) :
    ∀ {r last : Rendered}, applyFilters missing r filters = .ok last → P r → P last := by
  induction filters with
  | nil =>
      intro r last run h
      cases run
      exact h
  | cons filter rest ih =>
      intro r last run h
      rw [List.forall_mem_cons] at keeps
      rw [applyFilters] at run
      cases known : FilterKind.ofName? filter.name with
      | none => simp [known] at run
      | some kind =>
          rw [known] at run
          exact ih keeps.2 run (keeps.1 kind (FilterKind.ofName?_eq_some.mp known) r h)

/-- The output of an expression on data; the text of a path among `safeKeys` starts out safe. -/
def Expression.evaluate (e : Expression) (data : Data) (safeKeys : List Text) :
    Except ExpressionFault Rendered :=
  let value := lookup data e.path
  let start : Rendered := ⟨(value.map Value.display).getD [], safeKeys.contains e.path⟩
  applyFilters ((value.map Value.isNull).getD true) start e.filters

def Rendered.written (autoEscape : Bool) (r : Rendered) : Text :=
  if autoEscape && !r.safe then Text.escape r.text else r.text

def Item.evaluate (autoEscape : Bool) (data : Data) (safeKeys : List Text) :
    Item → Except ExpressionFault Text
  | text t => .ok t
  | comment _ => .ok []
  | expression e => do return (← e.evaluate data safeKeys).written autoEscape

def Token.evaluate (autoEscape : Bool) (data : Data) (safeKeys : List Text) (token : Token) :
    Except ExpressionFault Text := do
  (← token.item).evaluate autoEscape data safeKeys

def evaluateTokens (autoEscape : Bool) (data : Data) (safeKeys : List Text) :
    List Token → Except ExpressionFault Text
  | [] => .ok []
  | token :: rest => do
      let first ← token.evaluate autoEscape data safeKeys
      return first ++ (← evaluateTokens autoEscape data safeKeys rest)

def evaluateSource (autoEscape : Bool) (source : Text) (data : Data) (safeKeys : List Text) :
    Except TemplateFault Text :=
  match tokenize source with
  | .error tag => .error (.unclosed tag)
  | .ok tokens => (evaluateTokens autoEscape data safeKeys tokens).mapError .expression

/-- The text of a template source on data, a failure being reported as faulty syntax. -/
def renderTemplate (autoEscape : Bool) (source : Text) (data : Data) (safeKeys : List Text) :
    Attempt Text :=
  (evaluateSource autoEscape source data safeKeys).mapError fun fault => .templateSyntax fault.message

end RouteView.Template
