import Mathlib.Data.List.Basic
import RouteView.Template.Evaluation

/-!
# What a rendering depends on

A template fails by its own text alone, and `templateFault?` reads the fault off the text.  One that does not
fail shows, tag by tag, what its filters make of the value at the path of the tag (`renderTemplate_eq`).  Two
sets of data that agree at these paths are therefore rendered alike (`renderTemplate_depends`), whatever the
values look like.
-/
set_option autoImplicit false
namespace RouteView.Template

/-! ## Faults of a source -/

def filterNames : List Text := ["safe", "escape", "upper", "lower", "default"]

def tagPath (content : Text) : Text := Text.trim ((splitBars false content).headD [])

def tagParts (content : Text) : List Text := (splitBars false content).tail

def partName (part : Text) : Text := Text.trim (Text.before ':' part)

def unknownFilter? (names : List Text) : Option ExpressionFault :=
  (names.find? (!filterNames.contains ·)).map .unknownFilter

/-- What is wrong with a tag: it has no path, or a filter without a name, or a filter that does not exist. -/
def tagFault? (content : Text) : Option ExpressionFault :=
  let names := (tagParts content).map partName
  if tagPath content = [] then some (.emptyPath content)
  else if names.contains [] then some (.emptyFilter content)
  else unknownFilter? names

def Token.fault? : Token → Option ExpressionFault
  | reference content => tagFault? content
  | text _ | comment _ => none

/-- The fault of a source: a tag that is never closed, or else the fault of the first faulty tag. -/
def templateFault? (source : Text) : Option Fault :=
  match tokenize source with
  | .error tag => some (.templateSyntax tag.unclosedMessage)
  | .ok tokens => (tokens.findSome? Token.fault?).map fun fault => .templateSyntax fault.message

/-! ## What is shown -/

/-- The output after a filter; one that does not exist changes nothing. -/
def Filter.apply (missing : Bool) (r : Rendered) (filter : Filter) : Rendered :=
  match FilterKind.ofName? filter.name with
  | none => r
  | some kind => kind.apply missing filter.argument r

def Expression.rendered (safeKeys : List Text) (value : Option Value) (e : Expression) : Rendered :=
  e.filters.foldl (Filter.apply ((value.map Value.isNull).getD true))
    ⟨(value.map Value.display).getD [], safeKeys.contains e.path⟩

def Filter.read (part : Text) : Filter :=
  ⟨partName part, (Text.cutAt ':' part).map fun cut => unquote (Text.trim cut.2)⟩

def tagExpression (content : Text) : Expression := ⟨tagPath content, (tagParts content).map .read⟩

/-- What a token shows when the value at its path is this one. -/
def Token.shown (autoEscape : Bool) (safeKeys : List Text) (value : Option Value) : Token → Text
  | text t => t
  | comment _ => []
  | reference content => ((tagExpression content).rendered safeKeys value).written autoEscape

def Token.path? : Token → Option Text
  | reference content => some (tagPath content)
  | text _ | comment _ => none

def sourceTokens (source : Text) : List Token := (tokenize source).toOption.getD []

def sourcePaths (source : Text) : List Text := (sourceTokens source).filterMap Token.path?

/-! ## Reading a tag -/

theorem Filter.parse_eq (source part : Text) :
    Filter.parse source part = if partName part = [] then .error (.emptyFilter source) else .ok (.read part) := by
  unfold Filter.parse Filter.read partName
  rw [Text.before_eq_cutAt]
  cases Text.cutAt ':' part with
  | none => rfl
  | some cut => rfl

theorem mapM_parse (source : Text) (parts : List Text) :
    parts.mapM (Filter.parse source) =
      if [] ∈ parts.map partName then .error (.emptyFilter source) else .ok (parts.map .read) := by
  induction parts with
  | nil => rfl
  | cons part rest ih =>
      rw [List.mapM_cons, Filter.parse_eq, ih]
      by_cases unnamed : partName part = []
      · simp [unnamed, bind, Except.bind]
      · by_cases later : [] ∈ rest.map partName
        · have found : [] ∈ (part :: rest).map partName := List.mem_cons_of_mem _ later
          rw [if_neg unnamed, if_pos later, if_pos found]
          rfl
        · have absent : [] ∉ (part :: rest).map partName := by
            rw [List.map_cons, List.mem_cons, not_or]
            exact ⟨Ne.symm unnamed, later⟩
          rw [if_neg unnamed, if_neg later, if_neg absent]
          rfl

theorem Expression.parse_eq (content : Text) :
    Expression.parse content =
      if tagPath content = [] then .error (.emptyPath content)
      else if [] ∈ (tagParts content).map partName then .error (.emptyFilter content)
      else .ok (tagExpression content) := by
  unfold Expression.parse
  cases split : splitBars false content with
  | nil =>
      have pathless : tagPath content = [] := by rw [tagPath, split]; rfl
      rw [if_pos pathless]
  | cons path parts =>
      have path_eq : tagPath content = Text.trim path := by rw [tagPath, split]; rfl
      have parts_eq : tagParts content = parts := by rw [tagParts, split]; rfl
      simp only [tagExpression, path_eq, parts_eq, mapM_parse]
      by_cases blank : Text.trim path = []
      · rw [if_pos blank, if_pos blank]
      · rw [if_neg blank, if_neg blank]
        by_cases unnamed : [] ∈ parts.map partName
        · rw [if_pos unnamed, if_pos unnamed]
          rfl
        · rw [if_neg unnamed, if_neg unnamed]
          rfl

theorem ofName?_eq_none {name : Text} : FilterKind.ofName? name = none ↔ name ∉ filterNames := by
  have members : name ∈ filterNames ↔ name = "safe".toList ∨ name = "escape".toList ∨ name = "upper".toList ∨
      name = "lower".toList ∨ name = "default".toList := by
    simp only [filterNames, List.mem_cons, List.not_mem_nil, or_false]
  rw [members]
  constructor
  · rintro missing (rfl | rfl | rfl | rfl | rfl)
    · cases missing
    · cases missing
    · cases missing
    · cases missing
    · cases missing
  · intro other
    simp only [not_or] at other
    obtain ⟨safe, escape, upper, lower, fallback⟩ := other
    rw [FilterKind.ofName?, if_neg safe, if_neg escape, if_neg upper, if_neg lower, if_neg fallback]

theorem applyFilters_eq (missing : Bool) (filters : List Filter) : ∀ r : Rendered,
    applyFilters missing r filters =
      match unknownFilter? (filters.map Filter.name) with
      | some fault => .error fault
      | none => .ok (filters.foldl (Filter.apply missing) r) := by
  induction filters with
  | nil => intro r; rfl
  | cons filter rest ih =>
      intro r
      rw [applyFilters, unknownFilter?, List.map_cons, List.find?_cons, List.foldl_cons, Filter.apply]
      cases kind : FilterKind.ofName? filter.name with
      | none =>
          have unknown : filter.name ∉ filterNames := ofName?_eq_none.mp kind
          simp [unknown]
      | some found =>
          have known : filter.name ∈ filterNames := by
            apply Decidable.byContradiction
            intro unknown
            rw [ofName?_eq_none.mpr unknown] at kind
            cases kind
          rw [List.contains_iff_mem.mpr known]
          exact ih _

/-! ## Tokens -/

theorem Expression.evaluate_eq (e : Expression) (data : Data) (safeKeys : List Text) :
    e.evaluate data safeKeys =
      match unknownFilter? (e.filters.map Filter.name) with
      | some fault => .error fault
      | none => .ok (e.rendered safeKeys (lookup data e.path)) :=
  applyFilters_eq ..

section Render
variable (autoEscape : Bool) (data : Data) (safeKeys : List Text)

theorem Token.evaluate_eq (token : Token) :
    token.evaluate autoEscape data safeKeys =
      match token.fault? with
      | some fault => .error fault
      | none => .ok (token.shown autoEscape safeKeys (token.path?.bind (lookup data))) := by
  cases token with
  | text t => rfl
  | comment content => rfl
  | reference content =>
      rw [Token.evaluate, Token.item, Expression.parse_eq, Token.fault?, tagFault?]
      simp only [List.contains_iff_mem]
      by_cases pathless : tagPath content = []
      · rw [if_pos pathless, if_pos pathless]
        rfl
      · rw [if_neg pathless, if_neg pathless]
        by_cases unnamed : [] ∈ (tagParts content).map partName
        · rw [if_pos unnamed, if_pos unnamed]
          rfl
        · have names : (tagExpression content).filters.map Filter.name = (tagParts content).map partName := by
            simp [tagExpression, Filter.read]
          have evaluated := (tagExpression content).evaluate_eq data safeKeys
          rw [names] at evaluated
          rw [if_neg unnamed, if_neg unnamed]
          simp only [Except.map, bind, Except.bind, Item.evaluate, evaluated]
          cases unknownFilter? ((tagParts content).map partName) with
          | some fault => rfl
          | none => rfl

theorem evaluateTokens_eq (tokens : List Token) :
    evaluateTokens autoEscape data safeKeys tokens =
      match tokens.findSome? Token.fault? with
      | some fault => .error fault
      | none => .ok (tokens.flatMap fun token =>
          token.shown autoEscape safeKeys (token.path?.bind (lookup data))) := by
  induction tokens with
  | nil => rfl
  | cons token rest ih =>
      rw [evaluateTokens, Token.evaluate_eq, ih, List.findSome?_cons, List.flatMap_cons]
      cases token.fault? with
      | some fault => rfl
      | none =>
          cases rest.findSome? Token.fault? with
          | some fault => rfl
          | none => rfl

/-- A source fails with its fault, or shows what its tokens show. -/
theorem renderTemplate_eq (source : Text) :
    renderTemplate autoEscape source data safeKeys =
      match templateFault? source with
      | some fault => .error fault
      | none => .ok ((sourceTokens source).flatMap fun token =>
          token.shown autoEscape safeKeys (token.path?.bind (lookup data))) := by
  unfold renderTemplate evaluateSource templateFault? sourceTokens
  cases tokenize source with
  | error tag => rfl
  | ok tokens =>
      dsimp only
      rw [evaluateTokens_eq]
      cases tokens.findSome? Token.fault? with
      | some fault => rfl
      | none => rfl

end Render

theorem shown_congr {autoEscape : Bool} {data other : Data} {safeKeys : List Text} {source : Text}
    (same : ∀ path ∈ sourcePaths source, lookup data path = lookup other path) :
    ((sourceTokens source).flatMap fun token => token.shown autoEscape safeKeys (token.path?.bind (lookup data))) =
      (sourceTokens source).flatMap fun token => token.shown autoEscape safeKeys (token.path?.bind (lookup other)) := by
  apply List.flatMap_congr
  intro token member
  cases found : token.path? with
  | none => rfl
  | some path =>
      have named : path ∈ sourcePaths source := List.mem_filterMap.mpr ⟨token, member, found⟩
      rw [Option.bind_some, Option.bind_some, same path named]

/-- Whether and how a template fails depends on its text alone.  What it shows depends on the values at the paths
of its tags and on nothing else of the data, each token showing what it makes of the value at its own path. -/
theorem renderTemplate_depends (source : Text) (safeKeys : List Text) :
    (∀ autoEscape data fault,
      renderTemplate autoEscape source data safeKeys = .error fault ↔ templateFault? source = some fault) ∧
    (∀ autoEscape data other, (∀ path ∈ sourcePaths source, lookup data path = lookup other path) →
      renderTemplate autoEscape source data safeKeys = renderTemplate autoEscape source other safeKeys) ∧
    ∀ autoEscape data output, renderTemplate autoEscape source data safeKeys = .ok output →
      output = (sourceTokens source).flatMap fun token =>
        token.shown autoEscape safeKeys (token.path?.bind (lookup data)) := by
  refine ⟨fun autoEscape data fault => ?_, fun autoEscape data other same => ?_,
    fun autoEscape data output rendered => ?_⟩
  · rw [renderTemplate_eq]
    cases templateFault? source with
    | some found => simp
    | none => simp
  · rw [renderTemplate_eq, renderTemplate_eq, shown_congr same]
  · rw [renderTemplate_eq] at rendered
    cases faulty : templateFault? source with
    | some fault => simp [faulty] at rendered
    | none =>
        rw [faulty] at rendered
        exact (Except.ok.inj rendered).symm

/-- A value that looks like a tag is shown as it is, also when there is a value at its path. -/
example : renderTemplate true "\x7b\x7b a \x7d\x7d" [("a", .text "\x7b\x7b b \x7d\x7d"), ("b", .text "no")] [] =
    .ok "\x7b\x7b b \x7d\x7d" := rfl

end RouteView.Template
