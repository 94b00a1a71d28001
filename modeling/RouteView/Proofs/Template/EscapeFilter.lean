import RouteView.Proofs.Template.Defaults

/-!
# Escaping by a filter

Automatic escaping writes what a filter `escape` at the end of every variable tag writes: that filter turns an output
into what is written of it with automatic escaping, and marks it as safe (`Expression.evaluate_escaped`), so that
nothing escapes it again.  To say this of every template, also of those with faults, a template is taken as it is read
(`readingOf`), which is all that rendering needs of it (`renderTemplate_reading`).

`OnceEscaped` is the invariant of a filter chain behind it: an output has been escaped at most once since its text was
taken from the data or from a default, and not at all as long as it is not safe.
-/
set_option autoImplicit false
namespace RouteView.Template

/-! ## Templates as they are read -/

/-- What a source reads as: the tag that is never closed, or its items, the fault of its content standing for a
variable tag that has one. -/
abbrev Reading := Except Tag (List (Except ExpressionFault Item))

def readingOf (source : Text) : Reading := (tokenize source).map (List.map Token.item)

def evaluateItems (autoEscape : Bool) (data : Data) (safeKeys : List Text) :
    List (Except ExpressionFault Item) → Except ExpressionFault Text
  | [] => .ok []
  | item :: rest => do
      let first ← (← item).evaluate autoEscape data safeKeys
      return first ++ (← evaluateItems autoEscape data safeKeys rest)

def renderReading (autoEscape : Bool) (reading : Reading) (data : Data) (safeKeys : List Text) : Attempt Text :=
  match reading with
  | .error tag => .error (.templateSyntax tag.unclosedMessage)
  | .ok items => (evaluateItems autoEscape data safeKeys items).mapError fun fault => .templateSyntax fault.message

def Filter.escape : Filter := ⟨FilterKind.escape.name, none⟩

def Expression.escaped (e : Expression) : Expression := ⟨e.path, e.filters ++ [.escape]⟩

def Item.escaped : Item → Item
  | text t => .text t
  | comment content => .comment content
  | expression e => .expression e.escaped

def Reading.escaped (reading : Reading) : Reading := reading.map (List.map (Except.map Item.escaped))

section Render
variable (autoEscape : Bool) (data : Data) (safeKeys : List Text)

theorem evaluateTokens_eq_items (tokens : List Token) :
    evaluateTokens autoEscape data safeKeys tokens =
      evaluateItems autoEscape data safeKeys (tokens.map Token.item) := by
  induction tokens with
  | nil => rfl
  | cons token rest ih => rw [evaluateTokens, ih, Token.evaluate, List.map_cons, evaluateItems, bind_assoc]

theorem renderTemplate_reading (source : Text) :
    renderTemplate autoEscape source data safeKeys = renderReading autoEscape (readingOf source) data safeKeys := by
  rw [renderTemplate, evaluateSource, readingOf]
  cases tokenize source with
  | error tag => rfl
  | ok tokens =>
      simp only [evaluateTokens_eq_items, Except.map, renderReading]
      cases evaluateItems autoEscape data safeKeys (tokens.map Token.item) with
      | error fault => rfl
      | ok text => rfl

/-! ## The last filter -/

/-- The filter `escape` leaves what is written with automatic escaping. -/
theorem FilterKind.apply_escape (missing : Bool) (argument : Option Text) (r : Rendered) :
    FilterKind.escape.apply missing argument r = ⟨r.written true, true⟩ := by
  obtain ⟨text, safe⟩ := r
  cases safe with
  | true => rfl
  | false => rfl

theorem applyFilters_escape (missing : Bool) (r : Rendered) :
    applyFilters missing r [.escape] = .ok ⟨r.written true, true⟩ :=
  congrArg Except.ok (FilterKind.apply_escape missing none r)

theorem Expression.evaluate_escaped (e : Expression) :
    e.escaped.evaluate data safeKeys = (e.evaluate data safeKeys).map fun r => ⟨r.written true, true⟩ := by
  simp only [Expression.evaluate, escaped, applyFilters_append, applyFilters_escape]
  rfl

/-- A safe output is written as it is. -/
theorem written_safe (text : Text) : Rendered.written autoEscape ⟨text, true⟩ = text := by
  simp [Rendered.written]

theorem Item.evaluate_escaped (item : Item) :
    item.escaped.evaluate autoEscape data safeKeys = item.evaluate true data safeKeys := by
  cases item with
  | text t => rfl
  | comment content => rfl
  | expression e =>
      simp only [escaped, evaluate, Expression.evaluate_escaped]
      cases e.evaluate data safeKeys with
      | error fault => rfl
      | ok r => exact congrArg Except.ok (written_safe autoEscape _)

theorem evaluateItems_escaped (items : List (Except ExpressionFault Item)) :
    evaluateItems autoEscape data safeKeys (items.map (Except.map Item.escaped)) =
      evaluateItems true data safeKeys items := by
  induction items with
  | nil => rfl
  | cons item rest ih =>
      rw [List.map_cons, evaluateItems, evaluateItems, ih]
      cases item with
      | error fault => rfl
      | ok item =>
          simp only [Except.map, bind, Except.bind, Item.evaluate_escaped]

theorem renderReading_escaped (reading : Reading) :
    renderReading autoEscape reading.escaped data safeKeys = renderReading true reading data safeKeys := by
  cases reading with
  | error tag => rfl
  | ok items =>
      have written := evaluateItems_escaped autoEscape data safeKeys items
      rw [Reading.escaped, Except.map, renderReading, renderReading, written]

end Render

/-! ## How often a text is escaped -/

/-- The text is what the case mappings and so many escapings make of `raw`. -/
inductive Stems (raw : Text) : Nat → Text → Prop
  | raw : Stems raw 0 raw
  | escape {n : Nat} {text : Text} : Stems raw n text → Stems raw (n + 1) (Text.escape text)
  | upper {n : Nat} {text : Text} : Stems raw n text → Stems raw n (Text.toUpper text)
  | lower {n : Nat} {text : Text} : Stems raw n text → Stems raw n (Text.toLower text)

/-- The text has been escaped at most once, and not yet if it is not safe. -/
def OnceEscaped (origins : List Text) (r : Rendered) : Prop :=
  ∃ raw ∈ origins, ∃ n ≤ 1, Stems raw n r.text ∧ (r.safe = false → n = 0)

/-- Where the text of an expression can come from: the value at its path and the arguments of its defaults. -/
def Expression.origins (data : Data) (e : Expression) : List Text :=
  ((lookup data e.path).map Value.display).getD [] ::
    (e.filters.filter fun filter => filter.IsFallback).map fun filter => filter.argument.getD []

section Once
variable {origins : List Text} {r : Rendered}

theorem OnceEscaped.written (h : OnceEscaped origins r) :
    ∃ raw ∈ origins, ∃ n ≤ 1, Stems raw n (r.written true) ∧ (r.safe = false → n = 1) := by
  obtain ⟨raw, member, n, few, stems, fresh⟩ := h
  obtain ⟨text, safe⟩ := r
  cases safe with
  | true => exact ⟨raw, member, n, few, stems, nofun⟩
  | false =>
      obtain rfl := fresh rfl
      exact ⟨raw, member, 1, Nat.le_refl 1, stems.escape, fun _ => rfl⟩

theorem OnceEscaped.apply {missing : Bool} {argument : Option Text} {kind : FilterKind} (h : OnceEscaped origins r)
    (supplied : kind = .fallback → argument.getD [] ∈ origins) : OnceEscaped origins (kind.apply missing argument r) := by
  have before := h
  obtain ⟨raw, member, n, few, stems, fresh⟩ := h
  cases kind with
  | safe => exact ⟨raw, member, n, few, stems, nofun⟩
  | escape =>
      obtain ⟨raw, member, n, few, stems, -⟩ := before.written
      rw [FilterKind.apply_escape]
      exact ⟨raw, member, n, few, stems, nofun⟩
  | upper => exact ⟨raw, member, n, few, stems.upper, fresh⟩
  | lower => exact ⟨raw, member, n, few, stems.lower, fresh⟩
  | fallback =>
      simp only [FilterKind.apply]
      split
      · exact ⟨argument.getD [], supplied rfl, 0, Nat.zero_le 1, .raw, fun _ => rfl⟩
      · exact before

theorem OnceEscaped.applyFilters {missing : Bool} {filters : List Filter} {last : Rendered}
    (supplied : ∀ filter ∈ filters, filter.IsFallback → filter.argument.getD [] ∈ origins)
    (run : Template.applyFilters missing r filters = .ok last) (h : OnceEscaped origins r) :
    OnceEscaped origins last := by
  refine applyFilters_keeps (fun filter member kind named before once => ?_) run h
  refine once.apply fun fallback => supplied filter member ?_
  rw [Filter.IsFallback, named, fallback]

theorem Expression.onceEscaped {e : Expression} {data : Data} {safeKeys : List Text}
    (run : e.evaluate data safeKeys = .ok r) : OnceEscaped (e.origins data) r := by
  refine OnceEscaped.applyFilters (fun filter member fallback => ?_) run
    ⟨_, List.mem_cons_self, 0, Nat.zero_le 1, .raw, fun _ => rfl⟩
  have counted : filter ∈ e.filters.filter fun filter => filter.IsFallback :=
    List.mem_filter.mpr ⟨member, decide_eq_true fallback⟩
  exact List.mem_cons_of_mem _ (List.mem_map.mpr ⟨filter, counted, rfl⟩)

end Once

/-- A template is rendered with automatic escaping as the template with the filter `escape` at the end of every
variable tag is without it, text and fault alike.  That template is rendered alike on both settings, and so is any
source that reads as it; a second filter `escape` changes nothing.  What a tag writes either way has been escaped once
if it is not safe, and at most once in any case. -/
theorem renderTemplate_escaped (source : Text) (data : Data) (safeKeys : List Text) :
    (∀ autoEscape, renderTemplate autoEscape source data safeKeys =
      renderReading autoEscape (readingOf source) data safeKeys) ∧
    (∀ autoEscape, renderReading autoEscape (readingOf source).escaped data safeKeys =
      renderTemplate true source data safeKeys) ∧
    (∀ autoEscape, renderReading autoEscape (readingOf source).escaped.escaped data safeKeys =
      renderReading autoEscape (readingOf source).escaped data safeKeys) ∧
    (∀ other autoEscape, readingOf other = (readingOf source).escaped →
      renderTemplate autoEscape other data safeKeys = renderTemplate true source data safeKeys) ∧
    ∀ e r, Expression.evaluate e data safeKeys = .ok r →
      e.escaped.evaluate data safeKeys = .ok ⟨r.written true, true⟩ ∧
      ∃ raw ∈ e.origins data, ∃ n ≤ 1, Stems raw n (r.written true) ∧ (r.safe = false → n = 1) := by
  have read := fun autoEscape => renderTemplate_reading autoEscape data safeKeys
  have same := fun autoEscape => renderReading_escaped autoEscape data safeKeys
  refine ⟨fun autoEscape => read autoEscape source, fun autoEscape => ?_, fun autoEscape => ?_,
    fun other autoEscape appended => ?_, fun e r run => ⟨?_, (e.onceEscaped run).written⟩⟩
  · rw [same, read]
  · rw [same, same, same]
  · rw [read, appended, same, read]
  · rw [Expression.evaluate_escaped, run]
    rfl

/-- A source that reads so: the default behind `escape` is what its own filter escapes. -/
example : readingOf "\x7b\x7b n|escape|default:\"<\" | escape \x7d\x7d" =
    (readingOf "\x7b\x7bn|escape|default:\"<\"\x7d\x7d").escaped := rfl

end RouteView.Template
