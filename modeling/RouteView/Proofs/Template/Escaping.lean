import RouteView.Proofs.Text.Markup
import RouteView.Template.Renderer

/-!
# Data cannot add markup

With automatic escaping the angle brackets and quotes of a rendered view are those of its text tokens, and
a layout adds its own around them (`markup_render`).  The invariant of a filter chain is `Brings`: a safe
output has exactly the markup that its tag may bring, and an output that is not safe brings none, since it
is escaped when it is written.
-/
set_option autoImplicit false
namespace RouteView.Template
open RouteView.Text (markup)

def plainText : List Token → Text
  | [] => []
  | .text t :: rest => t ++ plainText rest
  | .reference _ :: rest | .comment _ :: rest => plainText rest

/-- The markup of a token when every tag that shows the rendered view brings `inserted`. -/
def Token.markup (inserted : Text) : Token → Text
  | text t => Text.markup t
  | comment _ => []
  | reference content =>
      match Expression.parse content with
      | .ok e => if e.path = contentKey then inserted else []
      | .error _ => []

def Expression.SafeFree (e : Expression) : Prop := ∀ filter ∈ e.filters, filter.name ≠ "safe".toList

def Token.SafeFree : Token → Prop
  | reference content => ∀ e ∈ (Expression.parse content).toOption, e.SafeFree
  | text _ | comment _ => True

def SafeFree (source : Text) : Prop :=
  ∀ tokens ∈ (tokenize source).toOption, ∀ token ∈ tokens, token.SafeFree

instance (e : Expression) : Decidable e.SafeFree :=
  inferInstanceAs (Decidable (∀ filter ∈ e.filters, filter.name ≠ "safe".toList))

instance : DecidablePred Token.SafeFree
  | .reference content => inferInstanceAs (Decidable (∀ e ∈ (Expression.parse content).toOption, e.SafeFree))
  | .text _ | .comment _ => isTrue trivial

instance (source : Text) : Decidable (SafeFree source) :=
  inferInstanceAs (Decidable (∀ tokens ∈ (tokenize source).toOption, ∀ token ∈ tokens, token.SafeFree))

/-! ## Filters -/

def Brings (inserted : Text) (r : Rendered) : Prop :=
  (r.safe = true → markup r.text = inserted) ∧ (r.safe = false → inserted = [])

theorem Brings.written {inserted : Text} {r : Rendered} (h : Brings inserted r) :
    markup (r.written true) = inserted := by
  unfold Rendered.written
  cases safe : r.safe with
  | true => simpa [safe] using h.1 safe
  | false => simpa [safe, h.2 safe] using Text.markup_escape r.text

/-- A filter other than `safe` keeps what the output brings; it replaces the text of a missing value, which
brings nothing. -/
theorem Brings.apply {inserted : Text} {r : Rendered} {missing : Bool} {argument : Option Text}
    {kind : FilterKind} (h : Brings inserted r) (absent : missing = true → inserted = [])
    (other : kind ≠ .safe) : Brings inserted (kind.apply missing argument r) := by
  cases kind with
  | safe => exact absurd rfl other
  | escape =>
      refine ⟨fun _ => ?_, fun safe => absurd safe.symm Bool.false_ne_true⟩
      cases safe : r.safe with
      | true => simpa [FilterKind.apply, safe] using h.1 safe
      | false => simpa [FilterKind.apply, safe, h.2 safe] using Text.markup_escape r.text
  | upper => exact ⟨fun safe => (Text.markup_toUpper r.text).trans (h.1 safe), h.2⟩
  | lower => exact ⟨fun safe => (Text.markup_toLower r.text).trans (h.1 safe), h.2⟩
  | fallback =>
      simp only [FilterKind.apply]
      split
      · next replaced =>
          refine ⟨fun safe => absurd safe Bool.false_ne_true, fun _ => ?_⟩
          rcases (Bool.or_eq_true _ _).mp replaced with hm | empty
          · exact absent hm
          · cases safe : r.safe with
            | true =>
                have nothing := h.1 safe
                rw [List.isEmpty_iff.mp empty] at nothing
                exact nothing.symm
            | false => exact h.2 safe
      · exact h

theorem Brings.applyFilters {inserted : Text} {missing : Bool} {filters : List Filter} {r last : Rendered}
    (absent : missing = true → inserted = []) (plain : ∀ filter ∈ filters, filter.name ≠ "safe".toList)
    (run : Template.applyFilters missing r filters = .ok last) (h : Brings inserted r) : Brings inserted last := by
  refine applyFilters_keeps (fun filter member kind named before brings => ?_) run h
  refine brings.apply absent ?_
  rintro rfl
  exact plain filter member named

/-! ## Tags and tokens -/

/-- The data and the safe keys make each tag start with what it may bring. -/
def Starts (data : Data) (safeKeys : List Text) (inserted : Text) : Prop :=
  ∀ path, Brings (if path = contentKey then inserted else [])
      ⟨((lookup data path).map Value.display).getD [], safeKeys.contains path⟩ ∧
    (((lookup data path).map Value.isNull).getD true = true →
      (if path = contentKey then inserted else []) = [])

theorem starts_without_keys (data : Data) : Starts data [] [] := by
  intro path
  rw [ite_self]
  exact ⟨⟨fun safe => by simp at safe, fun _ => rfl⟩, fun _ => rfl⟩

theorem starts_layout (content : Text) (data : Data) :
    Starts (Dictionary.insert contentKey (.text content) data) [contentKey] (markup content) := by
  intro path
  by_cases shown : path = contentKey
  · subst shown
    rw [lookup_contentKey, if_pos rfl]
    exact ⟨⟨fun _ => rfl, fun safe => by simp at safe⟩, fun missing => by cases missing⟩
  · rw [if_neg shown]
    exact ⟨⟨fun safe => by simp [shown] at safe, fun _ => rfl⟩, fun _ => rfl⟩

section Starts
variable {data : Data} {safeKeys : List Text} {inserted : Text}

theorem Starts.evaluate (starts : Starts data safeKeys inserted) {e : Expression} {last : Rendered}
    (plain : e.SafeFree) (run : e.evaluate data safeKeys = .ok last) :
    markup (last.written true) = if e.path = contentKey then inserted else [] :=
  (Brings.applyFilters (starts e.path).2 plain run (starts e.path).1).written

theorem Starts.token (starts : Starts data safeKeys inserted) {token : Token} {output : Text}
    (plain : token.SafeFree) (run : token.evaluate true data safeKeys = .ok output) :
    markup output = token.markup inserted := by
  obtain ⟨item, read, run⟩ := bind_eq_ok.mp run
  cases token with
  | text t =>
      cases read
      cases run
      rfl
  | comment content =>
      cases read
      cases run
      rfl
  | reference content =>
      cases parsed : Expression.parse content with
      | error fault => simp [Token.item, parsed, Except.map] at read
      | ok e =>
          simp only [Token.item, parsed, Except.map, Except.ok.injEq] at read
          subst read
          obtain ⟨last, evaluated, run⟩ := bind_eq_ok.mp run
          cases run
          have free : e.SafeFree := plain e (by rw [parsed]; rfl)
          rw [starts.evaluate free evaluated, Token.markup, parsed]

theorem Starts.tokens (starts : Starts data safeKeys inserted) (tokens : List Token) : ∀ {output : Text},
    (∀ token ∈ tokens, token.SafeFree) → evaluateTokens true data safeKeys tokens = .ok output →
    markup output = tokens.flatMap (Token.markup inserted) := by
  induction tokens with
  | nil =>
      intro output _ run
      cases run
      rfl
  | cons token rest ih =>
      intro output plain run
      obtain ⟨first, evaluated, run⟩ := bind_eq_ok.mp run
      obtain ⟨others, later, run⟩ := bind_eq_ok.mp run
      cases run
      rw [Text.markup_append, List.flatMap_cons]
      congr 1
      · exact starts.token (plain token (List.mem_cons_self ..)) evaluated
      · exact ih (fun other member => plain other (List.mem_cons_of_mem _ member)) later

end Starts

/-! ## Templates and layouts -/

/-- A loaded template that renders has tokens, and their markup is that of the output. -/
theorem Starts.template {data : Data} {safeKeys : List Text} {inserted name source output : Text}
    {tree : FileTree} {r : Renderer} (starts : Starts data safeKeys inserted) (escaping : r.autoEscape = true)
    (loaded : r.findSource tree name = .ok source) (plain : SafeFree source)
    (run : r.renderOrName tree name data safeKeys = .ok output) :
    ∃ tokens, tokenize source = .ok tokens ∧ markup output = tokens.flatMap (Token.markup inserted) := by
  rw [Renderer.renderOrName, loaded] at run
  simp only [Attempt.evaluation, renderTemplate, evaluateSource, mapError_eq_ok, escaping] at run
  cases read : tokenize source with
  | error tag => simp [read] at run
  | ok tokens =>
      rw [read] at run
      have free : ∀ token ∈ tokens, token.SafeFree := plain tokens (by rw [read]; rfl)
      exact ⟨tokens, rfl, starts.tokens tokens free (mapError_eq_ok.mp run)⟩

theorem flatMap_markup_nil (tokens : List Token) :
    tokens.flatMap (Token.markup []) = markup (plainText tokens) := by
  induction tokens with
  | nil => rfl
  | cons token rest ih =>
      cases token with
      | text t => rw [List.flatMap_cons, ih, plainText, Text.markup_append]; rfl
      | comment content => rw [List.flatMap_cons, ih, plainText]; rfl
      | reference content =>
          have nothing : Token.markup [] (.reference content) = [] := by
            simp only [Token.markup, ite_self]
            split <;> rfl
          rw [List.flatMap_cons, ih, plainText, nothing, List.nil_append]

/-- The markup of a rendered view is that of its own text, and a layout adds the markup of its own text and
nothing else. -/
theorem markup_render {tree : FileTree} {r : Renderer} (escaping : r.autoEscape = true) {view viewSource : Text}
    (data : Data) (loaded : r.findSource tree view = .ok viewSource) (plain : SafeFree viewSource) :
    (∀ output, (r.viewRenderer tree).render view data = .ok output →
      ∃ tokens, tokenize viewSource = .ok tokens ∧ markup output = markup (plainText tokens)) ∧
    ∀ layout layoutSource page, r.findSource tree layout = .ok layoutSource → SafeFree layoutSource →
      (r.viewRenderer tree).renderWithin view (some layout) data = .ok page →
      ∃ tokens frame, tokenize viewSource = .ok tokens ∧ tokenize layoutSource = .ok frame ∧
        markup page = frame.flatMap (Token.markup (markup (plainText tokens))) := by
  have viewed : ∀ output, (r.viewRenderer tree).render view data = .ok output →
      ∃ tokens, tokenize viewSource = .ok tokens ∧ markup output = markup (plainText tokens) := by
    intro output run
    obtain ⟨tokens, read, same⟩ := (starts_without_keys data).template escaping loaded plain run
    exact ⟨tokens, read, same.trans (flatMap_markup_nil tokens)⟩
  refine ⟨viewed, fun layout layoutSource page found free run => ?_⟩
  obtain ⟨content, rendered, run⟩ := bind_eq_ok.mp run
  obtain ⟨tokens, read, same⟩ := viewed content rendered
  obtain ⟨frame, framed, framing⟩ := (starts_layout content data).template escaping found free run
  exact ⟨tokens, frame, read, framed, framing.trans (by rw [same])⟩

/-- A default that follows `escape` is escaped in its turn, and the layout shows the rendered view, not the
data of that name. -/
theorem markup_render_default :
    let view : Text := "'\x7b\x7b n|escape|default:\"<\" \x7d\x7d"
    let layout : Text := "<i>\x7b\x7b content|escape \x7d\x7d"
    let r := (Renderer.new.addTemplate "v" view).addTemplate "l" layout
    let data : Data := [(contentKey, .text "<")]
    (r.viewRenderer .empty).renderWithin "v" (some ("l" : Text)) data = .ok ("<i>'&lt;" : Text) ∧
      ∃ tokens frame, tokenize view = .ok tokens ∧ tokenize layout = .ok frame ∧
        Text.markup "<i>'&lt;" = frame.flatMap (Token.markup (Text.markup (plainText tokens))) := by
  intro view layout r data
  have loaded : r.findSource .empty "v" = .ok view := rfl
  have found : r.findSource .empty "l" = .ok layout := rfl
  have rendered : (r.viewRenderer .empty).renderWithin "v" (some ("l" : Text)) data = .ok ("<i>'&lt;" : Text) :=
    rfl
  exact ⟨rendered, (markup_render rfl data loaded (by decide)).2 "l" _ _ found (by decide) rendered⟩

end RouteView.Template
