import RouteView.Template.Renderer

/-!
# A view inside a layout

A layout is evaluated token by token around the rendered view.  Where a tag shows the view, perhaps as `safe` or
escaped, the view stands as it was rendered, whatever it contains; every other token is evaluated on the caller's
data with the view under its key (`renderWithin_layout`).  An entry that the caller has under that key is seen by
the view alone.
-/
set_option autoImplicit false
namespace RouteView.Template

def Filter.KeepsSafe (filter : Filter) : Prop := filter.name = "safe".toList ∨ filter.name = "escape".toList

/-- A variable tag that shows the rendered view, and through no other filters than `safe` and `escape`. -/
def Token.ShowsView : Token → Prop
  | reference raw =>
      ∃ e ∈ (Expression.parse raw).toOption, e.path = contentKey ∧ ∀ filter ∈ e.filters, filter.KeepsSafe
  | text _ | comment _ => False

instance (filter : Filter) : Decidable filter.KeepsSafe := by unfold Filter.KeepsSafe; infer_instance

instance : DecidablePred Token.ShowsView
  | .reference raw =>
      inferInstanceAs (Decidable (∃ e ∈ (Expression.parse raw).toOption, e.path = contentKey ∧
        ∀ filter ∈ e.filters, filter.KeepsSafe))
  | .text _ | .comment _ => isFalse id

def Token.around (autoEscape : Bool) (content : Text) (data : Data) (token : Token) :
    Except ExpressionFault Text :=
  if token.ShowsView then .ok content
  else token.evaluate autoEscape (Dictionary.insert contentKey (.text content) data) [contentKey]

def compose (autoEscape : Bool) (content : Text) (data : Data) (layout : Text) : Attempt Text :=
  match tokenize layout with
  | .error tag => .error (.templateSyntax tag.unclosedMessage)
  | .ok tokens =>
      match tokens.mapM (Token.around autoEscape content data) with
      | .error fault => .error (.templateSyntax fault.message)
      | .ok pieces => .ok pieces.flatten

theorem evaluateTokens_eq_mapM (autoEscape : Bool) (data : Data) (safeKeys : List Text) (tokens : List Token) :
    evaluateTokens autoEscape data safeKeys tokens =
      (tokens.mapM (Token.evaluate autoEscape data safeKeys)).map List.flatten := by
  induction tokens with
  | nil => rfl
  | cons token rest ih =>
      rw [evaluateTokens, List.mapM_cons, ih]
      cases token.evaluate autoEscape data safeKeys with
      | error fault => rfl
      | ok first =>
          cases rest.mapM (Token.evaluate autoEscape data safeKeys) with
          | error fault => rfl
          | ok others => rfl

theorem applyFilters_keepsSafe {missing : Bool} {text : Text} (filters : List Filter)
    (keep : ∀ filter ∈ filters, filter.KeepsSafe) : applyFilters missing ⟨text, true⟩ filters = .ok ⟨text, true⟩ := by
  induction filters with
  | nil => rfl
  | cons filter rest ih =>
      have later := ih fun other member => keep other (List.mem_cons_of_mem _ member)
      rw [applyFilters]
      rcases keep filter (List.mem_cons_self ..) with safe | escape
      · rw [safe]
        exact later
      · rw [escape]
        exact later

theorem Token.ShowsView.evaluate {token : Token} (shows : token.ShowsView) (autoEscape : Bool) (content : Text)
    (data : Data) :
    token.evaluate autoEscape (Dictionary.insert contentKey (.text content) data) [contentKey] = .ok content := by
  cases token with
  | text t => exact shows.elim
  | comment raw => exact shows.elim
  | reference raw =>
      obtain ⟨e, parsed, shown, keep⟩ := shows
      cases read : Expression.parse raw with
      | error fault => simp [read, Except.toOption] at parsed
      | ok found =>
          obtain rfl : found = e := by simpa [read, Except.toOption] using parsed
          have evaluated : found.evaluate (Dictionary.insert contentKey (.text content) data) [contentKey] =
              .ok ⟨content, true⟩ := by
            rw [Expression.evaluate, shown, lookup_contentKey]
            exact applyFilters_keepsSafe found.filters keep
          have item : Token.item (.reference raw) = .ok (.expression found) := by rw [Token.item, read]; rfl
          rw [Token.evaluate, item]
          simp only [bind, Except.bind, Item.evaluate, evaluated]
          simp [Rendered.written, pure, Except.pure]

theorem around_eq (autoEscape : Bool) (content : Text) (data : Data) :
    Token.around autoEscape content data =
      Token.evaluate autoEscape (Dictionary.insert contentKey (.text content) data) [contentKey] := by
  funext token
  rw [Token.around]
  split
  · next shows => exact (shows.evaluate autoEscape content data).symm
  · rfl

theorem compose_eq (autoEscape : Bool) (content : Text) (data : Data) (layout : Text) :
    compose autoEscape content data layout =
      renderTemplate autoEscape layout (Dictionary.insert contentKey (.text content) data) [contentKey] := by
  rw [compose, renderTemplate, evaluateSource]
  cases tokenize layout with
  | error tag => rfl
  | ok tokens =>
      simp only [around_eq, evaluateTokens_eq_mapM]
      cases tokens.mapM (Token.evaluate autoEscape (Dictionary.insert contentKey (.text content) data) [contentKey]) with
      | error fault => rfl
      | ok pieces => rfl

/-- A view that fails ends the rendering.  One that is rendered stands in its layout as it is; the layout sees it
in place of an entry that the caller has under its key, and the view sees that entry. -/
theorem renderWithin_layout {tree : FileTree} {r : Renderer} {layout frame : Text}
    (found : r.findSource tree layout = .ok frame) (view : Text) (data : Data) :
    (∀ stop, (r.viewRenderer tree).render view data = .error stop →
      (r.viewRenderer tree).renderWithin view (some layout) data = .error stop) ∧
    (∀ content, (r.viewRenderer tree).render view data = .ok content →
      (r.viewRenderer tree).renderWithin view (some layout) data =
        (compose r.autoEscape content data frame).evaluation) ∧
    (∀ own content, compose r.autoEscape content (Dictionary.insert contentKey own data) frame =
      compose r.autoEscape content data frame) ∧
    ∀ own source, r.findSource tree view = .ok source →
      (r.viewRenderer tree).render view (Dictionary.insert contentKey own data) =
        (renderTemplate r.autoEscape source (Dictionary.insert contentKey own data) []).evaluation ∧
      lookup (Dictionary.insert contentKey own data) contentKey = some own := by
  refine ⟨fun stop failed => ?_, fun content rendered => ?_, fun own content => ?_, fun own source loaded => ?_⟩
  · rw [ViewRenderer.renderWithin, failed]
    rfl
  · have framed : (r.viewRenderer tree).renderLayout layout content data =
        (compose r.autoEscape content data frame).evaluation := by
      rw [compose_eq]
      simp only [Renderer.viewRenderer, Renderer.renderLayout, Renderer.renderOrName, found]
    rw [ViewRenderer.renderWithin, rendered]
    exact framed
  · rw [compose_eq, compose_eq, Dictionary.insert_insert]
  · refine ⟨?_, lookup_contentKey own data⟩
    simp only [Renderer.viewRenderer, Renderer.render, Renderer.renderOrName, loaded]

/-- The view shows the caller's own entry, and its markup and what looks like a tag in it go into the layout as they
are. -/
theorem renderWithin_layout_tag :
    let view : Text := "<b>\x7b\x7b content \x7d\x7d"
    let layout : Text := "\x7b\x7b content|escape \x7d\x7d/\x7b\x7b t \x7d\x7d"
    let r := (Renderer.new.addTemplate "v" view).addTemplate "l" layout
    let data : Data := [(contentKey, .text "\x7b\x7b t \x7d\x7d"), ("t", .text "<")]
    r.findSource .empty "l" = .ok layout ∧
      (r.viewRenderer .empty).render "v" data = .ok "<b>\x7b\x7b t \x7d\x7d" ∧
      (r.viewRenderer .empty).renderWithin "v" (some "l") data = .ok "<b>\x7b\x7b t \x7d\x7d/&lt;" := by
  intro view layout r data
  have found : r.findSource .empty "l" = .ok layout := rfl
  have rendered : (r.viewRenderer .empty).render "v" data = .ok "<b>\x7b\x7b t \x7d\x7d" := rfl
  have framed := (renderWithin_layout found "v" data).2.1 _ rendered
  exact ⟨found, rendered, framed.trans rfl⟩

end RouteView.Template
