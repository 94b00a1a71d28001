import RouteView.Proofs.Application.Failure
import RouteView.Proofs.Settings.Loading
import RouteView.Proofs.Template.Loading

/-!
# Requests that are not answered

An application that was made from settings answers every request, unless an extension of views with a slash in it
would have to be added to the name of a view: that is the only way in which a request can abort (`dispatch_answers`).
Every other failure to load or to render a view is a fault, and ends in a response.
-/
set_option autoImplicit false
namespace RouteView

/-! ## Applications made from settings -/

namespace Application
variable {ω : Type} {tree : FileTree} {app : Application ω} {path : Text} {world : ω} {s : Settings}
open Template (Unjoinable Renderer)

inductive Configured (s : Settings) : Application ω → Prop
  | made : Configured s (ofSettings s)
  | route {app next : Application ω} {name source : Text} {view : Option Text} {handler : Option (Callback ω)} :
      Configured s app → app.route name source view handler = .ok next → Configured s next
  | template {app next : Application ω} {name source : Text} :
      Configured s app → app.addTemplate? name source = some next → Configured s next
  | data {app : Application ω} (key : Text) (value : Value) : Configured s app → Configured s (app.setData key value)
  | layout {app : Application ω} (layout : Option Text) : Configured s app → Configured s { app with layout }
  | start {app : Application ω} (callback : Callback ω) :
      Configured s app → Configured s { app with onStart := some callback }
  | finish {app : Application ω} (callback : Callback ω) :
      Configured s app → Configured s { app with onFinish := some callback }
  | failure {app : Application ω} (callback : Callback ω) :
      Configured s app → Configured s { app with onError := some callback }

def template? (app : Application ω) (name : Text) : Option Text :=
  match app.renderer with
  | .templates r => r.memory.get? name
  | .custom _ => none

/-- The renderer stays that of the settings but for its templates in memory. -/
theorem Configured.renderer_eq (h : Configured s app) :
    ∃ memory, app.renderer = .templates { Renderer.ofSettings s with memory } := by
  induction h with
  | made => exact ⟨[], rfl⟩
  | @route app next name source view handler _ registered ih =>
      have kept : next.renderer = app.renderer := by
        rw [Application.route] at registered
        split at registered
        · cases registered
        · cases registered
          rfl
      rw [kept]
      exact ih
  | @template app next name source _ added ih =>
      obtain ⟨memory, known⟩ := ih
      rw [addTemplate?, known] at added
      cases added
      exact ⟨_, rfl⟩
  | data _ _ _ ih => exact ih
  | layout _ _ ih => exact ih
  | start _ _ ih => exact ih
  | finish _ _ ih => exact ih
  | failure _ _ ih => exact ih

/-! ## Pages -/

inductive ComesTo (tree : FileTree) (app : Application ω) (page : Page) : Text → Prop
  | view {view : Text} : page.view = some view → ComesTo tree app page view
  | layout {layout content : Text} : app.renderPage tree { page with layout := none } = .ok content →
      page.layout = some layout → ComesTo tree app page layout

/-- The extension of the settings would have to be added to this name, which is that of no template in memory, and
cannot be. -/
def Aborts (s : Settings) (app : Application ω) (name : Text) : Prop :=
  app.template? name = none ∧ Unjoinable s.viewExtension name

theorem Configured.render_eq_abort (h : Configured s app) {name : Text} {data : Data} :
    (app.renderer.viewRenderer tree).render name data = .error .abort ↔ Aborts s app name := by
  obtain ⟨memory, known⟩ := h.renderer_eq
  rw [Aborts, template?, known, ← Template.unjoinable_dropDots]
  exact Renderer.renderOrName_eq_abort.trans (Renderer.findSource_eq_abort rfl)

theorem Configured.renderLayout_eq_abort (h : Configured s app) {name content : Text} {data : Data} :
    (app.renderer.viewRenderer tree).renderLayout name content data = .error .abort ↔ Aborts s app name := by
  obtain ⟨memory, known⟩ := h.renderer_eq
  rw [Aborts, template?, known, ← Template.unjoinable_dropDots]
  exact Renderer.renderOrName_eq_abort.trans (Renderer.findSource_eq_abort rfl)

theorem renderView_eq (tree : FileTree) (app : Application ω) (page : Page) :
    app.renderPage tree { page with layout := none } =
      match page.view with
      | some view => (app.renderer.viewRenderer tree).render view page.data
      | none => .ok [] := by
  cases page.view with
  | none =>
      simp only [renderPage]
      rfl
  | some view =>
      simp only [renderPage]
      cases (app.renderer.viewRenderer tree).render view page.data with
      | error stop => rfl
      | ok content => rfl

theorem renderPage_eq (tree : FileTree) (app : Application ω) (page : Page) :
    app.renderPage tree page = app.renderPage tree { page with layout := none } >>= fun content =>
      match page.layout with
      | some layout => (app.renderer.viewRenderer tree).renderLayout layout content page.data
      | none => .ok content := by
  rw [renderView_eq, renderPage]
  cases page.view with
  | none => rfl
  | some view => rfl

theorem Configured.renderView_eq_abort (h : Configured s app) {page : Page} :
    app.renderPage tree { page with layout := none } = .error .abort ↔
      ∃ view, page.view = some view ∧ Aborts s app view := by
  rw [renderView_eq]
  cases page.view with
  | none =>
      constructor
      · nofun
      · nofun
  | some view =>
      refine h.render_eq_abort.trans ⟨fun aborts => ⟨view, rfl, aborts⟩, ?_⟩
      rintro ⟨_, shown, aborts⟩
      cases shown
      exact aborts

theorem Configured.renderPage_eq_abort (h : Configured s app) {page : Page} :
    app.renderPage tree page = .error .abort ↔ ∃ name, ComesTo tree app page name ∧ Aborts s app name := by
  rw [renderPage_eq]
  cases content : app.renderPage tree { page with layout := none } with
  | error stop =>
      constructor
      · intro aborted
        cases aborted
        obtain ⟨view, shown, aborts⟩ := h.renderView_eq_abort.mp content
        exact ⟨view, .view shown, aborts⟩
      · rintro ⟨name, comes, aborts⟩
        cases comes with
        | view shown => exact content.symm.trans (h.renderView_eq_abort.mpr ⟨name, shown, aborts⟩)
        | layout rendered _ => cases content.symm.trans rendered
  | ok text =>
      have shown : ∀ name, ComesTo tree app page name → Aborts s app name → page.layout = some name := by
        intro name comes aborts
        cases comes with
        | view shown => cases content.symm.trans (h.renderView_eq_abort.mpr ⟨name, shown, aborts⟩)
        | layout _ set => exact set
      cases set : page.layout with
      | none =>
          constructor
          · nofun
          · rintro ⟨name, comes, aborts⟩
            cases set.symm.trans (shown name comes aborts)
      | some layout =>
          refine Iff.trans h.renderLayout_eq_abort ⟨fun aborts => ⟨layout, .layout content set, aborts⟩, ?_⟩
          rintro ⟨name, comes, aborts⟩
          cases set.symm.trans (shown name comes aborts)
          exact aborts

/-! ## Requests -/

theorem dispatch_eq_none :
    (app.dispatch tree path world).1 = none ↔ ∃ left w, Fails tree app path world .abort left w := by
  cases ended : app.process tree (Request.new path app.layout app.data) world with
  | mk result rest =>
      obtain ⟨left, w⟩ := rest
      rw [dispatch, ended]
      cases result with
      | ok response =>
          constructor
          · intro absent
            cases absent
          · rintro ⟨_, _, fails⟩
            cases ended.symm.trans fails.process_eq
      | error stop =>
          cases stop with
          | abort => exact ⟨fun _ => ⟨left, w, process_eq_error.mp ended⟩, fun _ => rfl⟩
          | fault fault =>
              constructor
              · intro absent
                cases absent
              · rintro ⟨_, _, fails⟩
                cases ended.symm.trans fails.process_eq

theorem call_ne_abort {callback : Option (Callback ω)} {args : Arguments} {st next : Request} {w later : ω} :
    app.call callback args st w ≠ (.error .abort, next, later) :=
  fun called => Attempt.evaluation_ne_abort _ (congrArg Prod.fst called)

/-- Only composing the page can abort. -/
theorem fails_abort {left : Request} {w : ω} : Fails tree app path world .abort left w ↔
    Reaches tree app path world (.handled none) left w ∧ left.page.redirect = none ∧
      app.renderPage tree left.page = .error .abort := by
  constructor
  · intro fails
    cases fails with
    | start _ called => exact absurd called call_ne_abort
    | handler _ called => exact absurd called call_ne_abort
    | render reached quiet broken => exact ⟨reached, quiet, broken⟩
    | finish _ called => exact absurd called call_ne_abort
  · rintro ⟨reached, quiet, broken⟩
    exact .render reached quiet broken

/-- An application that was made from settings answers every request if no slash stands in the extension of views, and
otherwise every request but those that come to a name to which the extension would be added.  A failure to load or to
render a view is a fault, and the response reports it. -/
theorem dispatch_answers (configured : Configured s app) (tree : FileTree) (path : Text) (world : ω) :
    ('/' ∉ s.viewExtension → ∃ response after, app.dispatch tree path world = (some response, after)) ∧
    ((app.dispatch tree path world).1 = none ↔
      ∃ left w name, Reaches tree app path world (.handled none) left w ∧ left.page.redirect = none ∧
        ComesTo tree app left.page name ∧ Aborts s app name) ∧
    ∀ left w stop, Reaches tree app path world (.handled none) left w → left.page.redirect = none →
      app.renderPage tree left.page = .error stop → (∀ name, ComesTo tree app left.page name → ¬ Aborts s app name) →
      ∃ fault, stop = .fault fault ∧
        app.dispatch tree path world =
          (some (Response.new fault.status
              ((app.effect app.onError (errorArguments path fault) left w).body.getD fault.message)),
            (app.effect app.onError (errorArguments path fault) left w).world) := by
  have unanswered : (app.dispatch tree path world).1 = none ↔
      ∃ left w name, Reaches tree app path world (.handled none) left w ∧ left.page.redirect = none ∧
        ComesTo tree app left.page name ∧ Aborts s app name := by
    rw [dispatch_eq_none]
    simp only [fails_abort, configured.renderPage_eq_abort, ← exists_and_left]
  refine ⟨fun flat => ?_, unanswered, fun left w stop reached quiet broken joinable => ?_⟩
  · have answered : (app.dispatch tree path world).1 ≠ none := by
      intro none
      obtain ⟨_, _, _, _, _, _, _, stuck⟩ := unanswered.mp none
      exact flat stuck.slash
    obtain ⟨response, given⟩ := Option.ne_none_iff_exists'.mp answered
    exact ⟨response, _, Prod.ext given rfl⟩
  · cases stop with
    | abort =>
        obtain ⟨name, comes, aborts⟩ := configured.renderPage_eq_abort.mp broken
        exact absurd aborts (joinable name comes)
    | fault fault =>
        have fails := Fails.render reached quiet broken
        exact ⟨fault, rfl, fails.dispatch_eq⟩

/-- A view with an extension of its own is looked up, and a fault of it is reported, although a slash stands in the
extension of the settings. -/
theorem dispatch_answers_extended :
    let s : Settings := { Settings.default with viewExtension := ".a/b" }
    let route : Route (Callback Unit) := ⟨"a", .path (.literal "/a" .nil), some "v.html", none⟩
    let app : Application Unit := { Application.ofSettings s with routes := IndexedTable.empty.insert route }
    let tree := FileTree.ofPaths [("views/v.html", .file none)]
    Configured s app ∧ app.dispatch tree "/a" () =
      (some (Response.new 500 "IO error: stream did not contain valid UTF-8"), ()) := by
  intro s route app tree
  have configured : Configured s app := by
    have registered : (Application.ofSettings s).route "a" "/a" (some "v.html") none = .ok app := rfl
    exact Configured.route .made registered
  have reached : Reaches tree app "/a" () (.handled none) (enter ⟨route, []⟩ (Request.new "/a" none [])) () :=
    ((Reaches.fresh.started rfl).entered rfl).handled rfl
  have joinable : ∀ name, ComesTo tree app (enter ⟨route, []⟩ (Request.new "/a" none [])).page name →
      ¬ Aborts s app name := by
    intro name comes aborts
    cases comes with
    | view shown =>
        cases shown
        exact absurd aborts.2.bare (by decide)
    | layout _ set => cases set
  obtain ⟨fault, same, answered⟩ := (dispatch_answers configured tree "/a" ()).2.2 _ _ _ reached rfl rfl joinable
  cases same
  exact ⟨configured, answered⟩

/-- The settings are those of a text, and the request aborts: a view `v` would be looked up as `v.a/b`. -/
theorem slash_extension_aborts :
    ∃ (s : Settings) (app : Application Unit), Settings.ofText .json "\x7b\"view_extension\":\"a/b\"\x7d" = .ok s ∧
      (Application.ofSettings s).route "a" "/a" (some "v") none = .ok app ∧
      app.dispatch FileTree.empty "/a" () = (none, ()) := by
  have written : (Value.object [("view_extension", .text "a/b")]).json = "\x7b\"view_extension\":\"a/b\"\x7d" := by decide
  have read : Settings.Format.json.read? (Value.object [("view_extension", .text "a/b")]).json =
      some (.object [("view_extension", .text "a/b")]) := by
    refine (Value.readsBack_object fun field member => ?_).ofJson?
    cases List.mem_singleton.mp member
    exact Value.readsBack_text _
  refine ⟨{ Settings.default with viewExtension := "a/b" }, _, ?_, rfl, rfl⟩
  rw [← written, Settings.ofText, read]
  rfl

end Application
end RouteView
