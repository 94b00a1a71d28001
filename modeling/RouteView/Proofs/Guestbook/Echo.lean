import RouteView.Guestbook.Views
import RouteView.Proofs.Application.Skeleton
import RouteView.Proofs.Guestbook.Forwarding

/-!
# Angle brackets in the responses of the guestbook

A request to the guestbook ends in one of four ways (`Course`).  A page that a template made has the angle brackets
of its view and its layout and no others.  The error page shows the message of the fault as it stands, and with it
the identifier that the path asks for: there, and only there, the path brings angle brackets of its own
(`angles_determined`).
-/
set_option autoImplicit false
namespace RouteView.Guestbook
open RouteView.Text (angles markup)
open Application (Reaches Answers Fails)
variable {ω : Type} {s : Settings} {tree : FileTree} {path : Text} {world : ω} {found : Resolved (Callback ω)}

/-! ## Views -/

def viewNames : List Text := ["home", "entries/show", "archive", aboutView]

/-- What is found under the name of a view or of the layout is one of the view files of the guestbook. -/
def OwnViews (tree : FileTree) (s : Settings) : Prop :=
  ∀ name, name ∈ viewNames ∨ s.layout = some name → ∀ source,
    (Template.Renderer.ofSettings s).findSource tree name = .ok source → source ∈ viewFiles.map Prod.snd

/-- In its own tree the guestbook finds nothing else. -/
theorem ownViews_viewTree (s : Settings) : OwnViews viewTree s := by
  intro name _ source loaded
  obtain ⟨place, listed⟩ := Template.Renderer.mem_of_findSource loaded
  obtain ⟨file, member, same⟩ := List.mem_map.mp listed
  cases same
  exact List.mem_map_of_mem member

theorem viewFiles_sound : ∀ source ∈ viewFiles.map Prod.snd, Template.Sound source := by decide +kernel

theorem route_mem_routes (resolved : (book (ω := ω) s).resolve path = some found) : found.route ∈ routes := by
  rw [resolve_eq (asks_withoutQuery path)] at resolved
  exact (RouteTable.firstMatch_matches resolved).1

theorem view_mem_viewNames {name : Text} {route : Route (Callback ω)} (member : route ∈ routes)
    (shown : route.view = some name) : name ∈ viewNames := by
  simp only [routes, List.mem_cons, List.not_mem_nil, or_false] at member
  rcases member with rfl | rfl | rfl | rfl | rfl <;> cases shown <;> decide

theorem OwnViews.soundAt (own : OwnViews tree s) {route : Route (Callback ω)} (listed : route ∈ routes) {name : Text}
    (shown : route.view = some name ∨ s.layout = some name) :
    Template.SoundAt tree (Template.Renderer.ofSettings s) name :=
  fun source loaded => viewFiles_sound source (own name (shown.imp_left (view_mem_viewNames listed)) source loaded)

/-! ## Responses -/

def askedId (found? : Option (Resolved (Callback ω))) : Text :=
  (found?.bind fun found => found.captures.lookup "id".toList).getD []

inductive Course (ω : Type) (s : Settings) (tree : FileTree) (path : Text) : Response → Prop
  | unmatched : (book (ω := ω) s).resolve path = none →
      Course ω s tree path (Response.notFound Application.notFoundBody)
  | shown {found : Resolved (Callback ω)} {page : Page} {content : Text} : (book s).resolve path = some found →
      page.view = found.route.view → page.layout = s.layout →
      (book (ω := ω) s).renderPage tree page = .ok content → Course ω s tree path (Response.ok content)
  | forwarded {response : Response} : response.status = 302 → response.body = [] → Course ω s tree path response
  | failed {fault : Fault} : fault.status = 500 →
      angles fault.message = angles (askedId ((book (ω := ω) s).resolve path)) →
      Course ω s tree path (errorResponse fault)

theorem dispatch_composed {make : Text → Response} {content : Text} {st : Request} {w : ω}
    (reached : Reaches tree (book s) path world (.composed make content) st w) :
    (book s).dispatch tree path world = (some (make content), w) := by
  have answers := Answers.finish reached rfl
  rw [Application.dispatch, answers.process_eq]
  rfl

theorem course_of_unmatched (unmatched : (book (ω := ω) s).resolve path = none) {response : Response}
    (answered : ((book s).dispatch tree path world).1 = some response) : Course ω s tree path response := by
  have begun : (book s).LetsOn path world := letsOn
  rw [dispatch_composed ((begun.reaches tree).unmatched unmatched)] at answered
  cases answered
  exact .unmatched unmatched

theorem angles_missing (id : Text) : angles (missing id).message = angles id := by
  change angles ("Handler error: " ++ ("No entry with id '" ++ id ++ "'")) = angles id
  rw [Text.angles_behind (by decide), Text.angles_before (by decide), Text.angles_behind (by decide)]

theorem angles_unsendable (id : Text) : angles (unsendable (entryUrl id)).message = angles id := by
  change angles ("Internal server error: " ++ ("Redirect location '" ++ ("/entries/" ++ id) ++
    "' is not a valid header value")) = angles id
  rw [Text.angles_behind (by decide), Text.angles_before (by decide), Text.angles_behind (by decide),
    Text.angles_behind (by decide)]

theorem angles_ioMessage (reason : FileFault) : angles (Fault.io reason.message).message = [] := by
  cases reason <;> decide

theorem Prepares.course (h : Prepares s path found world) (resolved : (book s).resolve path = some found)
    (sound : ∀ name, found.route.view = some name ∨ s.layout = some name →
      Template.SoundAt tree (Template.Renderer.ofSettings s) name)
    (plain : angles (askedId (some found)) = []) {response : Response}
    (answered : ((book s).dispatch tree path world).1 = some response) : Course ω s tree path response := by
  obtain ⟨st, handled, view, layout, quiet⟩ := h.reaches resolved tree
  cases rendered : (book (ω := ω) s).renderPage tree st.page with
  | ok content =>
      rw [dispatch_composed (handled.rendered quiet rendered)] at answered
      cases answered
      exact .shown resolved view layout rendered
  | error stop =>
      have fails := Fails.render handled quiet rendered
      cases stop with
      | abort =>
          rw [Application.dispatch, fails.process_eq] at answered
          cases answered
      | fault fault =>
          rw [dispatch_of_fault fails] at answered
          cases answered
          rw [← view, ← layout] at sound
          obtain ⟨reason, rfl⟩ := Application.renderPage_fault rfl sound rendered
          refine .failed rfl ?_
          rw [resolved, plain, angles_ioMessage]

theorem course_of_unknown {id : Text} (resolved : (book (ω := ω) s).resolve path = some ⟨entryRoute, [("id", id)]⟩)
    (unknown : findEntry? id = none) {response : Response}
    (answered : ((book s).dispatch tree path world).1 = some response) : Course ω s tree path response := by
  obtain ⟨after, failed⟩ := dispatch_missing resolved unknown tree world
  rw [failed] at answered
  cases answered
  refine .failed rfl ?_
  rw [resolved]
  exact angles_missing id

theorem course_of_legacy {id : Text} (resolved : (book (ω := ω) s).resolve path = some ⟨legacyRoute, [("id", id)]⟩)
    (fills : Segments.Fills id) (asks : Asks path ("/entry.php/" ++ id)) {response : Response}
    (answered : ((book s).dispatch tree path world).1 = some response) : Course ω s tree path response := by
  by_cases printable : Text.Printable id
  · have pending : (book s).Pending path world (entryUrl id) := pending_legacy fills asks
    obtain ⟨sent, after, forwards, status, empty, _⟩ :=
      pending.dispatch_printable tree (printable_entryUrl.mpr printable)
    rw [forwards] at answered
    cases answered
    exact .forwarded status empty
  · obtain ⟨after, failed⟩ := dispatch_unsendable (s := s) fills asks printable tree world
    rw [failed] at answered
    cases answered
    refine .failed rfl ?_
    rw [resolved]
    exact angles_unsendable id

/-- A match of a route without this parameter asks for nothing. -/
theorem unasked {route : Route (Callback ω)} {captures : Captures} {asked : Text}
    (matched : route.pattern.captures? asked = some captures)
    (other : "id".toList ∉ route.pattern.parameters.map Segments.Parameter.name) :
    angles (askedId (some ⟨route, captures⟩)) = [] := by
  rw [askedId, Option.bind_some]
  cases found : captures.lookup "id".toList with
  | none => rfl
  | some id => exact absurd (Pattern.captured matched found).2.2.2 other

theorem angles_known {id : Text} {entry : Entry} (known : findEntry? id = some entry) : angles id = [] := by
  have listed : ∀ e ∈ entries, angles (Text.ofNat e.id) = [] := by decide
  have same : Text.ofNat entry.id = id := by simpa using List.find?_some known
  rw [← same]
  exact listed entry (List.mem_of_find?_eq_some known)

theorem course_of_dispatch (own : OwnViews tree s) {response : Response}
    (answered : ((book s).dispatch tree path world).1 = some response) : Course ω s tree path response := by
  cases resolved : (book (ω := ω) s).resolve path with
  | none => exact course_of_unmatched resolved answered
  | some found =>
      obtain ⟨route, captures⟩ := found
      have asks := asks_withoutQuery path
      have hit := resolved
      rw [resolve_eq asks] at hit
      obtain ⟨member, matched⟩ := RouteTable.firstMatch_matches hit
      dsimp only at member matched
      have sound : ∀ name, route.view = some name ∨ s.layout = some name →
          Template.SoundAt tree (Template.Renderer.ofSettings s) name := fun name => own.soundAt member
      simp only [routes, List.mem_cons, List.not_mem_nil, or_false] at member
      rcases member with rfl | rfl | rfl | rfl | rfl
      · exact prepares_home.course resolved sound (unasked matched List.not_mem_nil) answered
      · obtain ⟨id, _, _, rfl⟩ := Segments.captures?_literal_parameter.mp matched
        cases known : findEntry? id with
        | none => exact course_of_unknown resolved known answered
        | some entry => exact (prepares_entry known).course resolved sound (angles_known known) answered
      · have named : "id".toList ∉ ["year".toList, "month".toList] := by decide
        exact prepares_archive.course resolved sound (unasked matched named) answered
      · obtain ⟨id, whole, fills, rfl⟩ := Segments.captures?_literal_parameter.mp matched
        exact course_of_legacy resolved fills (whole ▸ asks) answered
      · exact prepares_about.course resolved sound (unasked matched List.not_mem_nil) answered

/-! ## Angle brackets -/

theorem angles_errorText {fault : Fault} (broken : fault.status = 500) :
    angles (errorText fault) = "<><><>" ++ angles fault.message ++ "<>" := by
  have front : ∀ status, status = 500 →
      angles ("<h1>Something went wrong (" ++ Text.ofNat status ++ ")</h1><pre>") = "<><><>".toList := by
    rintro status rfl
    decide
  have back : angles "</pre>" = "<>".toList := by decide
  exact (Text.angles_around ..).trans (congrArg₂ (· ++ angles fault.message ++ ·) (front _ broken) back)

section Course
variable {response : Response}

/-- The error page has the angle brackets of the identifier that was asked for, between its own. -/
theorem Course.angles_eq (h : Course ω s tree path response) (broken : response.status = 500) :
    angles response.body = "<><><>" ++ angles (askedId ((book (ω := ω) s).resolve path)) ++ "<>" := by
  cases h with
  | unmatched _ => cases broken
  | shown _ _ _ _ => cases broken
  | forwarded status _ => cases status.symm.trans broken
  | failed status asked =>
      rw [← asked]
      exact angles_errorText status

theorem route_eq_of_name {route other : Route (Callback ω)} (listed : route ∈ routes) (also : other ∈ routes)
    (same : route.name = other.name) : route = other :=
  List.inj_on_of_nodup_map (book (ω := ω) Settings.default).routes.nodup_names listed also same

/-- Responses of one route and one status, other than that of failures, have the same markup. -/
theorem Course.markup_eq {other : Text} {another : Response} (escaping : s.autoEscape = true) (own : OwnViews tree s)
    (h : Course ω s tree path response) (also : Course ω s tree other another)
    (sameRoute : ((book (ω := ω) s).resolve path).map (·.route.name) =
      ((book (ω := ω) s).resolve other).map (·.route.name))
    (sameStatus : response.status = another.status) (fine : response.status ≠ 500) :
    markup response.body = markup another.body := by
  cases h with
  | unmatched _ =>
      cases also with
      | unmatched _ => rfl
      | shown _ _ _ _ => cases sameStatus
      | forwarded status _ => cases sameStatus.trans status
      | failed status _ => exact absurd (sameStatus.trans status) fine
  | forwarded status empty =>
      cases also with
      | unmatched _ => cases status.symm.trans sameStatus
      | shown _ _ _ _ => cases status.symm.trans sameStatus
      | forwarded _ nothing => rw [empty, nothing]
      | failed broken _ => exact absurd (sameStatus.trans broken) fine
  | failed broken _ => exact absurd broken fine
  | @shown found page content resolved view layout rendered =>
      cases also with
      | unmatched _ => cases sameStatus
      | forwarded status _ => cases sameStatus.trans status
      | failed status _ => exact absurd (sameStatus.trans status) fine
      | @shown hit sheet text matched sight frame drawn =>
          rw [resolved, matched, Option.map_some, Option.map_some, Option.some.injEq] at sameRoute
          have listed := route_mem_routes resolved
          have same := route_eq_of_name listed (route_mem_routes matched) sameRoute
          refine Application.markup_renderPage rfl escaping ?_ (layout.trans frame.symm) ?_ rendered drawn
          · rw [view, sight, same]
          · rw [view, layout]
            exact fun name => own.soundAt listed

end Course

/-- The angle brackets of a response are determined by the route and the status, unless the request failed: the
error page has those of the identifier that was asked for, and of two failures of one route the responses have the
same angle brackets exactly when the identifiers have. -/
theorem angles_determined (s : Settings) (tree : FileTree) (escaping : s.autoEscape = true) (own : OwnViews tree s) :
    ∃ app : Application ω, site s = .ok app ∧
      ∀ path response world, (app.dispatch tree path world).1 = some response →
        (response.status = 500 →
          angles response.body = "<><><>" ++ angles (askedId (app.resolve path)) ++ "<>") ∧
        ∀ other another later, (app.dispatch tree other later).1 = some another →
          (app.resolve path).map (·.route.name) = (app.resolve other).map (·.route.name) →
          response.status = another.status →
          (response.status ≠ 500 → markup response.body = markup another.body) ∧
          (angles response.body = angles another.body ↔
            (response.status = 500 → angles (askedId (app.resolve path)) = angles (askedId (app.resolve other)))) := by
  refine ⟨book s, site_eq s, fun path response world answered => ?_⟩
  have course : Course ω s tree path response := course_of_dispatch own answered
  refine ⟨course.angles_eq, fun other another later alsoAnswered sameRoute sameStatus => ?_⟩
  have parallel : Course ω s tree other another := course_of_dispatch own alsoAnswered
  have alike := course.markup_eq escaping own parallel sameRoute sameStatus
  refine ⟨alike, ?_⟩
  by_cases broken : response.status = 500
  · rw [course.angles_eq broken, parallel.angles_eq (sameStatus.symm.trans broken), List.append_left_inj,
      List.append_right_inj]
    exact ⟨fun same _ => same, fun same => same broken⟩
  · have same : angles response.body = angles another.body := by
      rw [← Text.angles_markup response.body, alike broken, Text.angles_markup]
    exact ⟨fun _ stopped => absurd stopped broken, fun _ => same⟩

/-- The path asks for an entry whose identifier is a tag. -/
theorem angles_determined_tag : (defaultSettings.autoEscape = true ∧ OwnViews viewTree defaultSettings) ∧
    ∃ app : Application Unit, site defaultSettings = .ok app ∧ ∃ response,
      (app.dispatch viewTree "/entries/<b>" ()).1 = some response ∧ response.status = 500 ∧
        angles response.body = "<><><><><>" := by
  obtain ⟨app, made, determined⟩ :=
    angles_determined (ω := Unit) defaultSettings viewTree rfl (ownViews_viewTree defaultSettings)
  cases (site_eq defaultSettings).symm.trans made
  have resolved : (book (ω := Unit) defaultSettings).resolve "/entries/<b>" = some ⟨entryRoute, [("id", "<b>")]⟩ :=
    resolve_entry ⟨by decide, by decide⟩ ⟨by decide, Or.inl rfl⟩
  obtain ⟨after, failed⟩ := dispatch_missing resolved (by decide) viewTree ()
  have answered := congrArg Prod.fst failed
  have echoed := (determined "/entries/<b>" _ () answered).1 rfl
  rw [resolved] at echoed
  exact ⟨⟨rfl, ownViews_viewTree defaultSettings⟩, _, made, _, answered, rfl, echoed⟩

/-- Two entries that are missing: one route and one status, but the angle brackets differ. -/
theorem error_page_echoes : defaultSettings.autoEscape = true ∧ OwnViews viewTree defaultSettings ∧
    ∃ app : Application Unit, site defaultSettings = .ok app ∧ ∃ response another,
      (app.dispatch viewTree "/entries/99" ()).1 = some response ∧
      (app.dispatch viewTree "/entries/<b>" ()).1 = some another ∧
      (app.resolve "/entries/99").map (·.route.name) = (app.resolve "/entries/<b>").map (·.route.name) ∧
      response.status = another.status ∧ angles response.body ≠ angles another.body := by
  have first : (book (ω := Unit) defaultSettings).resolve "/entries/99" = some ⟨entryRoute, [("id", "99")]⟩ :=
    resolve_entry ⟨by decide, by decide⟩ ⟨by decide, Or.inl rfl⟩
  have second : (book (ω := Unit) defaultSettings).resolve "/entries/<b>" = some ⟨entryRoute, [("id", "<b>")]⟩ :=
    resolve_entry ⟨by decide, by decide⟩ ⟨by decide, Or.inl rfl⟩
  obtain ⟨_, failed⟩ := dispatch_missing first (by decide) viewTree ()
  obtain ⟨_, refused⟩ := dispatch_missing second (by decide) viewTree ()
  refine ⟨rfl, ownViews_viewTree defaultSettings, book defaultSettings, site_eq defaultSettings, _, _,
    congrArg Prod.fst failed, congrArg Prod.fst refused, ?_, rfl, ?_⟩
  · rw [first, second]
    rfl
  · change angles (errorText (missing "99")) ≠ angles (errorText (missing "<b>"))
    rw [angles_errorText rfl, angles_errorText rfl, angles_missing, angles_missing]
    decide

end RouteView.Guestbook
