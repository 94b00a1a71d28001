import RouteView.Proofs.Application.Milestones
import RouteView.Proofs.Request.Changes

/-!
# What a request without failures is answered with

Four kinds of callbacks may each return a text or nothing and may change the page.  `dispatch_of_succeeds` says
which of all this is decisive: the text of the start callback before everything else, then the want of a route,
then the last redirect, then the handler's text, and last the page; the finish callback has the final word where
there is content.
-/
set_option autoImplicit false
namespace RouteView.Application
variable {ω : Type} {tree : FileTree} {app : Application ω} {path : Text} {world : ω}

def Succeeds (tree : FileTree) (app : Application ω) (path : Text) (world : ω) : Prop :=
  ∀ stop s w, ¬ Fails tree app path world stop s w

/-! ## Calls -/

def startCall (app : Application ω) (path : Text) (world : ω) : Effect ω :=
  app.effect app.onStart (startArguments path) (Request.new path app.layout app.data) world

def startRequest (app : Application ω) (path : Text) (world : ω) : Request :=
  (Request.new path app.layout app.data).after app.routes.addresses (app.startCall path world).changes

def handlerCall (app : Application ω) (path : Text) (found : Resolved (Callback ω)) (world : ω) : Effect ω :=
  app.effect found.route.handler (handlerArguments path found.captures)
    (enter found (app.startRequest path world)) (app.startCall path world).world

def handlerRequest (app : Application ω) (path : Text) (found : Resolved (Callback ω)) (world : ω) : Request :=
  (enter found (app.startRequest path world)).after app.routes.addresses
    (app.handlerCall path found world).changes

def finishCall (app : Application ω) (path content : Text) (s : Request) (world : ω) : Effect ω :=
  app.effect app.onFinish (finishArguments path content) s world

theorem call_of_not_error {callback : Option (Callback ω)} {args : Arguments} {s : Request} {w : ω}
    (h : ∀ stop next later, app.call callback args s w ≠ (.error stop, next, later)) :
    app.call callback args s w = (.ok (app.effect callback args s w).body,
      s.after app.routes.addresses (app.effect callback args s w).changes,
      (app.effect callback args s w).world) := by
  cases result : (app.effect callback args s w).result with
  | error fault => exact absurd (call_of_error result) (h _ _ _)
  | ok returned => exact call_of_ok result

theorem Succeeds.started (h : Succeeds tree app path world) :
    app.call app.onStart (startArguments path) (Request.new path app.layout app.data) world =
      (.ok (app.startCall path world).body, app.startRequest path world, (app.startCall path world).world) :=
  call_of_not_error fun _ _ _ called => h _ _ _ (.start .fresh called)

theorem Succeeds.handled {found : Resolved (Callback ω)} (h : Succeeds tree app path world)
    (reached : Reaches tree app path world (.entered found) (enter found (app.startRequest path world))
      (app.startCall path world).world) :
    app.call found.route.handler (handlerArguments path found.captures)
        (enter found (app.startRequest path world)) (app.startCall path world).world =
      (.ok (app.handlerCall path found world).body, app.handlerRequest path found world,
        (app.handlerCall path found world).world) :=
  call_of_not_error fun _ _ _ called => h _ _ _ (.handler reached called)

/-! ## The page that the handler leaves -/

section Page
variable {found : Resolved (Callback ω)}

theorem handlerRequest_view : (app.handlerRequest path found world).page.view =
    (Change.last? Change.view? (app.handlerCall path found world).changes).getD
      (found.route.view.or
        ((Change.last? Change.view? (app.startCall path world).changes).getD none)) := by
  have started : (app.startRequest path world).page.view =
      (Change.last? Change.view? (app.startCall path world).changes).getD none := Request.after_view ..
  rw [handlerRequest, Request.after_view, enter, started]

theorem handlerRequest_layout : (app.handlerRequest path found world).page.layout =
    (Change.last? Change.layout?
      ((app.startCall path world).changes ++ (app.handlerCall path found world).changes)).getD app.layout := by
  have started : (app.startRequest path world).page.layout =
      (Change.last? Change.layout? (app.startCall path world).changes).getD app.layout := Request.after_layout ..
  rw [handlerRequest, Request.after_layout, enter, started, Change.last?_append]
  cases Change.last? Change.layout? (app.handlerCall path found world).changes with
  | none => rfl
  | some layout => rfl

theorem handlerRequest_redirect : (app.handlerRequest path found world).page.redirect =
    Change.last? (Change.redirect? app.routes.addresses)
      ((app.startCall path world).changes ++ (app.handlerCall path found world).changes) := by
  have started : (app.startRequest path world).page.redirect =
      (Change.last? (Change.redirect? app.routes.addresses) (app.startCall path world).changes).or none :=
    Request.after_redirect ..
  rw [Option.or_none] at started
  rw [handlerRequest, Request.after_redirect, enter, started, Change.last?_append]

end Page

/-! ## From a milestone to the response -/

section Milestone
variable {s : Request} {w : ω}

theorem Succeeds.dispatch_composed {make : Text → Response} {content : Text} (h : Succeeds tree app path world)
    (reached : Reaches tree app path world (.composed make content) s w) :
    app.dispatch tree path world =
      (some (make ((app.finishCall path content s w).body.getD content)),
        (app.finishCall path content s w).world) := by
  have called := call_of_not_error fun _ _ _ called => h _ _ _ (.finish reached called)
  rw [dispatch, reached.process_eq, resume, respond, finish, reached.path_eq, called]
  rfl

theorem Succeeds.dispatch_redirected {returned : Option Text} {url : Text} (h : Succeeds tree app path world)
    (reached : Reaches tree app path world (.handled returned) s w) (pending : s.page.redirect = some url) :
    ∃ response, app.dispatch tree path world = (some response, w) ∧ response.status = 302 ∧
      response.body = [] ∧ response.location = some url := by
  by_cases printable : url.all isLocationChar = true
  · refine ⟨{ Response.new 302 [] with headers := [(Response.locationName, url)] }, ?_, rfl, rfl, ?_⟩
    · rw [dispatch, reached.process_eq, resume, conclude_redirect pending, Response.redirect, if_pos printable]
      rfl
    · simp [Response.location, Headers.get?, printable]
  · have refused : Response.redirect url =
        .error (.internal ("Redirect location '" ++ url ++ "' is not a valid header value")) := by
      rw [Response.redirect, if_neg printable]
    exact absurd (.location reached pending refused) (h _ _ _)

theorem Succeeds.reaches_composed {returned : Option Text} (h : Succeeds tree app path world)
    (reached : Reaches tree app path world (.handled returned) s w) (quiet : s.page.redirect = none) :
    ∃ content, (returned = some content ∨ returned = none ∧ app.renderPage tree s.page = .ok content) ∧
      Reaches tree app path world (.composed Response.ok content) s w := by
  cases returned with
  | some content => exact ⟨content, Or.inl rfl, reached.returned quiet⟩
  | none =>
      cases rendered : app.renderPage tree s.page with
      | error stop => exact absurd (.render reached quiet rendered) (h _ _ _)
      | ok content => exact ⟨content, Or.inr ⟨rfl, rfl⟩, reached.rendered quiet rendered⟩

end Milestone

/-- The response to a request none of whose steps fails, and the world after it, which tells what was called.  The text
of the start callback comes first, then the answer for want of a route, then a redirect that is pending, and then the
content: the text of the handler or else the page. -/
theorem dispatch_of_succeeds (succeeds : Succeeds tree app path world) :
    (∀ text, (app.startCall path world).body = some text →
      app.dispatch tree path world = (some (Response.new 200 text), (app.startCall path world).world)) ∧
    ((app.startCall path world).body = none →
      (app.resolve path = none →
        let finish := app.finishCall path notFoundBody (app.startRequest path world) (app.startCall path world).world
        app.dispatch tree path world =
          (some (Response.new 404 (finish.body.getD "Not found".toList)), finish.world)) ∧
      ∀ found, app.resolve path = some found →
        let handler := app.handlerCall path found world
        let left := app.handlerRequest path found world
        let changes := (app.startCall path world).changes ++ handler.changes
        (∀ url, Change.last? (Change.redirect? app.routes.addresses) changes = some url →
          ∃ response, app.dispatch tree path world = (some response, handler.world) ∧
            response.status = 302 ∧ response.body = [] ∧ response.location = some url) ∧
        (Change.last? (Change.redirect? app.routes.addresses) changes = none →
          ∃ content,
            (handler.body = some content ∨ handler.body = none ∧
              app.renderPage tree
                { data := left.page.data
                  view := (Change.last? Change.view? handler.changes).getD (found.route.view.or
                    ((Change.last? Change.view? (app.startCall path world).changes).getD none))
                  layout := (Change.last? Change.layout? changes).getD app.layout
                  redirect := none } = .ok content) ∧
            let finish := app.finishCall path content left handler.world
            app.dispatch tree path world = (some (Response.new 200 (finish.body.getD content)), finish.world))) := by
  refine ⟨fun text returned => ?_, fun silent => ?_⟩
  · have called := succeeds.started
    rw [returned] at called
    have begun : Reaches tree app path world .fresh (Request.new path app.layout app.data) world := .fresh
    rw [dispatch, process, begun.path_eq, called]
    rfl
  · have called := succeeds.started
    rw [silent] at called
    have started : Reaches tree app path world .started (app.startRequest path world)
        (app.startCall path world).world := .started .fresh called
    refine ⟨fun missing => succeeds.dispatch_composed (started.unmatched missing), fun found resolved => ?_⟩
    have entered := started.entered resolved
    have handled := entered.handled (succeeds.handled entered)
    refine ⟨fun url pending => succeeds.dispatch_redirected handled (handlerRequest_redirect.trans pending),
      fun quiet => ?_⟩
    have unmoved := handlerRequest_redirect.trans quiet
    obtain ⟨content, source, composed⟩ := succeeds.reaches_composed handled unmoved
    refine ⟨content, source.imp_right fun rendered => ⟨rendered.1, ?_⟩, succeeds.dispatch_composed composed⟩
    rw [← handlerRequest_view, ← handlerRequest_layout, ← unmoved]
    exact rendered.2

/-- The start callback sets a view and a layout; the handler returns an empty text and sets another layout. -/
theorem dispatch_of_succeeds_page :
    let onStart : Callback Nat :=
      ⟨[], fun _ _ _ count => ⟨.ok none, [.setView "v", .setLayout "k"], count + 1⟩⟩
    let handler : Callback Nat := ⟨[], fun _ _ _ count => ⟨.ok (some []), [.setLayout "l"], count + 1⟩⟩
    let onFinish : Callback Nat := ⟨[.required "content"], fun _ _ _ count => ⟨.ok none, [], count + 1⟩⟩
    let route : Route (Callback Nat) := ⟨"a", .path (.literal "/a" .nil), none, some handler⟩
    let renderer : ViewRenderer := ⟨fun view _ => .ok view, fun layout content _ => .ok (layout ++ content)⟩
    let app : Application Nat :=
      { Application.withRenderer (.custom renderer) with
        routes := IndexedTable.empty.insert route, onStart := some onStart, onFinish := some onFinish }
    Succeeds FileTree.empty app "/a?q" 0 ∧
      app.dispatch FileTree.empty "/a?q" 0 = (some (Response.new 200 "lv"), 3) := by
  intro onStart handler onFinish route renderer app
  have succeeds : Succeeds FileTree.empty app "/a?q" 0 := by
    intro stop s w fails
    have stopped := fails.process_eq
    cases stopped
  obtain ⟨_, silent⟩ := dispatch_of_succeeds succeeds
  obtain ⟨_, routed⟩ := silent rfl
  obtain ⟨_, quiet⟩ := routed ⟨route, []⟩ rfl
  obtain ⟨content, source, answered⟩ := quiet rfl
  have page : content = "lv" := by
    rcases source with text | ⟨_, rendered⟩
    · cases text
    · exact (Except.ok.inj rendered).symm
  subst page
  exact ⟨succeeds, answered⟩

end RouteView.Application
