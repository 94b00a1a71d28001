import RouteView.Proofs.Application.Failure
import RouteView.Proofs.Application.Outcome

/-!
# The order of the callbacks

A request calls at most one function of each kind: the start callback's, the handler's, the finish callback's, the
error callback's, in this order.  `noting` is the same application with callbacks that note each call of their
functions; the notes change nothing (`call_noting`), and `dispatch_noting` says exactly when there is one.
-/
set_option autoImplicit false
namespace RouteView

inductive Called (ω : Type)
  | start
  | handler (route : Route (Callback ω))
  | finish
  | failure

def Callback.noting {ω : Type} (event : Called ω) (callback : Callback ω) : Callback (ω × List (Called ω)) where
  signature := callback.signature
  run ctx bound page world :=
    let effect := callback.run ctx bound page world.1
    ⟨effect.result, effect.changes, effect.world, world.2 ++ [event]⟩

section MapHandler
variable {η θ : Type} (f : Route η → η → θ)

def Route.mapHandler (route : Route η) : Route θ :=
  ⟨route.name, route.pattern, route.view, route.handler.map (f route)⟩

def Resolved.mapHandler (found : Resolved η) : Resolved θ := ⟨found.route.mapHandler f, found.captures⟩

def IndexedTable.mapHandler (table : IndexedTable η) : IndexedTable θ :=
  ⟨table.table.map (Route.mapHandler f), table.positions, by
    simpa [RouteTable.names, Function.comp_def, Route.mapHandler] using table.located⟩

theorem IndexedTable.addresses_mapHandler (table : IndexedTable η) :
    (table.mapHandler f).addresses = table.addresses := by
  simp only [addresses, mapHandler, List.map_map]
  rfl

theorem IndexedTable.resolve_mapHandler (table : IndexedTable η) (path : Text) :
    (table.mapHandler f).resolve path = (table.resolve path).map (Resolved.mapHandler f) := by
  simp only [resolve, RouteTable.resolve, mapHandler]
  induction table.table with
  | nil => rfl
  | cons route rest ih =>
      rw [List.map_cons, RouteTable.firstMatch, RouteTable.firstMatch, ih]
      cases matched : route.pattern.captures? (withoutQuery path) with
      | none => simp [Route.mapHandler, matched]
      | some captures => simp [Route.mapHandler, Resolved.mapHandler, matched]

end MapHandler

namespace Application
variable {ω : Type}

def noting (app : Application ω) : Application (ω × List (Called ω)) where
  routes := app.routes.mapHandler fun route => Callback.noting (.handler route)
  renderer := app.renderer
  onStart := app.onStart.map (Callback.noting .start)
  onFinish := app.onFinish.map (Callback.noting .finish)
  onError := app.onError.map (Callback.noting .failure)
  layout := app.layout
  data := app.data

/-- The callback is set and gets a value for each of its parameters. -/
def Accepts (callback : Option (Callback ω)) (args : Arguments) : Prop :=
  ∃ given bound, callback = some given ∧ given.signature.bind args = .ok bound

/-- The start callback is not set, or returned nothing or an empty text. -/
def LetsOn (app : Application ω) (path : Text) (world : ω) : Prop :=
  (app.startCall path world).result = .ok none ∨ (app.startCall path world).result = .ok (some [])

/-- After a handler with this text, which left this page, no redirect is pending, and the content is the text or else
the page, which could be rendered. -/
def Yields (tree : FileTree) (app : Application ω) (body : Option Text) (page : Page) (content : Text) : Prop :=
  page.redirect = none ∧ (body = some content ∨ body = none ∧ app.renderPage tree page = .ok content)

/-- A request that the start callback let go on comes to this content: that for want of a route, or else that of the
matched route, whose handler succeeded. -/
def Serves (tree : FileTree) (app : Application ω) (path : Text) (world : ω) (content : Text) : Prop :=
  app.resolve path = none ∧ content = notFoundBody ∨
    ∃ found, app.resolve path = some found ∧ (∃ returned, (app.handlerCall path found world).result = .ok returned) ∧
      app.Yields tree (app.handlerCall path found world).body (app.handlerRequest path found world).page content

def Once (event : Called ω) (condition : Prop) (log : List (Called ω)) : Prop :=
  condition ∧ log = [event] ∨ ¬ condition ∧ log = []

theorem once_none {event : Called ω} {condition : Prop} (h : ¬ condition) : Once event condition [] := Or.inr ⟨h, rfl⟩

theorem Once.congr {event : Called ω} {condition other : Prop} {log : List (Called ω)}
    (h : Once event condition log) (same : condition ↔ other) : Once event other log := by
  rwa [Once, ← same]

def withLog {α : Type} (stage : Stage ω α) (log : List (Called ω)) : Stage (ω × List (Called ω)) α :=
  (stage.1, stage.2.1, stage.2.2, log)

section
variable {tree : FileTree} {app : Application ω}

/-! ## One call -/

theorem call_noting (app : Application ω) (event : Called ω) (callback : Option (Callback ω)) (args : Arguments) :
    ∃ noted, Once event (Accepts callback args) noted ∧ ∀ s w log,
      app.noting.call (callback.map (Callback.noting event)) args s (w, log) =
        withLog (app.call callback args s w) (log ++ noted) := by
  have routes : app.noting.routes.addresses = app.routes.addresses := IndexedTable.addresses_mapHandler ..
  cases callback with
  | none =>
      have unset : ¬ Accepts (none : Option (Callback ω)) args := by
        rintro ⟨_, _, given, _⟩
        cases given
      refine ⟨[], once_none unset, fun s w log => ?_⟩
      simp only [call, effect, Option.map_none, withLog, routes, List.append_nil]
      rfl
  | some given =>
      cases bound : given.signature.bind args with
      | error fault =>
          have refused : ¬ Accepts (some given) args := by
            rintro ⟨_, values, same, accepted⟩
            cases same
            rw [bound] at accepted
            cases accepted
          refine ⟨[], once_none refused, fun s w log => ?_⟩
          simp only [call, effect, Option.map_some, Callback.invoke, Callback.noting, bound, withLog, routes,
            List.append_nil]
          rfl
      | ok values =>
          refine ⟨[event], Or.inl ⟨⟨given, values, rfl, bound⟩, rfl⟩, fun s w log => ?_⟩
          simp only [call, effect, Option.map_some, Callback.invoke, Callback.noting, bound, withLog, routes]
          rfl

/-! ## The stages of a request -/

theorem respond_noting (app : Application ω) (make : Text → Response) (content : Text) (s : Request) (w : ω) :
    ∃ noted, Once .finish (Accepts app.onFinish (finishArguments s.path content)) noted ∧ ∀ log,
      app.noting.respond make content s (w, log) = withLog (app.respond make content s w) (log ++ noted) := by
  obtain ⟨noted, once, called⟩ := call_noting app .finish app.onFinish (finishArguments s.path content)
  refine ⟨noted, once, fun log => ?_⟩
  have step := called s w log
  rw [respond, finish, respond, finish]
  change app.noting.call app.noting.onFinish _ _ _ = _ at step
  rw [step]
  rfl

theorem Yields.unique {body : Option Text} {page : Page} {content other : Text}
    (h : app.Yields tree body page content) (again : app.Yields tree body page other) : content = other := by
  rcases h.2 with text | ⟨silent, rendered⟩
  · rcases again.2 with same | ⟨silent, _⟩
    · exact Option.some.inj (text.symm.trans same)
    · cases text.symm.trans silent
  · rcases again.2 with text | ⟨_, same⟩
    · cases text.symm.trans silent
    · exact Except.ok.inj (rendered.symm.trans same)

theorem Yields.conclude_eq {body : Option Text} {s : Request} {w : ω} {content : Text}
    (h : app.Yields tree body s.page content) :
    app.conclude tree body s w = app.respond Response.ok content s w := by
  rcases h with ⟨quiet, rfl | ⟨rfl, rendered⟩⟩
  · exact conclude_returned quiet
  · exact conclude_rendered quiet rendered

theorem conclude_noting_of_not_yields {body : Option Text} {s : Request} {w : ω} {log : List (Called ω)}
    (h : ∀ content, ¬ app.Yields tree body s.page content) :
    app.noting.conclude tree body s (w, log) = withLog (app.conclude tree body s w) log := by
  cases pending : s.page.redirect with
  | some url =>
      rw [conclude_redirect pending, conclude_redirect pending]
      rfl
  | none =>
      cases body with
      | some content => exact absurd ⟨pending, Or.inl rfl⟩ (h content)
      | none =>
          cases rendered : app.renderPage tree s.page with
          | ok content => exact absurd ⟨pending, Or.inr ⟨rfl, rendered⟩⟩ (h content)
          | error stop =>
              have broken : app.noting.renderPage tree s.page = .error stop := rendered
              rw [conclude_broken pending broken, conclude_broken pending rendered]
              rfl

theorem conclude_noting (tree : FileTree) (app : Application ω) (body : Option Text) (s : Request) (w : ω) :
    ∃ noted, Once .finish
        (∃ content, app.Yields tree body s.page content ∧ Accepts app.onFinish (finishArguments s.path content))
        noted ∧
      ∀ log, app.noting.conclude tree body s (w, log) = withLog (app.conclude tree body s w) (log ++ noted) := by
  by_cases yields : ∃ content, app.Yields tree body s.page content
  · obtain ⟨content, yields⟩ := yields
    have noting_yields : app.noting.Yields tree body s.page content := yields
    obtain ⟨noted, once, responded⟩ := respond_noting app Response.ok content s w
    refine ⟨noted, once.congr ⟨fun accepts => ⟨content, yields, accepts⟩, ?_⟩, fun log => ?_⟩
    · rintro ⟨other, again, accepts⟩
      rwa [yields.unique again]
    · rw [noting_yields.conclude_eq, yields.conclude_eq, responded]
  · have unfinished : ¬ ∃ content, app.Yields tree body s.page content ∧
        Accepts app.onFinish (finishArguments s.path content) := by
      rintro ⟨content, found, _⟩
      exact yields ⟨content, found⟩
    refine ⟨[], once_none unfinished, fun log => ?_⟩
    rw [conclude_noting_of_not_yields fun content found => yields ⟨content, found⟩, List.append_nil]

theorem handle_noting (tree : FileTree) (app : Application ω) (found : Resolved (Callback ω)) {s : Request} {w : ω}
    {effect : Effect ω}
    (h : app.effect found.route.handler (handlerArguments s.path found.captures) s w = effect) :
    ∃ handled finished,
      Once (.handler found.route) (Accepts found.route.handler (handlerArguments s.path found.captures)) handled ∧
      Once .finish
        (∃ content, (∃ returned, effect.result = .ok returned) ∧
          app.Yields tree effect.body (s.after app.routes.addresses effect.changes).page content ∧
          Accepts app.onFinish (finishArguments s.path content)) finished ∧
      ∀ log, app.noting.handle tree (found.mapHandler fun route => Callback.noting (.handler route)) s (w, log) =
        withLog (app.handle tree found s w) (log ++ (handled ++ finished)) := by
  obtain ⟨handled, once, called⟩ :=
    call_noting app (.handler found.route) found.route.handler (handlerArguments s.path found.captures)
  subst h
  cases result : (app.effect found.route.handler (handlerArguments s.path found.captures) s w).result with
  | error fault =>
      refine ⟨handled, [], once, once_none ?_, fun log => ?_⟩
      · rintro ⟨content, ⟨returned, succeeded⟩, _⟩
        cases succeeded
      · have step := called s w log
        rw [call_of_error result] at step
        simp only [handle, Resolved.mapHandler, Route.mapHandler, step, call_of_error result, withLog,
          List.append_nil]
  | ok returned =>
      obtain ⟨finished, last, concluded⟩ := conclude_noting tree app
        (app.effect found.route.handler (handlerArguments s.path found.captures) s w).body
        (s.after app.routes.addresses
          (app.effect found.route.handler (handlerArguments s.path found.captures) s w).changes)
        (app.effect found.route.handler (handlerArguments s.path found.captures) s w).world
      refine ⟨handled, finished, once, last.congr ⟨?_, ?_⟩, fun log => ?_⟩
      · rintro ⟨content, yields, accepts⟩
        exact ⟨content, ⟨returned, rfl⟩, yields, accepts⟩
      · rintro ⟨content, _, yields, accepts⟩
        exact ⟨content, yields, accepts⟩
      · have step := called s w log
        rw [call_of_ok result] at step
        simp only [handle, Resolved.mapHandler, Route.mapHandler, step, call_of_ok result, withLog]
        rw [concluded, List.append_assoc]
        rfl

theorem serve_noting (tree : FileTree) (app : Application ω) (path : Text) (world : ω) :
    ∃ handled finished,
      (app.resolve path = none → handled = []) ∧
      (∀ found, app.resolve path = some found → Once (.handler found.route)
        (Accepts found.route.handler (handlerArguments path found.captures)) handled) ∧
      Once .finish
        (∃ content, app.Serves tree path world content ∧ Accepts app.onFinish (finishArguments path content))
        finished ∧
      ∀ log, app.noting.serve tree (app.startRequest path world) ((app.startCall path world).world, log) =
        withLog (app.serve tree (app.startRequest path world) (app.startCall path world).world)
          (log ++ (handled ++ finished)) := by
  have resolved : app.noting.resolve path = (app.resolve path).map
      (Resolved.mapHandler fun route => Callback.noting (.handler route)) := IndexedTable.resolve_mapHandler ..
  have path_eq : (app.startRequest path world).path = path := rfl
  cases found : app.resolve path with
  | none =>
      obtain ⟨finished, once, responded⟩ := respond_noting app Response.notFound notFoundBody
        (app.startRequest path world) (app.startCall path world).world
      refine ⟨[], finished, fun _ => rfl, ?_, once.congr ⟨?_, ?_⟩, fun log => ?_⟩
      · rintro other ⟨⟩
      · intro accepts
        exact ⟨notFoundBody, Or.inl ⟨found, rfl⟩, accepts⟩
      · rintro ⟨content, ⟨_, rfl⟩ | ⟨other, matched, _⟩, accepts⟩
        · exact accepts
        · cases found.symm.trans matched
      · rw [found, Option.map_none] at resolved
        rw [serve, serve, path_eq, found, resolved]
        exact responded log
  | some route =>
      have called : app.effect route.route.handler (handlerArguments path route.captures)
          (enter route (app.startRequest path world)) (app.startCall path world).world =
        app.handlerCall path route world := rfl
      obtain ⟨handled, finished, first, last, handling⟩ := handle_noting tree app route called
      refine ⟨handled, finished, ?_, ?_, last.congr ⟨?_, ?_⟩, fun log => ?_⟩
      · rintro ⟨⟩
      · rintro _ ⟨⟩
        exact first
      · rintro ⟨content, succeeded, yields, accepts⟩
        exact ⟨content, Or.inr ⟨route, found, succeeded, yields⟩, accepts⟩
      · rintro ⟨content, ⟨missing, _⟩ | ⟨other, matched, succeeded, yields⟩, accepts⟩
        · cases found.symm.trans missing
        · cases found.symm.trans matched
          exact ⟨content, succeeded, yields, accepts⟩
      · rw [found, Option.map_some] at resolved
        rw [serve, serve, path_eq, found, resolved]
        exact handling log

theorem LetsOn.call_eq {path : Text} {world : ω} (h : app.LetsOn path world) :
    app.call app.onStart (startArguments path) (Request.new path app.layout app.data) world =
      (.ok none, app.startRequest path world, (app.startCall path world).world) := by
  rcases h with result | result
  · have silent : (app.startCall path world).body = none := by rw [Effect.body, result]
    exact (call_of_ok result).trans (silent ▸ rfl)
  · have silent : (app.startCall path world).body = none := by simp [Effect.body, result]
    exact (call_of_ok result).trans (silent ▸ rfl)

theorem LetsOn.reaches {path : Text} {world : ω} (h : app.LetsOn path world) (tree : FileTree) :
    Reaches tree app path world .started (app.startRequest path world) (app.startCall path world).world :=
  .started .fresh h.call_eq

theorem letsOn_of_call_eq {path : Text} {world : ω} {left : Request × ω}
    (h : app.call app.onStart (startArguments path) (Request.new path app.layout app.data) world = (.ok none, left)) :
    app.LetsOn path world := by
  cases result : (app.startCall path world).result with
  | error fault => cases (call_of_error result).symm.trans h
  | ok returned =>
      have silent : (app.startCall path world).body = none :=
        Except.ok.inj (congrArg Prod.fst ((call_of_ok result).symm.trans h))
      cases returned with
      | none => exact Or.inl result
      | some text =>
          by_cases empty : text = []
          · exact Or.inr (empty ▸ result)
          · cases silent.symm.trans (Effect.body_eq_some.mpr ⟨result, empty⟩)

theorem process_noting (tree : FileTree) (app : Application ω) (path : Text) (world : ω) :
    ∃ begun handled finished,
      Once .start (Accepts app.onStart (startArguments path)) begun ∧
      (app.resolve path = none → handled = []) ∧
      (∀ found, app.resolve path = some found → Once (.handler found.route)
        (app.LetsOn path world ∧ Accepts found.route.handler (handlerArguments path found.captures)) handled) ∧
      Once .finish
        (∃ content, app.LetsOn path world ∧ app.Serves tree path world content ∧
          Accepts app.onFinish (finishArguments path content)) finished ∧
      app.noting.process tree (Request.new path app.layout app.data) (world, []) =
        withLog (app.process tree (Request.new path app.layout app.data) world) (begun ++ handled ++ finished) := by
  obtain ⟨begun, once, called⟩ := call_noting app .start app.onStart (startArguments path)
  have step := called (Request.new path app.layout app.data) world []
  rw [List.nil_append] at step
  have path_eq : (Request.new path app.layout app.data).path = path := rfl
  have start : app.noting.onStart = app.onStart.map (Callback.noting .start) := rfl
  by_cases letsOn : app.LetsOn path world
  · obtain ⟨handled, finished, unmatched, first, last, serving⟩ := serve_noting tree app path world
    refine ⟨begun, handled, finished, once, unmatched, fun found matched => ?_, last.congr ⟨?_, ?_⟩, ?_⟩
    · exact (first found matched).congr ⟨fun accepts => ⟨letsOn, accepts⟩, And.right⟩
    · rintro ⟨content, serves, accepts⟩
      exact ⟨content, letsOn, serves, accepts⟩
    · rintro ⟨content, _, serves, accepts⟩
      exact ⟨content, serves, accepts⟩
    · rw [letsOn.call_eq] at step
      rw [process, process, path_eq, start, step, letsOn.call_eq, List.append_assoc]
      exact serving begun
  · have unserved : ¬ ∃ content, app.LetsOn path world ∧ app.Serves tree path world content ∧
        Accepts app.onFinish (finishArguments path content) := by
      rintro ⟨_, h, _⟩
      exact letsOn h
    refine ⟨begun, [], [], once, fun _ => rfl, fun found _ => once_none fun h => letsOn h.1, once_none unserved, ?_⟩
    rw [process, process, path_eq, start, step, List.append_nil, List.append_nil]
    cases ended : app.call app.onStart (startArguments path) (Request.new path app.layout app.data) world with
    | mk result left =>
        cases result with
        | error stop => rfl
        | ok body =>
            cases body with
            | some text => rfl
            | none => exact absurd (letsOn_of_call_eq ended) letsOn

theorem report_noting (app : Application ω) (fault : Fault) (s : Request) (w : ω) :
    ∃ failed, Once .failure (Accepts app.onError (errorArguments s.path fault)) failed ∧ ∀ log,
      app.noting.report fault s (w, log) =
        ((app.report fault s w).1, (app.report fault s w).2, log ++ failed) := by
  obtain ⟨failed, once, called⟩ := call_noting app .failure app.onError (errorArguments s.path fault)
  refine ⟨failed, once, fun log => ?_⟩
  have step := called s w log
  change app.noting.call app.noting.onError _ _ _ = _ at step
  rw [report, report, step]
  rfl

/-! ## Every request -/

/-- The calls of a request, in their order, and when there is each. -/
theorem dispatch_noting (tree : FileTree) (app : Application ω) (path : Text) (world : ω) :
    ∃ begun handled finished failed,
      app.noting.dispatch tree path (world, []) =
        ((app.dispatch tree path world).1, (app.dispatch tree path world).2, begun ++ handled ++ finished ++ failed) ∧
      Once .start (Accepts app.onStart (startArguments path)) begun ∧
      (app.resolve path = none → handled = []) ∧
      (∀ found, app.resolve path = some found → Once (.handler found.route)
        (app.LetsOn path world ∧ Accepts found.route.handler (handlerArguments path found.captures)) handled) ∧
      Once .finish
        (∃ content, app.LetsOn path world ∧ app.Serves tree path world content ∧
          Accepts app.onFinish (finishArguments path content)) finished ∧
      Once .failure
        (∃ fault s w, Fails tree app path world (.fault fault) s w ∧
          Accepts app.onError (errorArguments path fault)) failed := by
  obtain ⟨begun, handled, finished, first, unmatched, second, third, processed⟩ := process_noting tree app path world
  change app.noting.process tree (Request.new path app.noting.layout app.noting.data) _ = _ at processed
  rw [dispatch, processed]
  cases answered : app.process tree (Request.new path app.layout app.data) world with
  | mk result left =>
      obtain ⟨s, w⟩ := left
      cases result with
      | ok response =>
          refine ⟨begun, handled, finished, [], ?_, first, unmatched, second, third, once_none ?_⟩
          · rw [dispatch, answered, List.append_nil]
            rfl
          · rintro ⟨fault, s, w, fails, _⟩
            cases answered.symm.trans fails.process_eq
      | error stop =>
          cases stop with
          | abort =>
              refine ⟨begun, handled, finished, [], ?_, first, unmatched, second, third, once_none ?_⟩
              · rw [dispatch, answered, List.append_nil]
                rfl
              · rintro ⟨fault, s, w, fails, _⟩
                cases answered.symm.trans fails.process_eq
          | fault fault =>
              have stopped : Fails tree app path world (.fault fault) s w := process_eq_error.mp answered
              obtain ⟨failed, fourth, reported⟩ := report_noting app fault s w
              rw [stopped.path_eq] at fourth
              refine ⟨begun, handled, finished, failed, ?_, first, unmatched, second, third, fourth.congr ⟨?_, ?_⟩⟩
              · rw [dispatch, answered]
                simp only [withLog, reported]
              · exact fun accepts => ⟨fault, s, w, stopped, accepts⟩
              · rintro ⟨other, s, w, fails, accepts⟩
                cases answered.symm.trans fails.process_eq
                exact accepts

/-- The handler asks for a redirect to nowhere: the finish callback is not called, the error callback is. -/
example :
    let silent : Callback Unit := ⟨[], fun _ _ _ _ => ⟨.ok none, [], ()⟩⟩
    let handler : Callback Unit := ⟨[], fun _ _ _ _ => ⟨.ok none, [.redirectTo "\n"], ()⟩⟩
    let route : Route (Callback Unit) := ⟨"a", .path (.literal "/a" .nil), none, some handler⟩
    let app : Application Unit :=
      { (new : Application Unit) with
        routes := IndexedTable.empty.insert route
        onStart := some silent, onFinish := some silent, onError := some silent }
    (app.noting.dispatch FileTree.empty "/a" ((), [])).2.2 = [.start, .handler route, .failure] := by
  rfl

end
end Application
end RouteView
