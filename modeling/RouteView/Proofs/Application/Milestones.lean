import RouteView.Application.Dispatch

/-!
# The stages of a request

A request passes milestones: it is new, its start callback let it go on, a route was entered, the handler was
called, the content was composed.  `Reaches` lists the steps from one milestone to the next, `Fails` the
steps that can fail, each after all steps before it went well, so that a failure is the first one, and `Answers` the
steps that give the response.  `Reaches.process_eq` says that answering a request goes on from every milestone that it
reaches, `process_eq_error` and `process_eq_ok` that it ends with exactly these failures and these answers.
-/
set_option autoImplicit false
namespace RouteView.Application
variable {ω : Type}

inductive Milestone (ω : Type)
  | fresh
  | started
  | entered (found : Resolved (Callback ω))
  /-- The handler, if there is one, returned a text or nothing. -/
  | handled (returned : Option Text)
  /-- The finish callback gets this content, and the response is made of its result. -/
  | composed (make : Text → Response) (content : Text)

section
variable (tree : FileTree) (app : Application ω) (path : Text) (world : ω)

/-- A request for the path, sent into the world, comes to a milestone in this state. -/
inductive Reaches : Milestone ω → Request → ω → Prop
  | fresh : Reaches .fresh (Request.new path app.layout app.data) world
  | started {s next : Request} {w later : ω} : Reaches .fresh s w →
      app.call app.onStart (startArguments path) s w = (.ok none, next, later) → Reaches .started next later
  | unmatched {s : Request} {w : ω} : Reaches .started s w → app.resolve path = none →
      Reaches (.composed Response.notFound notFoundBody) s w
  | entered {s : Request} {w : ω} {found : Resolved (Callback ω)} : Reaches .started s w →
      app.resolve path = some found → Reaches (.entered found) (enter found s) w
  | handled {s next : Request} {w later : ω} {found : Resolved (Callback ω)} {returned : Option Text} :
      Reaches (.entered found) s w →
      app.call found.route.handler (handlerArguments path found.captures) s w = (.ok returned, next, later) →
      Reaches (.handled returned) next later
  | returned {s : Request} {w : ω} {content : Text} : Reaches (.handled (some content)) s w →
      s.page.redirect = none → Reaches (.composed Response.ok content) s w
  | rendered {s : Request} {w : ω} {content : Text} : Reaches (.handled none) s w → s.page.redirect = none →
      app.renderPage tree s.page = .ok content → Reaches (.composed Response.ok content) s w

/-- The step after a milestone stops the request, and leaves it in this state. -/
inductive Fails : Stop → Request → ω → Prop
  | start {s next : Request} {w later : ω} {stop : Stop} : Reaches tree app path world .fresh s w →
      app.call app.onStart (startArguments path) s w = (.error stop, next, later) → Fails stop next later
  | handler {s next : Request} {w later : ω} {found : Resolved (Callback ω)} {stop : Stop} :
      Reaches tree app path world (.entered found) s w →
      app.call found.route.handler (handlerArguments path found.captures) s w = (.error stop, next, later) →
      Fails stop next later
  | location {s : Request} {w : ω} {returned : Option Text} {url : Text} {fault : Fault} :
      Reaches tree app path world (.handled returned) s w → s.page.redirect = some url →
      Response.redirect url = .error fault →
      Fails (.fault fault) { s with page := { s.page with redirect := none } } w
  | render {s : Request} {w : ω} {stop : Stop} : Reaches tree app path world (.handled none) s w →
      s.page.redirect = none → app.renderPage tree s.page = .error stop → Fails stop s w
  | finish {s next : Request} {w later : ω} {make : Text → Response} {content : Text} {stop : Stop} :
      Reaches tree app path world (.composed make content) s w →
      app.call app.onFinish (finishArguments path content) s w = (.error stop, next, later) → Fails stop next later

inductive Answers : Response → Request → ω → Prop
  | start {s next : Request} {w later : ω} {body : Text} : Reaches tree app path world .fresh s w →
      app.call app.onStart (startArguments path) s w = (.ok (some body), next, later) →
      Answers (Response.ok body) next later
  | redirect {s : Request} {w : ω} {returned : Option Text} {url : Text} {response : Response} :
      Reaches tree app path world (.handled returned) s w → s.page.redirect = some url →
      Response.redirect url = .ok response →
      Answers response { s with page := { s.page with redirect := none } } w
  | finish {s next : Request} {w later : ω} {make : Text → Response} {content : Text} {body : Option Text} :
      Reaches tree app path world (.composed make content) s w →
      app.call app.onFinish (finishArguments path content) s w = (.ok body, next, later) →
      Answers (make (body.getD content)) next later

def resume : Milestone ω → Request → ω → Stage ω Response
  | .fresh => app.process tree
  | .started => app.serve tree
  | .entered found => app.handle tree found
  | .handled returned => app.conclude tree returned
  | .composed make content => app.respond make content

end

section
variable {tree : FileTree} {app : Application ω} {path : Text} {world : ω}

theorem call_path {callback : Option (Callback ω)} {args : Arguments} {s next : Request} {w later : ω}
    {result : Evaluation (Option Text)} (h : app.call callback args s w = (result, next, later)) :
    next.path = s.path := by
  cases h
  rfl

section Conclude
variable {s : Request} {w : ω}

theorem conclude_redirect {returned : Option Text} {url : Text} (pending : s.page.redirect = some url) :
    app.conclude tree returned s w =
      ((Response.redirect url).evaluation, { s with page := { s.page with redirect := none } }, w) := by
  unfold conclude
  rw [pending]

theorem conclude_returned {content : Text} (quiet : s.page.redirect = none) :
    app.conclude tree (some content) s w = app.respond Response.ok content s w := by
  unfold conclude
  rw [quiet]

theorem conclude_rendered {content : Text} (quiet : s.page.redirect = none)
    (rendered : app.renderPage tree s.page = .ok content) :
    app.conclude tree none s w = app.respond Response.ok content s w := by
  unfold conclude
  rw [quiet, rendered]

theorem conclude_broken {stop : Stop} (quiet : s.page.redirect = none)
    (broken : app.renderPage tree s.page = .error stop) :
    app.conclude tree none s w = (.error stop, s, w) := by
  unfold conclude
  rw [quiet, broken]

end Conclude

theorem Reaches.path_eq {milestone : Milestone ω} {s : Request} {w : ω}
    (h : Reaches tree app path world milestone s w) : s.path = path := by
  induction h with
  | fresh => rfl
  | started _ called ih => exact (call_path called).trans ih
  | unmatched _ _ ih => exact ih
  | entered _ _ ih => exact ih
  | handled _ called ih => exact (call_path called).trans ih
  | returned _ _ ih => exact ih
  | rendered _ _ _ ih => exact ih

theorem Reaches.process_eq {milestone : Milestone ω} {s : Request} {w : ω}
    (h : Reaches tree app path world milestone s w) :
    app.process tree (Request.new path app.layout app.data) world = app.resume tree milestone s w := by
  induction h with
  | fresh => rfl
  | started reached called ih =>
      rw [ih, resume, process, reached.path_eq, called]
      rfl
  | unmatched reached missing ih =>
      rw [ih, resume, serve, reached.path_eq, missing]
      rfl
  | entered reached found ih =>
      rw [ih, resume, serve, reached.path_eq, found]
      rfl
  | handled reached called ih =>
      rw [ih, resume, handle, reached.path_eq, called]
      rfl
  | returned _ quiet ih =>
      rw [ih, resume, conclude_returned quiet]
      rfl
  | rendered _ quiet content ih =>
      rw [ih, resume, conclude_rendered quiet content]
      rfl

/-! ## Ends -/

theorem Fails.process_eq {stop : Stop} {s : Request} {w : ω} (h : Fails tree app path world stop s w) :
    app.process tree (Request.new path app.layout app.data) world = (.error stop, s, w) := by
  cases h with
  | start reached called => rw [reached.process_eq, resume, process, reached.path_eq, called]
  | handler reached called => rw [reached.process_eq, resume, handle, reached.path_eq, called]
  | location reached pending refused =>
      rw [reached.process_eq, resume, conclude_redirect pending, refused]
      rfl
  | render reached quiet broken => rw [reached.process_eq, resume, conclude_broken quiet broken]
  | finish reached called =>
      rw [reached.process_eq, resume, respond, Application.finish, reached.path_eq, called]
      rfl

theorem Answers.process_eq {response : Response} {s : Request} {w : ω}
    (h : Answers tree app path world response s w) :
    app.process tree (Request.new path app.layout app.data) world = (.ok response, s, w) := by
  cases h with
  | start reached called => rw [reached.process_eq, resume, process, reached.path_eq, called]
  | redirect reached pending allowed =>
      rw [reached.process_eq, resume, conclude_redirect pending, allowed]
      rfl
  | finish reached called =>
      rw [reached.process_eq, resume, respond, Application.finish, reached.path_eq, called]
      rfl

def Ends (tree : FileTree) (app : Application ω) (path : Text) (world : ω) : Stage ω Response → Prop
  | (.ok response, s, w) => Answers tree app path world response s w
  | (.error stop, s, w) => Fails tree app path world stop s w

section Ends
variable {s : Request} {w : ω}

theorem Reaches.ends_respond {make : Text → Response} {content : Text}
    (h : Reaches tree app path world (.composed make content) s w) :
    Ends tree app path world (app.respond make content s w) := by
  rw [respond, Application.finish, h.path_eq]
  cases called : app.call app.onFinish (finishArguments path content) s w with
  | mk result left =>
      cases result with
      | error stop => exact Fails.finish h called
      | ok body => exact Answers.finish h called

theorem Reaches.ends_conclude {returned : Option Text} (h : Reaches tree app path world (.handled returned) s w) :
    Ends tree app path world (app.conclude tree returned s w) := by
  cases pending : s.page.redirect with
  | some url =>
      rw [conclude_redirect pending]
      cases sent : Response.redirect url with
      | error fault => exact Fails.location h pending sent
      | ok response => exact Answers.redirect h pending sent
  | none =>
      cases returned with
      | some content =>
          rw [conclude_returned pending]
          exact (h.returned pending).ends_respond
      | none =>
          cases content : app.renderPage tree s.page with
          | error stop =>
              rw [conclude_broken pending content]
              exact Fails.render h pending content
          | ok text =>
              rw [conclude_rendered pending content]
              exact (h.rendered pending content).ends_respond

theorem Reaches.ends_handle {found : Resolved (Callback ω)} (h : Reaches tree app path world (.entered found) s w) :
    Ends tree app path world (app.handle tree found s w) := by
  rw [handle, h.path_eq]
  cases called : app.call found.route.handler (handlerArguments path found.captures) s w with
  | mk result left =>
      cases result with
      | error stop => exact Fails.handler h called
      | ok returned => exact (h.handled called).ends_conclude

theorem Reaches.ends_serve (h : Reaches tree app path world .started s w) :
    Ends tree app path world (app.serve tree s w) := by
  rw [serve, h.path_eq]
  cases found : app.resolve path with
  | none => exact (h.unmatched found).ends_respond
  | some route => exact (h.entered found).ends_handle

end Ends

theorem ends_process (tree : FileTree) (app : Application ω) (path : Text) (world : ω) :
    Ends tree app path world (app.process tree (Request.new path app.layout app.data) world) := by
  have begun : Reaches tree app path world .fresh (Request.new path app.layout app.data) world := .fresh
  rw [process, begun.path_eq]
  cases called : app.call app.onStart (startArguments path) (Request.new path app.layout app.data) world with
  | mk result left =>
      cases result with
      | error stop => exact Fails.start begun called
      | ok body =>
          cases body with
          | some text => exact Answers.start begun called
          | none => exact (begun.started called).ends_serve

/-- A request is stopped by the first of its steps that fails, and by nothing else. -/
theorem process_eq_error {stop : Stop} {s : Request} {w : ω} :
    app.process tree (Request.new path app.layout app.data) world = (.error stop, s, w) ↔
      Fails tree app path world stop s w := by
  refine ⟨fun stopped => ?_, Fails.process_eq⟩
  have ended := ends_process tree app path world
  rwa [stopped] at ended

theorem process_eq_ok {response : Response} {s : Request} {w : ω} :
    app.process tree (Request.new path app.layout app.data) world = (.ok response, s, w) ↔
      Answers tree app path world response s w := by
  refine ⟨fun answered => ?_, Answers.process_eq⟩
  have ended := ends_process tree app path world
  rwa [answered] at ended

end

end RouteView.Application
