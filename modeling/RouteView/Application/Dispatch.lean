import RouteView.Application.Basic
import RouteView.Response

/-!
# Answering a request

The start callback may answer a request by itself.  Otherwise the path is resolved; the route's view
becomes the view and its handler is called; then a redirect is sent if one was asked for, or the page is
rendered unless the handler returned a body; and the finish callback may replace the result.  The first
fault of all this goes to the error callback, whose body, or the fault's message, is the response.

Every step takes the request and the world and gives its result with both as it leaves them.
-/
set_option autoImplicit false
namespace RouteView.Application
variable {ω : Type}

/-- The outcome of a step, the request and the world after it. -/
abbrev Stage (ω α : Type) := Evaluation α × Request × ω

def notFoundBody : Text := "Not found"

def startArguments (path : Text) : Arguments := Arguments.ofDictionary [("path", .text path)]

/-- The captured texts by name, and the path unless a parameter of that name captured something. -/
def handlerArguments (path : Text) (captures : Captures) : Arguments := fun name =>
  match captures.lookup name with
  | some text => some (.text text)
  | none => if name = "path".toList then some (.text path) else none

def finishArguments (path content : Text) : Arguments :=
  Arguments.ofDictionary [("content", .text content), ("path", .text path)]

def errorArguments (path : Text) (fault : Fault) : Arguments :=
  Arguments.ofDictionary
    [("error", .text fault.message), ("path", .text path), ("status", .int fault.status)]

/-- What a callback does to a request; without a callback nothing happens. -/
def effect (app : Application ω) (callback : Option (Callback ω)) (args : Arguments) (s : Request)
    (world : ω) : Effect ω :=
  match callback with
  | none => ⟨.ok none, [], world⟩
  | some callback => callback.invoke (s.context app.routes.addresses) args s.page world

/-- A callback's fault, or the text that it returns unless that is empty. -/
def call (app : Application ω) (callback : Option (Callback ω)) (args : Arguments) (s : Request)
    (world : ω) : Stage ω (Option Text) :=
  let effect := app.effect callback args s world
  (Attempt.evaluation (effect.result.map fun _ => effect.body),
    s.after app.routes.addresses effect.changes, effect.world)

section Call
variable {app : Application ω} {callback : Option (Callback ω)} {args : Arguments} {s : Request} {world : ω}

theorem call_of_ok {returned : Option Text} (h : (app.effect callback args s world).result = .ok returned) :
    app.call callback args s world = (.ok (app.effect callback args s world).body,
      s.after app.routes.addresses (app.effect callback args s world).changes,
      (app.effect callback args s world).world) := by
  simp only [call, h]
  rfl

theorem call_of_error {fault : Fault} (h : (app.effect callback args s world).result = .error fault) :
    app.call callback args s world = (.error (.fault fault),
      s.after app.routes.addresses (app.effect callback args s world).changes,
      (app.effect callback args s world).world) := by
  simp only [call, h]
  rfl

end Call

/-- The text of the page: its view inside its layout, either of which may be absent. -/
def renderPage (tree : FileTree) (app : Application ω) (page : Page) : Evaluation Text := do
  let renderer := app.renderer.viewRenderer tree
  let content ← match page.view with
    | some view => renderer.render view page.data
    | none => .ok []
  match page.layout with
  | some layout => renderer.renderLayout layout content page.data
  | none => .ok content

/-- The content, or what the finish callback returns instead. -/
def finish (app : Application ω) (content : Text) (s : Request) (world : ω) : Stage ω Text :=
  match app.call app.onFinish (finishArguments s.path content) s world with
  | (result, s, world) => (result.map fun body => body.getD content, s, world)

def respond (app : Application ω) (make : Text → Response) (content : Text) (s : Request)
    (world : ω) : Stage ω Response :=
  match app.finish content s world with
  | (result, s, world) => (result.map make, s, world)

/-- The request with the view and the captures of the route that matched. -/
def enter (found : Resolved (Callback ω)) (s : Request) : Request :=
  { s with
    captures := found.captures
    page := { s.page with view := found.route.view.or s.page.view } }

/-- What follows the handler, `returned` being its body. -/
def conclude (tree : FileTree) (app : Application ω) (returned : Option Text) (s : Request)
    (world : ω) : Stage ω Response :=
  match s.page.redirect with
  | some url => ((Response.redirect url).evaluation, { s with page := { s.page with redirect := none } }, world)
  | none =>
      match returned with
      | some body => app.respond Response.ok body s world
      | none =>
          match app.renderPage tree s.page with
          | .error stop => (.error stop, s, world)
          | .ok content => app.respond Response.ok content s world

/-- The handler of the route that matched, and what follows. -/
def handle (tree : FileTree) (app : Application ω) (found : Resolved (Callback ω)) (s : Request)
    (world : ω) : Stage ω Response :=
  match app.call found.route.handler (handlerArguments s.path found.captures) s world with
  | (.error stop, s, world) => (.error stop, s, world)
  | (.ok returned, s, world) => app.conclude tree returned s world

/-- What follows the start callback. -/
def serve (tree : FileTree) (app : Application ω) (s : Request) (world : ω) : Stage ω Response :=
  match app.resolve s.path with
  | none => app.respond Response.notFound notFoundBody s world
  | some found => app.handle tree found (enter found s) world

/-- A request up to its response or its first failure. -/
def process (tree : FileTree) (app : Application ω) (s : Request) (world : ω) : Stage ω Response :=
  match app.call app.onStart (startArguments s.path) s world with
  | (.error stop, s, world) => (.error stop, s, world)
  | (.ok (some body), s, world) => (.ok (Response.ok body), s, world)
  | (.ok none, s, world) => app.serve tree s world

def report (app : Application ω) (fault : Fault) (s : Request) (world : ω) : Response × ω :=
  match app.call app.onError (errorArguments s.path fault) s world with
  | (result, _, world) =>
      let body := match result with
        | .ok (some body) => body
        | _ => fault.message
      (Response.new fault.status body, world)

theorem report_eq (app : Application ω) (fault : Fault) (s : Request) (world : ω) :
    app.report fault s world =
      (Response.new fault.status
          ((app.effect app.onError (errorArguments s.path fault) s world).body.getD fault.message),
        (app.effect app.onError (errorArguments s.path fault) s world).world) := by
  rw [report]
  cases result : (app.effect app.onError (errorArguments s.path fault) s world).result with
  | error other =>
      rw [call_of_error result]
      simp [Effect.body, result]
  | ok returned =>
      rw [call_of_ok result]
      cases (app.effect app.onError (errorArguments s.path fault) s world).body with
      | none => rfl
      | some text => rfl

/-- The response to a path and the world after it; no response when the request aborts. -/
def dispatch (tree : FileTree) (app : Application ω) (path : Text) (world : ω) : Option Response × ω :=
  match app.process tree (Request.new path app.layout app.data) world with
  | (.ok response, _, world) => (some response, world)
  | (.error .abort, _, world) => (none, world)
  | (.error (.fault fault), s, world) =>
      let (response, world) := app.report fault s world
      (some response, world)

end RouteView.Application
