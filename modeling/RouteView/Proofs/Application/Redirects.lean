import RouteView.Proofs.Application.Calls
import RouteView.Proofs.RouteTable.Refinement

/-!
# Redirects

A redirect is pending when a matched route has been handled and the last of the addresses that its callbacks asked
for still stands.  `dispatch_redirects` says that a response leads elsewhere exactly when the pending address is
printable, and then leads to this address and nowhere else; any other character ends the request with a fault.  An
address of a named route is what the route table builds.
-/
set_option autoImplicit false
namespace RouteView

theorem Fault.status_eq (fault : Fault) : fault.status = 404 ∨ fault.status = 500 := by
  cases fault with
  | templateMissing => exact Or.inl rfl
  | _ => exact Or.inr rfl

theorem isLocationChar_iff {c : Char} : isLocationChar c = true ↔ c = '\t' ∨ ' ' ≤ c ∧ c ≤ '~' := by
  have low : ' ' ≤ c ↔ 0x20 ≤ c.toNat := UInt32.le_iff_toNat_le
  have high : c ≤ '~' ↔ c.toNat ≤ 0x7E := UInt32.le_iff_toNat_le
  rw [isLocationChar, low, high]
  simp

def Text.Printable (url : Text) : Prop := ∀ c ∈ url, c = '\t' ∨ ' ' ≤ c ∧ c ≤ '~'

theorem all_isLocationChar_iff {url : Text} : url.all isLocationChar = true ↔ url.Printable := by
  simp only [List.all_eq_true, isLocationChar_iff, Text.Printable]

namespace Response

theorem redirect_of_printable {url : Text} (h : url.Printable) :
    redirect url = .ok { new 302 [] with headers := [(locationName, url)] } := by
  rw [redirect, if_pos (all_isLocationChar_iff.mpr h)]

theorem redirect_of_not_printable {url : Text} (h : ¬ url.Printable) :
    redirect url = .error (.internal ("Redirect location '" ++ url ++ "' is not a valid header value")) := by
  rw [redirect, if_neg fun all => h (all_isLocationChar_iff.mp all)]

theorem location_of_headers {r : Response} {url : Text} (h : url.Printable) (only : r.headers = [(locationName, url)]) :
    r.location = some url := by
  rw [location, only, Headers.get?, List.lookup_cons_self, Option.filter_some, if_pos (all_isLocationChar_iff.mpr h)]

def Moves (r : Response) : Prop := (r.headers.get? locationName).isSome = true ∨ 300 ≤ r.status ∧ r.status < 400

theorem not_moves_new {status : Nat} (h : ¬ (300 ≤ status ∧ status < 400)) (body : Text) :
    ¬ (new status body).Moves := by
  rintro (location | code)
  · cases location
  · exact h code

end Response

namespace Application
variable {ω : Type} {tree : FileTree} {app : Application ω} {path : Text} {world : ω}

/-- The start callback let the request go on, a route matched and its handler, if it has one, succeeded; after it a
redirect to this address is pending. -/
def Pending (app : Application ω) (path : Text) (world : ω) (url : Text) : Prop :=
  app.LetsOn path world ∧ ∃ found, app.resolve path = some found ∧
    (∃ returned, (app.handlerCall path found world).result = .ok returned) ∧
    (app.handlerRequest path found world).page.redirect = some url

/-! ## Handled requests -/

theorem reaches_started {s : Request} {w : ω} (h : Reaches tree app path world .started s w) :
    app.LetsOn path world ∧ s = app.startRequest path world ∧ w = (app.startCall path world).world := by
  cases h with
  | started new called =>
      cases new
      have letsOn := letsOn_of_call_eq called
      rw [letsOn.call_eq] at called
      cases called
      exact ⟨letsOn, rfl, rfl⟩

theorem reaches_handled {s : Request} {w : ω} {returned : Option Text}
    (h : Reaches tree app path world (.handled returned) s w) :
    app.LetsOn path world ∧ ∃ found, app.resolve path = some found ∧
      (∃ body, (app.handlerCall path found world).result = .ok body) ∧ s = app.handlerRequest path found world := by
  cases h with
  | @handled _ _ _ _ found _ entered called =>
      cases entered with
      | entered started resolved =>
          obtain ⟨letsOn, rfl, rfl⟩ := reaches_started started
          refine ⟨letsOn, found, resolved, ?_⟩
          cases result : (app.handlerCall path found world).result with
          | error fault => cases (call_of_error result).symm.trans called
          | ok body =>
              cases (call_of_ok result).symm.trans called
              exact ⟨⟨body, rfl⟩, rfl⟩

theorem Pending.reaches {url : Text} (h : app.Pending path world url) (tree : FileTree) :
    ∃ returned s w, Reaches tree app path world (.handled returned) s w ∧ s.page.redirect = some url := by
  obtain ⟨letsOn, found, resolved, ⟨returned, result⟩, pending⟩ := h
  have entered := (letsOn.reaches tree).entered resolved
  exact ⟨_, _, _, entered.handled (call_of_ok result), pending⟩

/-! ## Answers that lead elsewhere -/

theorem Reaches.make_eq {make : Text → Response} {content : Text} {s : Request} {w : ω}
    (h : Reaches tree app path world (.composed make content) s w) :
    make = Response.ok ∨ make = Response.notFound := by
  cases h with
  | unmatched => exact Or.inr rfl
  | returned => exact Or.inl rfl
  | rendered => exact Or.inl rfl

theorem Answers.pending_of_moves {response : Response} {s : Request} {w : ω}
    (h : Answers tree app path world response s w) (moves : response.Moves) :
    ∃ url, app.Pending path world url ∧ url.Printable := by
  cases h with
  | start _ _ => exact absurd moves (Response.not_moves_new (by decide) _)
  | finish composed _ =>
      rcases composed.make_eq with rfl | rfl
      · exact absurd moves (Response.not_moves_new (by decide) _)
      · exact absurd moves (Response.not_moves_new (by decide) _)
  | @redirect _ _ _ url _ handled pending sent =>
      obtain ⟨letsOn, found, resolved, succeeded, rfl⟩ := reaches_handled handled
      refine ⟨url, ⟨letsOn, found, resolved, succeeded, pending⟩, ?_⟩
      by_contra odd
      rw [Response.redirect_of_not_printable odd] at sent
      cases sent

/-- A response comes from an answer, or reports a failure. -/
theorem dispatch_cases {response : Response} (h : (app.dispatch tree path world).1 = some response) :
    (∃ s w, Answers tree app path world response s w) ∨
      ∃ (fault : Fault) (body : Text), response = Response.new fault.status body := by
  cases ended : app.process tree (Request.new path app.layout app.data) world with
  | mk result left =>
      cases result with
      | ok answer =>
          rw [dispatch, ended] at h
          cases h
          exact Or.inl ⟨left.1, left.2, process_eq_ok.mp ended⟩
      | error stop =>
          cases stop with
          | abort =>
              rw [dispatch, ended] at h
              cases h
          | fault fault =>
              rw [(process_eq_error.mp ended).dispatch_eq] at h
              cases h
              exact Or.inr ⟨fault, _, rfl⟩

theorem not_moves_report (fault : Fault) (body : Text) : ¬ (Response.new fault.status body).Moves := by
  refine Response.not_moves_new ?_ body
  rcases fault.status_eq with status | status
  · rw [status]
    decide
  · rw [status]
    decide

theorem Pending.dispatch_printable {url : Text} (h : app.Pending path world url) (tree : FileTree)
    (printable : url.Printable) : ∃ response after, app.dispatch tree path world = (some response, after) ∧
      response.status = 302 ∧ response.body = [] ∧ response.headers = [(Response.locationName, url)] ∧
      response.location = some url := by
  obtain ⟨returned, s, w, handled, pending⟩ := h.reaches tree
  have sent := Response.redirect_of_printable printable
  have answers := Answers.redirect handled pending sent
  refine ⟨{ Response.new 302 [] with headers := [(Response.locationName, url)] }, w, ?_, rfl, rfl, rfl,
    Response.location_of_headers printable rfl⟩
  rw [dispatch, answers.process_eq]

theorem Pending.last?_eq {url : Text} (h : app.Pending path world url) {found : Resolved (Callback ω)}
    (resolved : app.resolve path = some found) :
    Change.last? (Change.redirect? app.routes.addresses)
      ((app.startCall path world).changes ++ (app.handlerCall path found world).changes) = some url := by
  obtain ⟨_, other, again, _, pending⟩ := h
  cases resolved.symm.trans again
  exact handlerRequest_redirect.symm.trans pending

/-- Which responses lead elsewhere, and where to: those to an address that is pending and can be sent. -/
theorem dispatch_redirects (tree : FileTree) (app : Application ω) (path : Text) (world : ω) :
    ((∃ response, (app.dispatch tree path world).1 = some response ∧ response.Moves) ↔
      ∃ url, app.Pending path world url ∧ url.Printable) ∧
    ∀ url, app.Pending path world url →
      (url.Printable → ∃ response after, app.dispatch tree path world = (some response, after) ∧
        response.status = 302 ∧ response.body = [] ∧ response.headers = [(Response.locationName, url)] ∧
        response.location = some url) ∧
      (¬ url.Printable → ∃ s w response after,
        Fails tree app path world
          (.fault (.internal ("Redirect location '" ++ url ++ "' is not a valid header value"))) s w ∧
        app.dispatch tree path world = (some response, after) ∧ response.status = 500 ∧ response.headers = [] ∧
        response.location = none) ∧
      ∀ found name params, app.resolve path = some found →
        (Change.redirect name params).RecordedLast app.routes.addresses
          ((app.startCall path world).changes ++ (app.handlerCall path found world).changes) →
        app.routes.reverse name params = .ok url := by
  refine ⟨⟨?_, ?_⟩, fun url pending => ⟨fun printable => ?_, fun odd => ?_, ?_⟩⟩
  · rintro ⟨response, answered, moves⟩
    rcases dispatch_cases answered with ⟨s, w, answers⟩ | ⟨fault, body, rfl⟩
    · exact answers.pending_of_moves moves
    · exact absurd moves (not_moves_report fault body)
  · rintro ⟨url, pending, printable⟩
    obtain ⟨response, after, answered, status, _⟩ := pending.dispatch_printable tree printable
    exact ⟨response, congrArg Prod.fst answered, Or.inr (by rw [status]; decide)⟩
  · exact pending.dispatch_printable tree printable
  · obtain ⟨returned, s, w, handled, recorded⟩ := pending.reaches tree
    have fails := Fails.location handled recorded (Response.redirect_of_not_printable odd)
    exact ⟨_, _, _, _, fails, fails.dispatch_eq, rfl, rfl, rfl⟩
  · intro found name params resolved recorded
    have pending_last := pending.last?_eq resolved
    rw [recorded.last?_eq, Change.redirect?, IndexedTable.reverse_addresses] at pending_last
    cases reversed : app.routes.reverse name params with
    | error fault =>
        rw [reversed] at pending_last
        cases pending_last
    | ok built =>
        rw [reversed] at pending_last
        exact congrArg Except.ok (Option.some.inj pending_last)

/-- The handler asks for two redirects; the second one is to a route that is not there. -/
example :
    let handler : Callback Unit := ⟨[], fun _ _ _ _ =>
      ⟨.ok (some "body"), [.redirectTo "/b", .redirect "nowhere" (Parameters.ofList [])], ()⟩⟩
    let app : Application Unit :=
      { (new : Application Unit) with
        routes := IndexedTable.empty.insert ⟨"a", .path (.literal "/a" .nil), none, some handler⟩ }
    (app.dispatch FileTree.empty "/a" ()).1.bind Response.location = some "/b" := by
  rfl

end Application
end RouteView
