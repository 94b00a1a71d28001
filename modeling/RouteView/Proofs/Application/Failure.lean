import RouteView.Proofs.Application.Milestones

/-!
# Every failure ends in a response

Whichever step of a request fails, and in whatever state it leaves the request, the response has the status of
the fault and nowhere to go to, and its body is what the error callback returns or else the message of the
fault.  Of the error callback nothing but its returned text counts (`dispatch_of_fails`).
-/
set_option autoImplicit false
namespace RouteView.Application
variable {ω : Type}

def Returns (app : Application ω) (callback : Option (Callback ω)) (args : Arguments) (s : Request)
    (world : ω) (text : Text) : Prop :=
  ∃ given bound, callback = some given ∧ given.signature.bind args = .ok bound ∧
    (given.run (s.context app.routes.addresses) bound s.page world).result = .ok (some text) ∧ text ≠ []

section
variable {tree : FileTree} {app : Application ω} {path : Text} {world : ω}

theorem body_effect {callback : Option (Callback ω)} {args : Arguments} {s : Request} {w : ω} {text : Text} :
    (app.effect callback args s w).body = some text ↔ app.Returns callback args s w text := by
  rw [Effect.body_eq_some]
  constructor
  · rintro ⟨result, nonempty⟩
    cases callback with
    | none => cases result
    | some given =>
        rw [effect, Callback.invoke] at result
        cases bound : given.signature.bind args with
        | error fault =>
            rw [bound] at result
            cases result
        | ok values =>
            rw [bound] at result
            exact ⟨given, values, rfl, bound, result, nonempty⟩
  · rintro ⟨given, values, rfl, bound, result, nonempty⟩
    rw [effect, Callback.invoke, bound]
    exact ⟨result, nonempty⟩

theorem body_effect_none {callback : Option (Callback ω)} {args : Arguments} {s : Request} {w : ω}
    (h : ∀ text, ¬ app.Returns callback args s w text) : (app.effect callback args s w).body = none := by
  rw [Option.eq_none_iff_forall_ne_some]
  intro text returned
  exact h text (body_effect.mp returned)

theorem errorArguments_eq (fault : Fault) (name : Text) :
    errorArguments path fault name =
      if name = "error".toList then some (.text fault.message)
      else if name = "path".toList then some (.text path)
      else if name = "status".toList then some (.int fault.status) else none := by
  rw [errorArguments, Arguments.ofDictionary, Dictionary.get?_cons, Dictionary.get?_cons, Dictionary.get?_cons]
  rfl

theorem Fails.path_eq {stop : Stop} {s : Request} {w : ω} (h : Fails tree app path world stop s w) :
    s.path = path := by
  cases h with
  | start reached called => exact (call_path called).trans reached.path_eq
  | handler reached called => exact (call_path called).trans reached.path_eq
  | location reached _ _ => exact reached.path_eq
  | render reached _ _ => exact reached.path_eq
  | finish reached called => exact (call_path called).trans reached.path_eq

theorem Fails.dispatch_eq {fault : Fault} {s : Request} {w : ω}
    (h : Fails tree app path world (.fault fault) s w) :
    app.dispatch tree path world =
      (some (Response.new fault.status
          ((app.effect app.onError (errorArguments path fault) s w).body.getD fault.message)),
        (app.effect app.onError (errorArguments path fault) s w).world) := by
  rw [dispatch, h.process_eq]
  simp only [report_eq, h.path_eq]

/-- Answering up to a failure does not involve the error callback. -/
theorem Fails.of_onError {stop : Stop} {s : Request} {w : ω} (h : Fails tree app path world stop s w)
    (callback : Option (Callback ω)) : Fails tree { app with onError := callback } path world stop s w :=
  process_eq_error.mp h.process_eq

theorem body_effect_congr {given other : Callback ω} {args : Arguments} {s : Request} {w : ω}
    (signature : other.signature = given.signature)
    (results : ∀ ctx bound page world, (other.run ctx bound page world).result =
      (given.run ctx bound page world).result) :
    (app.effect (some other) args s w).body = (app.effect (some given) args s w).body := by
  simp only [effect, Callback.invoke, signature]
  cases given.signature.bind args with
  | error fault => rfl
  | ok bound => simp only [Effect.body, results]

/-- The response to a request whose first failure is `fault`: the text that the error callback returns to it, or else
its message.  What that callback changes does not show. -/
theorem dispatch_of_fails {fault : Fault} {s : Request} {w : ω}
    (fails : Fails tree app path world (.fault fault) s w) :
    ∃ (response : Response) (after : ω) (args : Arguments),
      app.dispatch tree path world = (some response, after) ∧
      (response.status = fault.status ∧ response.headers = [] ∧ response.location = none ∧ response.body ≠ []) ∧
      (∀ name, args name =
        if name = "error".toList then some (.text fault.message)
        else if name = "path".toList then some (.text path)
        else if name = "status".toList then some (.int response.status) else none) ∧
      (∀ text, app.Returns app.onError args s w text → response.body = text) ∧
      ((∀ text, ¬ app.Returns app.onError args s w text) → response.body = fault.message) ∧
      ∀ given other : Callback ω, app.onError = some given → other.signature = given.signature →
        (∀ ctx bound page world, (other.run ctx bound page world).result =
          (given.run ctx bound page world).result) →
        ({ app with onError := some other }.dispatch tree path world).1 = some response := by
  refine ⟨_, _, errorArguments path fault, fails.dispatch_eq, ⟨rfl, rfl, rfl, ?_⟩, errorArguments_eq fault,
    fun text returned => ?_, fun silent => ?_, fun given other set signature results => ?_⟩
  · change (app.effect app.onError (errorArguments path fault) s w).body.getD fault.message ≠ []
    cases returned : (app.effect app.onError (errorArguments path fault) s w).body with
    | none => exact fault.message_ne_nil
    | some text => exact (Effect.body_eq_some.mp returned).2
  · rw [body_effect.mpr returned]
    rfl
  · rw [body_effect_none silent]
    rfl
  · have moved := (fails.of_onError (some other)).dispatch_eq
    have same : ({ app with onError := some other }.effect (some other) (errorArguments path fault) s w).body =
        (app.effect app.onError (errorArguments path fault) s w).body := by
      rw [set]
      exact body_effect_congr signature results
    rw [moved, same]

/-- The handler asks for a redirect, sets a view and fails; the error callback asks for another redirect and
returns the arguments that it was offered. -/
theorem dispatch_of_fails_midway :
    let handler : Callback Nat :=
      ⟨[], fun _ _ _ count => ⟨.error (.handler "no"), [.redirectTo "/b", .setView "v"], count + 1⟩⟩
    let onError : Callback Nat := ⟨[.required "error", .required "path"], fun _ bound _ count =>
      ⟨.ok (some ((bound.getText? "path").getD [] ++ (bound.getText? "error").getD [])), [.redirectTo "/c"],
        count + 10⟩⟩
    let route : Route (Callback Nat) := ⟨"a", .path (.literal "/a" .nil), none, some handler⟩
    let app : Application Nat :=
      { Application.new with routes := IndexedTable.empty.insert route, onError := some onError }
    ∃ s response after,
      Fails FileTree.empty app "/a?q" 0 (.fault (.handler "no")) s 1 ∧ s.page.redirect = some "/b".toList ∧
      app.dispatch FileTree.empty "/a?q" 0 = (some response, after) ∧ response.status = 500 ∧
      response.location = none ∧ response.body = "/a?qHandler error: no" := by
  intro handler onError route app
  have started : Reaches FileTree.empty app "/a?q" 0 .started (Request.new "/a?q" none []) 0 :=
    .started .fresh rfl
  have entered : Reaches FileTree.empty app "/a?q" 0 (.entered ⟨route, []⟩)
      (enter ⟨route, []⟩ (Request.new "/a?q" none [])) 0 := .entered started rfl
  have fails := Fails.handler entered rfl
  obtain ⟨response, after, args, answered, ⟨status, _, location, _⟩, offered, returned, _⟩ :=
    dispatch_of_fails fails
  have bound : onError.signature.bind args =
      .ok [("error", .text "Handler error: no"), ("path", .text "/a?q")] := by
    simp only [onError, Signature.bind, Parameter.resolve, Parameter.required, offered]
    rfl
  refine ⟨_, response, after, fails, rfl, answered, status, location, returned _ ⟨onError, _, rfl, bound, rfl, ?_⟩⟩
  decide

end
end RouteView.Application
