import RouteView.Request
import RouteView.Signature

/-!
# Callbacks

A callback is a signature with a function.  The function gets the bound arguments and the page; it lists the
changes that it makes of the page, and may also change a world outside the request, of a type left open.
Whether it succeeds or fails, its changes stay.  Without arguments for its signature it is not called.
-/
set_option autoImplicit false
namespace RouteView

structure Effect (ω : Type) where
  result : Attempt (Option Text)
  /-- In the order in which they were made. -/
  changes : List Change
  world : ω

/-- The text that a call returns, unless it failed or returned an empty one. -/
def Effect.body {ω : Type} (effect : Effect ω) : Option Text :=
  match effect.result with
  | .ok (some text) => if text = [] then none else some text
  | _ => none

theorem Effect.body_eq_some {ω : Type} {effect : Effect ω} {text : Text} :
    effect.body = some text ↔ effect.result = .ok (some text) ∧ text ≠ [] := by
  obtain ⟨result, changes, world⟩ := effect
  cases result with
  | error fault => simp [body]
  | ok returned =>
      cases returned with
      | none => simp [body]
      | some other =>
          by_cases empty : other = []
          · subst empty
            simp +contextual [body]
          · simp only [body, if_neg empty, Option.some.injEq, Except.ok.injEq]
            constructor
            · rintro rfl
              exact ⟨rfl, empty⟩
            · exact And.left

structure Callback (ω : Type) where
  signature : Signature
  run : Context → Bound → Page → ω → Effect ω

namespace Callback
variable {ω : Type}

/-- The callback that decides on changes of the page from the request and its arguments, makes them one
after the other, and returns no body. -/
def ofChanges (signature : Signature) (decide : Context → Bound → Attempt (List Change)) :
    Callback ω where
  signature
  run ctx bound page world :=
    match decide ctx bound with
    | .error fault => ⟨.error fault, [], world⟩
    | .ok changes =>
        let (result, made) := Change.untilFault ctx page changes
        ⟨result.map fun _ => none, made, world⟩

def ofBody (signature : Signature) (body : Bound → Text) : Callback ω where
  signature
  run _ bound _ world := ⟨.ok (some (body bound)), [], world⟩

def invoke (callback : Callback ω) (ctx : Context) (args : Arguments) (page : Page) (world : ω) :
    Effect ω :=
  match callback.signature.bind args with
  | .error fault => ⟨.error fault, [], world⟩
  | .ok bound => callback.run ctx bound page world

def inspect (callback : Callback ω) : Text :=
  "Callback \x7b signature: " ++ Signature.inspect callback.signature ++ ", .. \x7d"

end Callback
end RouteView
