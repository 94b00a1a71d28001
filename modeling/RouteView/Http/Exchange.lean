import RouteView.Application.Dispatch
import RouteView.Http.Target

/-!
# Requests over HTTP

Every request is answered by dispatching its target, whatever its method.  The reply tells the length of
its body in bytes; a request with the method `HEAD` gets all header fields but no body.  A successful
reply to `CONNECT` opens a tunnel, so it has neither a body nor a length.  A request without a target is
not dispatched: nothing is found there.
-/
set_option autoImplicit false
namespace RouteView

structure Http.Request where
  method : Text
  uri : Text

namespace Reply

def lengthName : Text := "content-length"

/-- The reply with the number of bytes of its body among its headers. -/
def measured (r : Reply) : Reply :=
  { r with headers := r.headers.set lengthName (Text.ofNat (Text.byteLength r.body)) }

def isSuccess (r : Reply) : Bool := 200 ≤ r.status && r.status < 300

/-- The reply as it goes out to a request with this method. -/
def sent (method : Text) (r : Reply) : Reply :=
  if method = "CONNECT".toList ∧ r.isSuccess then { r with body := [] }
  else if method = "HEAD".toList then { r.measured with body := [] }
  else r.measured

def nothing : Reply := ⟨404, [], []⟩

theorem sent_status (method : Text) (r : Reply) : (r.sent method).status = r.status := by
  unfold sent
  repeat' split
  all_goals rfl

/-- A reply that opens no tunnel tells the length of the body that it has before the method is regarded. -/
theorem sent_headers {method : Text} {r : Reply} (h : method ≠ "CONNECT".toList ∨ r.isSuccess = false) :
    (r.sent method).headers = r.measured.headers := by
  have tunnel : ¬(method = "CONNECT".toList ∧ r.isSuccess = true) := by
    rintro ⟨hm, hs⟩
    rcases h with h | h
    · exact h hm
    · exact absurd hs (by simp [h])
  unfold sent
  rw [if_neg tunnel]
  split <;> rfl

end Reply

/-- The reply to a request and the world after it; no reply when the request aborts. -/
def Application.answer {ω : Type} (tree : FileTree) (app : Application ω) (request : Http.Request)
    (world : ω) : Option Reply × ω :=
  match Http.target? request.uri with
  | none => (some (Reply.nothing.sent request.method), world)
  | some path =>
      let (response, world) := app.dispatch tree path world
      (response.map fun r => r.reply.sent request.method, world)

end RouteView
