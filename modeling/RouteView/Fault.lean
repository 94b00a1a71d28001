import RouteView.Text.Quoted

/-!
# Faults

What can go wrong while routes are built, views are rendered, settings are read and requests are
answered.  `Fault.message` words a fault, `Fault.status` is the status of the response that reports it,
and `Fault.inspect` shows its cause and details.  An abort is no fault: nothing answers it.
-/
set_option autoImplicit false
namespace RouteView

inductive Fault
  | unknownRoute (route : Text)
  | missingParameter (parameter route : Text)
  | missingArgument (name : Text)
  | malformedPattern (pattern reason : Text)
  | templateMissing (detail : Text)
  | templateSyntax (detail : Text)
  | handler (detail : Text)
  | configuration (detail : Text)
  | improperlyConfigured (detail : Text)
  | internal (detail : Text)
  | io (detail : Text)
deriving DecidableEq

namespace Fault

def message : Fault → Text
  | unknownRoute route => "Unknown route: " ++ route
  | missingParameter parameter route =>
      "Missing required parameter '" ++ parameter ++ "' for route '" ++ route ++ "'"
  | missingArgument name => "Required argument missing: " ++ name
  | malformedPattern pattern reason => "Malformed pattern '" ++ pattern ++ "': " ++ reason
  | templateMissing detail => "Template does not exist: " ++ detail
  | templateSyntax detail => "Template syntax error: " ++ detail
  | handler detail => "Handler error: " ++ detail
  | configuration detail => "Configuration error: " ++ detail
  | improperlyConfigured detail => "Improperly configured: " ++ detail
  | internal detail => "Internal server error: " ++ detail
  | io detail => "IO error: " ++ detail

theorem message_ne_nil (fault : Fault) : fault.message ≠ [] := by
  have front : ∀ {first : Text} (more : Text), first ≠ [] → first ++ more ≠ [] :=
    fun more h => List.append_ne_nil_of_left_ne_nil h more
  cases fault with
  | missingParameter parameter route => exact front _ (front _ (front _ (front _ (by decide))))
  | malformedPattern pattern reason => exact front _ (front _ (front _ (by decide)))
  | _ => exact front _ (by decide)

/-- A missing template is reported as not found, everything else as an error of the server. -/
def status : Fault → Nat
  | templateMissing _ => 404
  | _ => 500

def label : Fault → Text
  | unknownRoute _ => "UnknownRoute"
  | missingParameter .. => "MissingRequiredParameter"
  | missingArgument _ => "MissingRequiredArgument"
  | malformedPattern .. => "MalformedPattern"
  | templateMissing _ => "TemplateDoesNotExist"
  | templateSyntax _ => "TemplateSyntaxError"
  | handler _ => "HandlerError"
  | configuration _ => "ConfigurationError"
  | improperlyConfigured _ => "ImproperlyConfigured"
  | internal _ => "InternalServerError"
  | io _ => "IoError"

/-- The details of a fault as named or bare quoted texts. -/
def details : Fault → Text
  | missingParameter parameter route =>
      " \x7b parameter: " ++ Text.quote parameter ++ ", route: " ++ Text.quote route ++ " \x7d"
  | malformedPattern pattern reason =>
      " \x7b pattern: " ++ Text.quote pattern ++ ", reason: " ++ Text.quote reason ++ " \x7d"
  | io detail => "(Custom \x7b kind: Other, error: " ++ Text.quote detail ++ " \x7d)"
  | unknownRoute detail | missingArgument detail | templateMissing detail | templateSyntax detail
  | handler detail | configuration detail | improperlyConfigured detail | internal detail =>
      '(' :: Text.quote detail ++ [')']

def inspect (fault : Fault) : Text := fault.label ++ fault.details

end Fault

/-- A result that ends in a fault when there is no value. -/
abbrev Attempt (α : Type) := Except Fault α

/-- How an evaluation ends without a value: with a fault, which can be answered, or with an abort, which
ends the program. -/
inductive Stop
  | fault (f : Fault)
  | abort
deriving DecidableEq

abbrev Evaluation (α : Type) := Except Stop α

def Attempt.evaluation {α : Type} (attempt : Attempt α) : Evaluation α := attempt.mapError Stop.fault

section Outcome
variable {ε δ α β : Type} {attempt : Except ε α}

theorem bind_eq_ok {next : α → Except ε β} {result : β} :
    attempt >>= next = .ok result ↔ ∃ value, attempt = .ok value ∧ next value = .ok result := by
  cases attempt <;> simp [bind, Except.bind]

theorem map_eq_ok {f : α → β} {result : β} :
    attempt.map f = .ok result ↔ ∃ value, attempt = .ok value ∧ f value = result := by
  cases attempt <;> simp [Except.map]

theorem map_eq_error {f : α → β} {fault : ε} : attempt.map f = .error fault ↔ attempt = .error fault := by
  cases attempt <;> simp [Except.map]

theorem mapError_eq_ok {f : ε → δ} {value : α} : attempt.mapError f = .ok value ↔ attempt = .ok value := by
  constructor
  · intro h
    cases attempt with
    | error fault => cases h
    | ok found => cases h; rfl
  · rintro rfl
    rfl

end Outcome

end RouteView
