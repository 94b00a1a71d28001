import RouteView.Proofs.Request.Changes
import RouteView.Proofs.RouteTable.Refinement

/-!
# What a callback can do to a request

Through its context a callback changes the page and asks for URLs.  Each operation answers and leaves a request
(`Operation.run`).  Of a whole sequence `runAll_settles` says what is left: path and captures as they were, each part
of the page as the last operation on this part made it, and no part touched by the operations on the others.
A redirect whose URL cannot be built answers the fault of the URL and leaves everything as it was.
-/
set_option autoImplicit false
namespace RouteView

inductive Operation
  | change (c : Change)
  | url (name : Text) (params : Parameters)

inductive Answer
  | done
  | removed (value : Option Value)
  | address (url : Text)

inductive Part
  | data
  | view
  | layout
  | redirect
deriving DecidableEq

def Part.Same : Part → Page → Page → Prop
  | data, first, second => first.data = second.data
  | view, first, second => first.view = second.view
  | layout, first, second => first.layout = second.layout
  | redirect, first, second => first.redirect = second.redirect

theorem Part.Same.refl (part : Part) (page : Page) : part.Same page page := by
  cases part <;> rfl

theorem Part.Same.trans {part : Part} {first second third : Page} (h : part.Same first second)
    (h' : part.Same second third) : part.Same first third := by
  cases part <;> exact Eq.trans h h'

namespace Change

def answer (page : Page) : Change → Answer
  | remove key => .removed (page.data.get? key)
  | _ => .done

def part : Change → Part
  | set .. | remove _ => .data
  | setView _ | clearView => .view
  | setLayout _ | clearLayout => .layout
  | redirect .. | redirectTo _ => .redirect

section Step
variable {ctx : Context} {part : Part} {c : Change} {first second : Page}

theorem same_perform_other (other : c.part ≠ part) (page : Page) : part.Same (c.perform ctx page) page := by
  cases c with
  | redirect name params =>
      rw [perform_named]
      cases part with
      | redirect => exact absurd rfl other
      | _ => rfl
  | set _ _ | remove _ =>
      cases part with
      | data => exact absurd rfl other
      | _ => rfl
  | setView _ | clearView =>
      cases part with
      | view => exact absurd rfl other
      | _ => rfl
  | setLayout _ | clearLayout =>
      cases part with
      | layout => exact absurd rfl other
      | _ => rfl
  | redirectTo _ =>
      cases part with
      | redirect => exact absurd rfl other
      | _ => rfl

theorem same_perform (about : c.part = part) (same : part.Same first second) :
    part.Same (c.perform ctx first) (c.perform ctx second) := by
  subst about
  cases c with
  | set key value => exact congrArg (Dictionary.insert key value) same
  | remove key => exact congrArg (Dictionary.erase key) same
  | redirect name params =>
      rw [perform_named, perform_named]
      exact congrArg (Option.or _) same
  | _ => rfl

end Step

/-- A part is the same without the changes of the others. -/
theorem same_performAll {ctx : Context} {part : Part} (changes : List Change) :
    ∀ {first second : Page}, part.Same first second →
      part.Same (performAll ctx first changes) (performAll ctx second (changes.filter fun c => c.part = part)) := by
  -- for two pages, since the changes that are left out may change the other parts of only one
  induction changes with
  | nil => intro first second same; exact same
  | cons c changes ih =>
      intro first second same
      by_cases about : c.part = part
      · rw [List.filter_cons, if_pos (decide_eq_true about)]
        exact ih (same_perform about same)
      · rw [List.filter_cons, if_neg (by simpa using about)]
        exact ih ((same_perform_other about first).trans same)

end Change

namespace Operation

def run (routes : IndexedTable Unit) (s : Request) : Operation → Attempt Answer × Request
  | change c => ((c.apply (s.context routes) s.page).map fun _ => c.answer s.page, s.after routes [c])
  | url name params => (((s.context routes).url name params).map .address, s)

def runAll (routes : IndexedTable Unit) (s : Request) (operations : List Operation) : Request :=
  operations.foldl (fun s operation => (operation.run routes s).2) s

def change? : Operation → Option Change
  | change c => some c
  | url .. => none

def changes (operations : List Operation) : List Change := operations.filterMap change?

def part? (operation : Operation) : Option Part := operation.change?.map Change.part

theorem changes_filter (part : Part) (operations : List Operation) :
    changes (operations.filter fun operation => operation.part? = some part) =
      (changes operations).filter fun c => c.part = part := by
  rw [changes, changes, List.filterMap_filter, List.filter_filterMap]
  refine List.filterMap_congr fun operation _ => ?_
  cases operation with
  | url name params => exact if_neg (by simp [part?, change?])
  | change c => simp [part?, change?, Option.filter]

theorem runAll_eq_after (routes : IndexedTable Unit) (operations : List Operation) :
    ∀ s : Request, runAll routes s operations = s.after routes (changes operations) := by
  induction operations with
  | nil => intro s; rfl
  | cons operation rest ih =>
      intro s
      refine (ih (operation.run routes s).2).trans ?_
      cases operation with
      | change c => rfl
      | url name params => rfl

section Redirect
variable {η : Type} (table : IndexedTable η) (s : Request) (name : Text) (params : Parameters)

theorem run_url : (url name params).run table.addresses s = ((table.reverse name params).map .address, s) :=
  congrArg (fun built : Attempt Text => (built.map Answer.address, s)) (table.reverse_addresses name params)

theorem run_redirect : (change (.redirect name params)).run table.addresses s =
    ((table.reverse name params).map fun _ => .done,
      { s with page.redirect := (table.reverse name params).toOption.or s.page.redirect }) := by
  have built : (s.context table.addresses).url name params = table.reverse name params :=
    table.reverse_addresses name params
  have after : s.after table.addresses [.redirect name params] =
      { s with page.redirect := ((s.context table.addresses).url name params).toOption.or s.page.redirect } :=
    congrArg (fun page => { s with page }) (Change.perform_named _ s.page name params)
  rw [run, after, Change.apply, built]
  cases table.reverse name params <;> rfl

end Redirect

/-- Operations leave path and captures alone, and each part of the page as the last operation on it made it, whatever
was done to the other parts.  A redirect to a named route does nothing but record its URL; when there is none, it
answers as the question for the URL does and leaves the whole request as it was. -/
theorem runAll_settles {η : Type} (table : IndexedTable η) {s : Request} (ascending : s.page.data.Ascending)
    (operations : List Operation) :
    let routes := table.addresses
    let left := runAll routes s operations
    let made := changes operations
    left.path = s.path ∧ left.captures = s.captures ∧
    left.page.redirect = (Change.last? (Change.redirect? routes) made).or s.page.redirect ∧
    left.page.view = (Change.last? Change.view? made).getD s.page.view ∧
    left.page.layout = (Change.last? Change.layout? made).getD s.page.layout ∧
    left.page.data.Ascending ∧
    (∀ key, left.page.data.get? key = (Change.last? (Change.data? key) made).getD (s.page.data.get? key)) ∧
    (∀ part : Part, part.Same left.page
      (runAll routes s (operations.filter fun operation => operation.part? = some part)).page) ∧
    ∀ (t : Request) name params,
      (∀ fault, table.reverse name params = .error fault →
        (url name params).run routes t = (.error fault, t) ∧
        (change (.redirect name params)).run routes t = (.error fault, t)) ∧
      ∀ address, table.reverse name params = .ok address →
        (url name params).run routes t = (.ok (.address address), t) ∧
        (change (.redirect name params)).run routes t =
          (.ok .done, { t with page.redirect := some address }) := by
  intro routes left made
  have settled : left = s.after routes made := runAll_eq_after routes operations s
  refine ⟨?_, ?_, ?_, ?_, ?_, ?_, fun key => ?_, fun part => ?_, fun t name params => ⟨fun fault failed => ?_,
    fun address built => ?_⟩⟩
  · rw [settled]
    rfl
  · rw [settled]
    rfl
  · rw [settled, Request.after_redirect]
  · rw [settled, Request.after_view]
  · rw [settled, Request.after_layout]
  · rw [settled]
    exact Change.performAll_ascending made s.page ascending
  · rw [settled, Request.after_data s routes made ascending]
  · rw [settled, runAll_eq_after, changes_filter]
    exact Change.same_performAll made (.refl part s.page)
  · rw [run_url, run_redirect, failed]
    exact ⟨rfl, rfl⟩
  · rw [run_url, run_redirect, built]
    exact ⟨rfl, rfl⟩

/-- The second redirect has no value for its parameter: it fails, and the first one stays. -/
theorem runAll_settles_midway :
    let table := ((IndexedTable.empty.register "home" "/" none (some 0)).2.register "item" "/item/:id" none none).2
    let s : Request := ⟨"/x?y", [("id", "7")], ⟨[("a", .int 1), ("b", .int 2)], none, some "frame", some "/old"⟩⟩
    let failing : Operation := .change (.redirect "item" fun _ => none)
    let left := runAll table.addresses s [.change (.set "c" (.int 3)), .change (.redirect "home" fun _ => none),
      .change (.remove "a"), failing, .change (.setView "v"), .url "item" (fun _ => some "7"), .change .clearLayout]
    s.page.data.Ascending ∧ left.page.redirect = some "/".toList ∧ left.page.view = some "v".toList ∧
      left.page.layout = none ∧ left.page.data.get? "a" = none ∧ left.page.data.get? "b" = some (.int 2) ∧
      left.captures = s.captures ∧
      failing.run table.addresses left = (.error (.missingParameter "id" "item"), left) := by
  intro table s failing left
  have ascending : s.page.data.Ascending := by decide
  obtain ⟨_, captures, redirect, view, layout, _, data, _, steps⟩ := runAll_settles table ascending
    [.change (.set "c" (.int 3)), .change (.redirect "home" fun _ => none), .change (.remove "a"), failing,
      .change (.setView "v"), .url "item" (fun _ => some "7"), .change .clearLayout]
  exact ⟨ascending, redirect, view, layout, data "a", data "b", captures, ((steps left "item" _).1 _ rfl).2⟩

end Operation
end RouteView
