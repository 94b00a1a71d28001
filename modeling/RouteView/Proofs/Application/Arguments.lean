import RouteView.Proofs.Application.Calls
import RouteView.Proofs.Pattern.Sources
import RouteView.Proofs.Request.Binding
import RouteView.Proofs.RouteTable.MatchOrder

/-!
# What a handler is called with

A parameter of a handler is bound to the text that the match captured under its name, else to the request path if it
is called `path`, else to its default or to null (`Parameter.offered`).  `handler_bound` says that the handler of the
matched route gets these values, or is not called for want of the first one that is missing.  In what order the
captured texts are looked at makes no difference (`collected_eq`).
-/
set_option autoImplicit false
namespace RouteView

def Parameter.offered (path : Text) (captures : Captures) (p : Parameter) : Option Value :=
  match captures.lookup p.name with
  | some text => some (.text text)
  | none =>
      if p.name = "path" then some (.text path)
      else match p.default with
        | some value => some value
        | none => if p.nullable then some .null else none

/-! ## Captured texts -/

theorem Pattern.nodup_captures {pattern : Pattern} {path : Text} {captures : Captures}
    (h : pattern.captures? path = some captures) : (captures.map Prod.fst).Nodup := by
  cases pattern with
  | wildcard =>
      cases h
      exact List.nodup_nil
  | path segments =>
      obtain ⟨choices, _, recorded⟩ := Option.bind_eq_some_iff.mp h
      have nothing : (([] : Captures).map Prod.fst).Nodup := List.nodup_nil
      exact Segments.nodup_capturesFrom choices nothing recorded

namespace Application
variable {ω : Type} {tree : FileTree} {app : Application ω} {path : Text} {world : ω}

/-- The arguments of a handler as they are put together: the path, and then the captured texts one after the other,
each in the place of an earlier value of its name. -/
def collected (path : Text) (captures : Captures) : Arguments :=
  Arguments.ofDictionary <|
    captures.foldl (fun args (name, text) => args.insert name (.text text)) [("path", .text path)]

/-- The captured texts may be gone through in any order. -/
theorem collected_eq {captures order : Captures} (distinct : (captures.map Prod.fst).Nodup)
    (perm : order.Perm captures) (path : Text) : collected path order = handlerArguments path captures := by
  have distinct_order : (Dictionary.keys (Parameters.quoted order)).Nodup := by
    rw [Parameters.keys_quoted]
    exact (perm.map Prod.fst).nodup_iff.mpr distinct
  funext name
  have same : order.lookup name = captures.lookup name := congrFun (Parameters.ofList_perm distinct perm) name
  have inserted : collected path order name =
      (Dictionary.get? name (Parameters.quoted order)).or (Dictionary.get? name [("path", .text path)]) := by
    rw [← Dictionary.get?_foldl_insert distinct_order, Parameters.quoted, List.foldl_map]
    rfl
  rw [inserted, Parameters.get?_quoted, ← Parameters.ofList_apply, Parameters.ofList, same, handlerArguments,
    Dictionary.get?_cons]
  cases captures.lookup name with
  | some text => rfl
  | none => rfl

theorem value?_handlerArguments (path : Text) (captures : Captures) (p : Parameter) :
    p.value? (handlerArguments path captures) = p.offered path captures := by
  rw [Parameter.value?, Parameter.offered, handlerArguments]
  cases captures.lookup p.name with
  | some text => rfl
  | none =>
      by_cases named : p.name = "path"
      · simp [named]
      · simp only [if_neg named, Option.none_or]
        cases p.default with
        | some value => rfl
        | none => rfl

/-! ## The handler of the matched route -/

section Handler
variable {found : Resolved (Callback ω)} {handler : Callback ω} {s : Request} {w : ω}

theorem Once.eq_of_mem {event other : Called ω} {condition : Prop} {log : List (Called ω)}
    (h : Once event condition log) (member : other ∈ log) : other = event := by
  rcases h with ⟨_, rfl⟩ | ⟨_, rfl⟩
  · exact List.mem_singleton.mp member
  · cases member

/-- A request goes on from the call of its handler. -/
theorem LetsOn.process_eq (letsOn : app.LetsOn path world) (resolved : app.resolve path = some found)
    (tree : FileTree) : app.process tree (Request.new path app.layout app.data) world =
      app.handle tree found (enter found (app.startRequest path world)) (app.startCall path world).world :=
  ((letsOn.reaches tree).entered resolved).process_eq

theorem effect_of_bound {bound : Bound} {args : Arguments} (h : handler.signature.bind args = .ok bound) :
    app.effect (some handler) args s w = handler.run (s.context app.routes.addresses) bound s.page w := by
  rw [effect, Callback.invoke, h]

theorem call_of_missing {fault : Fault} {args : Arguments} (h : handler.signature.bind args = .error fault) :
    app.call (some handler) args s w = (.error (.fault fault), s, w) := by
  have failed : app.effect (some handler) args s w = ⟨.error fault, [], w⟩ := by rw [effect, Callback.invoke, h]
  rw [call, failed]
  rfl

theorem handle_of_bound {bound : Bound} (handles : found.route.handler = some handler)
    (h : handler.signature.bind (handlerArguments s.path found.captures) = .ok bound) :
    let effect := handler.run (s.context app.routes.addresses) bound s.page w
    app.handle tree found s w = match effect.result with
      | .error fault => (.error (.fault fault), s.after app.routes.addresses effect.changes, effect.world)
      | .ok _ => app.conclude tree effect.body (s.after app.routes.addresses effect.changes) effect.world := by
  intro effect
  have ran : app.effect (some handler) (handlerArguments s.path found.captures) s w = effect := effect_of_bound h
  rw [handle, handles]
  cases result : effect.result with
  | error fault =>
      have called := call_of_error (ran.symm ▸ result)
      rw [ran] at called
      rw [called]
  | ok returned =>
      have called := call_of_ok (ran.symm ▸ result)
      rw [ran] at called
      rw [called]

theorem handle_of_missing {fault : Fault} (handles : found.route.handler = some handler)
    (h : handler.signature.bind (handlerArguments s.path found.captures) = .error fault) :
    app.handle tree found s w = (.error (.fault fault), s, w) := by
  rw [handle, handles, call_of_missing h]

theorem not_accepts_of_missing {fault : Fault} {args : Arguments} (h : handler.signature.bind args = .error fault) :
    ¬ Accepts (some handler) args := by
  rintro ⟨_, bound, same, accepted⟩
  cases same
  cases h.symm.trans accepted

/-- A handler that is not called before a failure is not called at all. -/
theorem not_called_of_missing {fault : Fault}
    (stopped : app.process tree (Request.new path app.layout app.data) world = (.error (.fault fault), s, w))
    (resolved : app.resolve path = some found)
    (refused : ¬ Accepts found.route.handler (handlerArguments path found.captures)) (route : Route (Callback ω)) :
    .handler route ∉ (app.noting.dispatch tree path (world, [])).2.2 := by
  obtain ⟨begun, handled, finished, first, _, second, third, processed⟩ := process_noting tree app path world
  obtain ⟨failed, fourth, reported⟩ := report_noting app fault s w
  have uncalled : handled = [] := (second found resolved).elim (fun called => absurd called.1.2 refused) And.right
  have log : (app.noting.dispatch tree path (world, [])).2.2 = begun ++ handled ++ finished ++ failed := by
    change app.noting.process tree (Request.new path app.noting.layout app.noting.data) _ = _ at processed
    rw [dispatch, processed, stopped]
    simp only [withLog, reported]
  rw [log, uncalled, List.append_nil]
  intro member
  rcases List.mem_append.mp member with member | member
  · rcases List.mem_append.mp member with member | member
    · cases first.eq_of_mem member
    · cases third.eq_of_mem member
  · cases fourth.eq_of_mem member

/-- What the handler of a matched route is called with: a value for each of its parameters.  For want of one it is not
called, and the first that is missing is reported.  The order of the captured texts makes no difference, nor do those
that are not declared. -/
theorem handler_bound (letsOn : app.LetsOn path world) (resolved : app.resolve path = some found)
    (handles : found.route.handler = some handler) :
    let s := enter found (app.startRequest path world)
    let w := (app.startCall path world).world
    (∀ bound, handler.signature.mapM (fun p => (p.offered path found.captures).map (Prod.mk p.name)) = some bound →
      let effect := handler.run (s.context app.routes.addresses) bound s.page w
      app.process tree (Request.new path app.layout app.data) world =
        match effect.result with
        | .error fault => (.error (.fault fault), s.after app.routes.addresses effect.changes, effect.world)
        | .ok _ => app.conclude tree effect.body (s.after app.routes.addresses effect.changes) effect.world) ∧
    (∀ p, handler.signature.find? (fun p => (p.offered path found.captures).isNone) = some p →
      app.process tree (Request.new path app.layout app.data) world =
          (.error (.fault (.missingArgument p.name)), s, w) ∧
        s = { path, captures := found.captures, page :=
          { (app.startRequest path world).page with
            view := found.route.view.or (app.startRequest path world).page.view } } ∧
        (∀ route, .handler route ∉ (app.noting.dispatch tree path (world, [])).2.2) ∧
        (app.onError = none → app.dispatch tree path world =
          (some (Response.new 500 ("Required argument missing: " ++ p.name)), w))) ∧
    (∀ order, order.Perm found.captures → collected path order = handlerArguments path found.captures) ∧
    ∀ other : Captures, (∀ p ∈ handler.signature, other.lookup p.name = found.captures.lookup p.name) →
      handler.signature.bind (handlerArguments path other) =
        handler.signature.bind (handlerArguments path found.captures) := by
  intro s w
  have processed := letsOn.process_eq resolved tree
  have values : ∀ p, Parameter.value? (handlerArguments path found.captures) p = p.offered path found.captures :=
    value?_handlerArguments path found.captures
  refine ⟨fun bound all => ?_, fun p missing => ?_, fun order perm => ?_, fun other same => ?_⟩
  · simp only [← values] at all
    exact processed.trans (handle_of_bound handles (Signature.bind_of_values all))
  · simp only [← values] at missing
    have unbound := Signature.bind_of_missing missing
    have failed := processed.trans (handle_of_missing handles unbound)
    have refused : ¬ Accepts found.route.handler (handlerArguments path found.captures) := by
      rw [handles]
      exact not_accepts_of_missing unbound
    refine ⟨failed, rfl, not_called_of_missing failed resolved refused, fun unset => ?_⟩
    rw [dispatch, failed]
    simp only [report_eq, unset]
    rfl
  · have matched := (RouteTable.firstMatch_matches resolved).2
    exact collected_eq (Pattern.nodup_captures matched) perm path
  · refine Signature.bind_congr fun p member => ?_
    rw [handlerArguments, handlerArguments, same p member]

/-- The captured text of `path` comes before the request path; `zone` has no value. -/
theorem handler_bound_missing :
    let onStart : Callback Nat := ⟨[], fun _ _ _ count => ⟨.ok (some []), [.setLayout "l"], count + 1⟩⟩
    let handler : Callback Nat :=
      ⟨[.required "path", .optional "page", .required "zone", .required "area"],
        fun _ _ _ count => ⟨.ok (some "seen"), [], count + 10⟩⟩
    let segments : Segments := .literal "/" (.parameter "path" (.literal "/" (.parameter "id" .nil)))
    let route : Route (Callback Nat) := ⟨"a", .path segments, some "v", some handler⟩
    let app : Application Nat :=
      { Application.new with routes := IndexedTable.empty.insert route, onStart := some onStart }
    let captures : Captures := [("path", "b"), ("id", "7")]
    app.resolve "/b/7?q" = some ⟨route, captures⟩ ∧
      (Parameter.required "path").offered "/b/7?q" captures = some (.text "b") ∧
      collected "/b/7?q" [("id", "7"), ("path", "b")] = handlerArguments "/b/7?q" captures ∧
      app.dispatch FileTree.empty "/b/7?q" 0 = (some (Response.new 500 "Required argument missing: zone"), 1) := by
  intro onStart handler segments route app captures
  have letsOn : app.LetsOn "/b/7?q" 0 := Or.inr rfl
  have resolved : app.resolve "/b/7?q" = some ⟨route, captures⟩ := rfl
  obtain ⟨_, missing, order, _⟩ := handler_bound letsOn resolved rfl
  obtain ⟨_, _, _, answered⟩ := missing (.required "zone") rfl
  exact ⟨resolved, rfl, order _ (List.Perm.swap ..), answered rfl⟩

end Handler

end Application
end RouteView
