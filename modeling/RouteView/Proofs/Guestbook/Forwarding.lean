import RouteView.Proofs.Guestbook.Routes

/-!
# Links of the older address

An address `/entry.php/…` of the guestbook leads to the page of the same entry, as long as its identifier can be sent
in a header (`dispatch_legacy`).  The address that is sent matches the route of the entries, which captures what the
older address had captured.
-/
set_option autoImplicit false
namespace RouteView

theorem Text.printable_append {first second : Text} :
    Text.Printable (first ++ second) ↔ Text.Printable first ∧ Text.Printable second := List.forall_mem_append

namespace Guestbook
variable {ω : Type} {s : Settings} {path id : Text} {world : ω}
open Application (Fails)

def entryUrl (id : Text) : Text := "/entries/" ++ id

def unsendable (url : Text) : Fault := .internal ("Redirect location '" ++ url ++ "' is not a valid header value")

theorem printable_entryUrl : Text.Printable (entryUrl id) ↔ Text.Printable id := by
  have front : Text.Printable "/entries/" := all_isLocationChar_iff.mp (by decide)
  exact Text.printable_append.trans (and_iff_right front)

theorem reverse_entry : (book (ω := ω) s).routes.reverse "entry" (.ofList [("id", id)]) = .ok (entryUrl id) := by
  have built : (book (ω := ω) s).routes.reverse "entry" (.ofList [("id", id)]) =
      .ok (("/entries/" : Text) ++ (id ++ [])) := rfl
  rw [built, List.append_nil]
  rfl

theorem pending_legacy (fills : Segments.Fills id) (asks : Asks path ("/entry.php/" ++ id)) :
    (book s).Pending path world (entryUrl id) := by
  refine ⟨letsOn, _, resolve_legacy fills asks, ⟨none, congrArg Effect.result handlerCall_legacy⟩, ?_⟩
  have recorded : Change.redirect? (book (ω := ω) s).routes.addresses (.redirect "entry" (.ofList [("id", id)])) =
      some (entryUrl id) := by
    rw [Change.redirect?, IndexedTable.reverse_addresses, reverse_entry]
    rfl
  rw [Application.handlerRequest_redirect, handlerCall_legacy, Change.last?_append, Change.last?_cons, recorded]
  rfl

theorem dispatch_unsendable (fills : Segments.Fills id) (asks : Asks path ("/entry.php/" ++ id))
    (odd : ¬ Text.Printable id) (tree : FileTree) (world : ω) :
    ∃ after, (book s).dispatch tree path world = (some (errorResponse (unsendable (entryUrl id))), after) := by
  have pending : (book s).Pending path world (entryUrl id) := pending_legacy fills asks
  obtain ⟨returned, st, after, handled, recorded⟩ := pending.reaches tree
  have refused := Response.redirect_of_not_printable fun sent => odd (printable_entryUrl.mp sent)
  exact ⟨after, dispatch_of_fault (Fails.location handled recorded refused)⟩

/-- An older address leads to the address of its entry if that can be sent, and to the error page otherwise; the
address of the entry resolves to the route of the entries, with the same identifier. -/
theorem dispatch_legacy (s : Settings) (filled : id ≠ []) (flat : '/' ∉ id) (asks : Asks path ("/entry.php/" ++ id))
    (tree : FileTree) (world : ω) :
    ∃ app : Application ω, site s = .ok app ∧
      (∃ response after, app.dispatch tree path world = (some response, after) ∧
        (response.status = 302 ∧ response.location = some ("/entries/" ++ id) ↔
          ∀ c ∈ id, c = '\t' ∨ ' ' ≤ c ∧ c ≤ '~') ∧
        ((¬ ∀ c ∈ id, c = '\t' ∨ ' ' ≤ c ∧ c ≤ '~') →
          response = Response.new 500 (errorText (unsendable ("/entries/" ++ id))))) ∧
      ∃ found, app.resolve ("/entries/" ++ id) = some found ∧ found.route.name = "entry" ∧
        found.captures = [("id".toList, id)] := by
  have fills : Segments.Fills id := ⟨filled, flat⟩
  have plain : '?' ∉ entryUrl id := by
    have unmarked : '?' ∉ id := fun mark => asks.1 (List.mem_append_right _ mark)
    have front : '?' ∉ "/entries/".toList := by decide
    exact List.not_mem_append front unmarked
  refine ⟨book s, site_eq s, ?_, _, resolve_entry fills ⟨plain, Or.inl rfl⟩, rfl, rfl⟩
  by_cases printable : Text.Printable id
  · have pending : (book s).Pending path world (entryUrl id) := pending_legacy fills asks
    obtain ⟨response, after, answered, status, _, _, location⟩ :=
      pending.dispatch_printable tree (printable_entryUrl.mpr printable)
    refine ⟨response, after, answered, ⟨fun _ => printable, fun _ => ⟨status, location⟩⟩, ?_⟩
    exact fun odd => absurd printable odd
  · obtain ⟨after, answered⟩ := dispatch_unsendable (s := s) fills asks printable tree world
    refine ⟨_, after, answered, ⟨?_, ?_⟩, fun _ => rfl⟩
    · rintro ⟨status, _⟩
      cases status
    · exact fun sent => absurd sent printable

/-- The identifier ends in a tab and a tilde, and a query follows it. -/
theorem dispatch_legacy_query :
    ("1 \t~".toList ≠ [] ∧ '/' ∉ "1 \t~".toList ∧ Asks "/entry.php/1 \t~?next=/" ("/entry.php/" ++ "1 \t~".toList)) ∧
    ∃ app : Application Unit, site Settings.default = .ok app ∧
      (∃ response after, app.dispatch FileTree.empty "/entry.php/1 \t~?next=/" () = (some response, after) ∧
        response.status = 302 ∧ response.location = some ("/entries/" ++ "1 \t~".toList)) ∧
      ∃ found, app.resolve ("/entries/" ++ "1 \t~".toList) = some found ∧ found.route.name = "entry" ∧
        found.captures = [("id".toList, "1 \t~".toList)] := by
  have asks : Asks "/entry.php/1 \t~?next=/" ("/entry.php/" ++ "1 \t~".toList) :=
    ⟨by decide, Or.inr ⟨"next=/", rfl⟩⟩
  obtain ⟨app, made, ⟨response, after, answered, forwards, _⟩, followed⟩ :=
    dispatch_legacy Settings.default (by decide) (by decide) asks FileTree.empty ()
  have printable : Text.Printable "1 \t~" := all_isLocationChar_iff.mp (by decide)
  exact ⟨⟨by decide, by decide, asks⟩, app, made, ⟨response, after, answered, forwards.mpr printable⟩, followed⟩

end Guestbook
end RouteView
