import RouteView.Request

/-!
# What a list of changes leaves behind

Each part of a page is settled by the last change that concerns it: the view and the layout by the last one that
sets or clears them, what stands under a key of the data by the last one that writes or removes it, the redirect by
the last address that could be built.  Changes of one part never touch another, and a page that no change concerns
stays as it was.
-/
set_option autoImplicit false
namespace RouteView

namespace Change

def view? : Change → Option (Option Text)
  | setView view => some (some view)
  | clearView => some none
  | _ => none

def layout? : Change → Option (Option Text)
  | setLayout layout => some (some layout)
  | clearLayout => some none
  | _ => none

def redirect? (routes : IndexedTable Unit) : Change → Option Text
  | redirect name params => (routes.reverse name params).toOption
  | redirectTo url => some url
  | _ => none

/-- What a change leaves under a key that it writes or removes. -/
def data? (key : Text) : Change → Option (Option Value)
  | set written value => if written = key then some (some value) else none
  | remove removed => if removed = key then some none else none
  | _ => none

def last? {α : Type} (f : Change → Option α) (changes : List Change) : Option α :=
  changes.reverse.findSome? f

theorem last?_append {α : Type} (f : Change → Option α) (changes more : List Change) :
    last? f (changes ++ more) = (last? f more).or (last? f changes) := by
  rw [last?, List.reverse_append, List.findSome?_append]
  rfl

theorem last?_cons {α : Type} (f : Change → Option α) (c : Change) (changes : List Change) :
    last? f (c :: changes) = (last? f changes).or (f c) := by
  have single : last? f [c] = f c := by
    rw [last?, List.reverse_singleton, List.findSome?_cons]
    cases f c with
    | none => rfl
    | some said => rfl
  rw [← List.singleton_append, last?_append, single]

/-- After the changes a redirect is pending, and this change recorded it. -/
def RecordedLast (routes : IndexedTable Unit) (c : Change) (changes : List Change) : Prop :=
  ∃ earlier later, changes = earlier ++ c :: later ∧ (c.redirect? routes).isSome = true ∧
    ∀ other ∈ later, other.redirect? routes = none

theorem RecordedLast.last?_eq {routes : IndexedTable Unit} {c : Change} {changes : List Change}
    (h : RecordedLast routes c changes) : last? (redirect? routes) changes = c.redirect? routes := by
  obtain ⟨earlier, later, rfl, recorded, silent⟩ := h
  obtain ⟨url, said⟩ := Option.isSome_iff_exists.mp recorded
  have nothing : last? (redirect? routes) later = none := by
    rw [last?, List.findSome?_eq_none_iff]
    exact fun other member => silent other (List.mem_reverse.mp member)
  rw [last?_append, last?_cons, nothing, Option.none_or, said, Option.some_or]

section Step
variable (ctx : Context) (page : Page) (c : Change)

theorem perform_named (name : Text) (params : Parameters) : (redirect name params).perform ctx page =
    { page with redirect := (ctx.url name params).toOption.or page.redirect } := by
  rw [perform, apply]
  cases ctx.url name params with
  | error fault => rfl
  | ok url => rfl

theorem perform_view : (c.perform ctx page).view = c.view?.getD page.view := by
  cases c with
  | redirect name params =>
      rw [perform_named]
      rfl
  | _ => rfl

theorem perform_layout : (c.perform ctx page).layout = c.layout?.getD page.layout := by
  cases c with
  | redirect name params =>
      rw [perform_named]
      rfl
  | _ => rfl

theorem perform_ascending (h : page.data.Ascending) : (c.perform ctx page).data.Ascending := by
  cases c with
  | redirect name params =>
      rw [perform_named]
      exact h
  | set key value => exact Dictionary.ascending_insert h
  | remove key => exact Dictionary.ascending_erase key h
  | _ => exact h

theorem perform_data (key : Text) (h : page.data.Ascending) :
    (c.perform ctx page).data.get? key = (c.data? key).getD (page.data.get? key) := by
  cases c with
  | redirect name params =>
      rw [perform_named]
      rfl
  | set written value =>
      refine (Dictionary.get?_insert written value key page.data).trans ?_
      rw [data?]
      split <;> rfl
  | remove removed =>
      refine (Dictionary.get?_erase h removed key).trans ?_
      rw [data?]
      split <;> rfl
  | _ => rfl

theorem perform_redirect :
    (c.perform ctx page).redirect = (c.redirect? ctx.routes).or page.redirect := by
  cases c with
  | redirect name params =>
      rw [perform_named]
      rfl
  | _ => rfl

end Step

section Run
variable {ctx : Context}

/-- What holds of one change of a part of the page holds of the last of many, on the pages that the changes lead to. -/
theorem performAll_part_of {β : Type} (Holds : Page → Prop) (part : Page → β) {said : Change → Option β}
    (kept : ∀ page c, Holds page → Holds (perform ctx page c))
    (step : ∀ page c, Holds page → part (perform ctx page c) = (said c).getD (part page)) (changes : List Change) :
    ∀ page, Holds page → part (performAll ctx page changes) = (last? said changes).getD (part page) := by
  induction changes with
  | nil => intro page _; rfl
  | cons c changes ih =>
      intro page holds
      have later := ih (perform ctx page c) (kept page c holds)
      rw [step page c holds] at later
      rw [last?_cons]
      refine later.trans ?_
      cases last? said changes with
      | none => rfl
      | some value => rfl

theorem performAll_part {β : Type} {part : Page → β} {said : Change → Option β}
    (step : ∀ page c, part (perform ctx page c) = (said c).getD (part page)) (changes : List Change) (page : Page) :
    part (performAll ctx page changes) = (last? said changes).getD (part page) :=
  performAll_part_of (fun _ => True) part (fun _ _ _ => trivial) (fun page c _ => step page c) changes page trivial

theorem performAll_ascending (changes : List Change) :
    ∀ page : Page, page.data.Ascending → (performAll ctx page changes).data.Ascending := by
  induction changes with
  | nil => intro page h; exact h
  | cons c changes ih => intro page h; exact ih _ (perform_ascending ctx page c h)

theorem performAll_redirect (changes : List Change) (page : Page) :
    (performAll ctx page changes).redirect = (last? (redirect? ctx.routes) changes).or page.redirect := by
  have step : ∀ page c, (perform ctx page c).redirect =
      ((redirect? ctx.routes c).map some).getD page.redirect := by
    intro page c
    rw [perform_redirect]
    cases redirect? ctx.routes c with
    | none => rfl
    | some url => rfl
  have settled := performAll_part step changes page
  have inside : last? (fun c => (redirect? ctx.routes c).map some) changes =
      (last? (redirect? ctx.routes) changes).map some := List.map_findSome?.symm
  rw [inside] at settled
  refine settled.trans ?_
  cases last? (redirect? ctx.routes) changes with
  | none => rfl
  | some url => rfl

end Run

/-! ## Changes that write data -/

def Writes (changes : List Change) : Prop := ∀ c ∈ changes, ∃ key value, c = .set key value

theorem writes_nil : Writes [] := by
  intro c member
  cases member

theorem writes_cons {key : Text} {value : Value} {changes : List Change} (h : Writes changes) :
    Writes (.set key value :: changes) := by
  intro c member
  rcases List.mem_cons.mp member with rfl | later
  · exact ⟨key, value, rfl⟩
  · exact h c later

theorem Writes.last?_eq_none {α : Type} {f : Change → Option α} {changes : List Change} (h : Writes changes)
    (ignores : ∀ key value, f (.set key value) = none) : last? f changes = none := by
  rw [last?, List.findSome?_eq_none_iff]
  intro c member
  obtain ⟨key, value, rfl⟩ := h c (List.mem_reverse.mp member)
  exact ignores key value

theorem Writes.untilFault_eq {ctx : Context} {changes : List Change} (h : Writes changes) :
    ∀ page : Page, untilFault ctx page changes = (.ok (), changes) := by
  induction changes with
  | nil => intro page; rfl
  | cons c rest ih =>
      intro page
      obtain ⟨key, value, rfl⟩ := h c (List.mem_cons_self ..)
      rw [untilFault, apply]
      simp only [ih (fun other member => h other (List.mem_cons_of_mem _ member))]

end Change

namespace Request
variable (s : Request) (routes : IndexedTable Unit) (changes : List Change)

theorem after_view :
    (s.after routes changes).page.view = (Change.last? Change.view? changes).getD s.page.view :=
  Change.performAll_part (Change.perform_view _) changes s.page

theorem after_layout :
    (s.after routes changes).page.layout = (Change.last? Change.layout? changes).getD s.page.layout :=
  Change.performAll_part (Change.perform_layout _) changes s.page

theorem after_data (h : s.page.data.Ascending) (key : Text) : (s.after routes changes).page.data.get? key =
    (Change.last? (Change.data? key) changes).getD (s.page.data.get? key) :=
  Change.performAll_part_of (fun page => page.data.Ascending) (fun page => page.data.get? key)
    (Change.perform_ascending _) (fun page c h => Change.perform_data _ page c key h) changes s.page h

theorem after_redirect : (s.after routes changes).page.redirect =
    (Change.last? (Change.redirect? routes) changes).or s.page.redirect :=
  Change.performAll_redirect changes s.page

end Request
end RouteView
