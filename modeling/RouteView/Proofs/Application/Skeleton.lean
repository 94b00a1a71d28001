import RouteView.Proofs.Application.Abort
import RouteView.Proofs.Template.Dependence
import RouteView.Proofs.Template.Escaping

/-!
# Pages of one shape

With automatic escaping two pages that have the same view and the same layout have the same markup, whatever their
data are (`markup_renderPage`).  When nothing is wrong with the templates, a page can only fail because a file cannot
be read (`renderPage_fault`).
-/
set_option autoImplicit false
namespace RouteView
open RouteView.Text (markup)

namespace Template
variable {tree : FileTree} {r : Renderer} {name : Text} {fault : Fault}

/-- Nothing in the source is wrong, and nothing in it is exempt from escaping. -/
structure Sound (source : Text) : Prop where
  plain : SafeFree source
  correct : templateFault? source = none

instance (source : Text) : Decidable (Sound source) :=
  decidable_of_iff (SafeFree source ∧ templateFault? source = none)
    ⟨fun h => ⟨h.1, h.2⟩, fun h => ⟨h.plain, h.correct⟩⟩

def SoundAt (tree : FileTree) (r : Renderer) (name : Text) : Prop :=
  ∀ source, r.findSource tree name = .ok source → Sound source

namespace Renderer

theorem renderOrName_fault {data : Data} {safeKeys : List Text} (sound : SoundAt tree r name)
    (h : r.renderOrName tree name data safeKeys = .error (.fault fault)) :
    ∃ reason : FileFault, fault = .io reason.message := by
  rw [renderOrName] at h
  split at h
  · next source found =>
      rw [renderTemplate_eq, (sound source found).correct] at h
      cases h
  · cases h
  · next stop missed other =>
      cases h
      rcases search_fault other with ⟨detail, rfl⟩ | unread
      · exact absurd rfl (missed detail)
      · exact unread

/-- Renderings of one view that insert the same markup have the same markup. -/
theorem markup_renderOrName {first second : Data} {safeKeys keys : List Text} {inserted output other : Text}
    (escaping : r.autoEscape = true) (sound : SoundAt tree r name)
    (starts : Starts first safeKeys inserted) (again : Starts second keys inserted)
    (left : r.renderOrName tree name first safeKeys = .ok output)
    (right : r.renderOrName tree name second keys = .ok other) : markup output = markup other := by
  cases found : r.findSource tree name with
  | ok source =>
      have plain := (sound source found).plain
      obtain ⟨tokens, read, same⟩ := starts.template escaping found plain left
      obtain ⟨others, reread, alike⟩ := again.template escaping found plain right
      cases read.symm.trans reread
      exact same.trans alike.symm
  | error stop =>
      rw [renderOrName, found] at left right
      cases stop with
      | abort => cases left
      | fault fault =>
          cases fault with
          | templateMissing detail =>
              cases left
              cases right
              rfl
          | _ => cases left

end Renderer
end Template

namespace Application
variable {ω : Type} {tree : FileTree} {app : Application ω} {r : Template.Renderer}
open Template (SoundAt)

section Page
variable {page : Page}

/-- A page fails with its view, or with its layout around the view. -/
theorem renderPage_fault (templates : app.renderer = .templates r)
    (sound : ∀ name, page.view = some name ∨ page.layout = some name → SoundAt tree r name) {fault : Fault}
    (h : app.renderPage tree page = .error (.fault fault)) : ∃ reason : FileFault, fault = .io reason.message := by
  rw [renderPage_eq] at h
  cases shown : app.renderPage tree { page with layout := none } with
  | error stop =>
      rw [shown] at h
      cases h
      rw [renderView_eq] at shown
      cases view : page.view with
      | none =>
          rw [view] at shown
          cases shown
      | some name =>
          rw [view, templates] at shown
          exact Template.Renderer.renderOrName_fault (sound name (Or.inl view)) shown
  | ok inner =>
      rw [shown] at h
      cases layout : page.layout with
      | none =>
          rw [layout] at h
          cases h
      | some name =>
          rw [layout, templates] at h
          exact Template.Renderer.renderOrName_fault (sound name (Or.inr layout)) h

end Page

section Pages
variable {first second : Page} {content other : Text}

theorem markup_renderView (templates : app.renderer = .templates r) (escaping : r.autoEscape = true)
    (sameView : first.view = second.view) (sound : ∀ name, first.view = some name → SoundAt tree r name)
    (left : app.renderPage tree { first with layout := none } = .ok content)
    (right : app.renderPage tree { second with layout := none } = .ok other) : markup content = markup other := by
  rw [renderView_eq] at left right
  rw [← sameView] at right
  cases view : first.view with
  | none =>
      rw [view] at left right
      cases left
      cases right
      rfl
  | some name =>
      rw [view, templates] at left right
      exact Template.Renderer.markup_renderOrName escaping (sound name view) (Template.starts_without_keys _)
        (Template.starts_without_keys _) left right

theorem markup_renderPage (templates : app.renderer = .templates r) (escaping : r.autoEscape = true)
    (sameView : first.view = second.view) (sameLayout : first.layout = second.layout)
    (sound : ∀ name, first.view = some name ∨ first.layout = some name → SoundAt tree r name)
    (left : app.renderPage tree first = .ok content) (right : app.renderPage tree second = .ok other) :
    markup content = markup other := by
  rw [renderPage_eq] at left right
  obtain ⟨inner, shown, left⟩ := bind_eq_ok.mp left
  obtain ⟨core, revealed, right⟩ := bind_eq_ok.mp right
  have alike := markup_renderView templates escaping sameView (fun name view => sound name (Or.inl view)) shown revealed
  rw [← sameLayout] at right
  cases layout : first.layout with
  | none =>
      rw [layout] at left right
      cases left
      cases right
      exact alike
  | some name =>
      rw [layout, templates] at left right
      have starts := Template.starts_layout core second.data
      rw [← alike] at starts
      exact Template.Renderer.markup_renderOrName escaping (sound name (Or.inr layout))
        (Template.starts_layout inner first.data) starts left right

end Pages
end Application
end RouteView
