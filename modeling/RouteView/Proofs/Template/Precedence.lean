import RouteView.Proofs.Files.Extension
import RouteView.Proofs.Template.Confinement
import RouteView.Template.Renderer

/-!
# Where a view comes from

A renderer looks through shelves: the templates in memory, then those of each loader, a directory being one shelf.
What a shelf gives is said by `Shelf.Gives`, and the first shelf that gives anything decides (`Shelf.First`), be its
answer a source or a fault.  The searches of the program are one search through the shelves (`Loader.load_eq`,
`Renderer.search_eq`), since no answer of a shelf reads as a miss.
-/
set_option autoImplicit false
namespace RouteView.Template

variable {tree : FileTree} {name : Text} {answer : Attempt Text}

/-! ## Shelves -/

inductive Shelf
  | templates (source? : Text → Option Text)
  | directory (dir extension : Text)

namespace Shelf

/-- A template gives its source.  A directory gives the text of a file in it, unless the name goes up, and a fault for
a file without text. -/
inductive Gives (tree : FileTree) (name : Text) : Shelf → Attempt Text → Prop
  | template {source? : Text → Option Text} {source : Text} : source? name = some source →
      Gives tree name (templates source?) (.ok source)
  | text {dir extension file text : Text} : ['.', '.'] ∉ Text.splitOn '/' name →
      FilePath.Extended extension (name.dropWhile (· = '/')) file →
      tree.found? (FilePath.join dir file) = some (.file (some text)) →
      Gives tree name (directory dir extension) (.ok text)
  | unreadable {dir extension file : Text} : ['.', '.'] ∉ Text.splitOn '/' name →
      FilePath.Extended extension (name.dropWhile (· = '/')) file →
      tree.found? (FilePath.join dir file) = some (.file none) →
      Gives tree name (directory dir extension) (.error (.io FileFault.notText.message))

def First (tree : FileTree) (name : Text) (shelves : List Shelf) (answer : Attempt Text) : Prop :=
  ∃ before shelf after, shelves = before ++ shelf :: after ∧ shelf.Gives tree name answer ∧
    ∀ earlier ∈ before, ∀ other, ¬ earlier.Gives tree name other

def file (extension name : Text) : Text :=
  let path := name.dropWhile (· = '/')
  if extension = [] ∨ (FilePath.extension path).isSome then path else FilePath.addExtension extension path

def entryAnswer? : Option FileEntry → Option (Attempt Text)
  | some (.file (some text)) => some (.ok text)
  | some (.file none) => some (.error (.io FileFault.notText.message))
  | _ => none

def answer? (tree : FileTree) (name : Text) : Shelf → Option (Attempt Text)
  | templates source? => (source? name).map .ok
  | directory dir extension =>
      if (Text.splitOn '/' name).contains ['.', '.'] then none
      else entryAnswer? (tree.found? (FilePath.join dir (file extension name)))

theorem extended_file {extension file : Text} :
    FilePath.Extended extension (name.dropWhile (· = '/')) file ↔ file = Shelf.file extension name :=
  FilePath.extended_iff

theorem gives_iff {shelf : Shelf} : shelf.Gives tree name answer ↔ shelf.answer? tree name = some answer := by
  constructor
  · intro gives
    cases gives with
    | template found => rw [answer?, found, Option.map_some]
    | text plain extended found =>
        rw [answer?, if_neg (mt List.contains_iff_mem.mp plain), ← extended_file.mp extended, found]
        rfl
    | unreadable plain extended found =>
        rw [answer?, if_neg (mt List.contains_iff_mem.mp plain), ← extended_file.mp extended, found]
        rfl
  · intro given
    cases shelf with
    | templates source? =>
        obtain ⟨source, found, rfl⟩ := Option.map_eq_some_iff.mp given
        exact .template found
    | directory dir extension =>
        rw [answer?] at given
        split at given
        · cases given
        · next down =>
            have plain := mt List.contains_iff_mem.mpr down
            have extended := extended_file.mpr (Eq.refl (file extension name))
            unfold entryAnswer? at given
            split at given
            · next text found =>
                cases given
                exact .text plain extended found
            · next found =>
                cases given
                exact .unreadable plain extended found
            · cases given

theorem first_iff {shelves : List Shelf} :
    First tree name shelves answer ↔ shelves.findSome? (answer? tree name) = some answer := by
  simp only [First, gives_iff, List.findSome?_eq_some_iff, Option.eq_none_iff_forall_ne_some]

theorem nowhere_iff {shelves : List Shelf} :
    (∀ shelf ∈ shelves, ∀ answer, ¬ shelf.Gives tree name answer) ↔
      shelves.findSome? (answer? tree name) = none := by
  rw [List.findSome?_eq_none_iff]
  simp only [gives_iff, Option.eq_none_iff_forall_ne_some]

/-- No answer of a shelf reads as a miss. -/
theorem First.ne_missing {shelves : List Shelf} (first : First tree name shelves answer) (detail : Text) :
    answer ≠ .error (.templateMissing detail) := by
  rintro rfl
  obtain ⟨before, shelf, after, _, gives, _⟩ := first
  cases gives

end Shelf

/-! ## Loaders -/

namespace Loader

/-- No extension of the loader has a slash in it. -/
def Flat : Loader → Prop
  | sources _ => True
  | directories _ extension => '/' ∉ extension

def shelves : Loader → List Shelf
  | sources templates => [.templates templates.get?]
  | directories dirs extension => dirs.map (.directory · extension)

theorem fileName_eq {extension : Text} (flat : '/' ∉ extension) (name : Text) :
    fileName extension name = .ok (Shelf.file extension name) := by
  rw [fileName, Shelf.file, if_neg flat]
  split <;> rfl

theorem readFirst_eq {extension : Text} (plain : ['.', '.'] ∉ Text.splitOn '/' name) (missing : Fault)
    (dirs : List Text) : readFirst tree missing (Shelf.file extension name) dirs =
      ((shelves (.directories dirs extension)).findSome? (Shelf.answer? tree name)).getD (.error missing) := by
  rw [shelves]
  induction dirs with
  | nil => rfl
  | cons dir rest ih =>
      rw [readFirst_cons, ih, List.map_cons, List.findSome?_cons, Shelf.answer?,
        if_neg (mt List.contains_iff_mem.mp plain)]
      rcases tree.found? (FilePath.join dir (Shelf.file extension name)) with _ | ⟨_ | text⟩ | _ <;> rfl

/-- A loader answers as the first of its shelves that has an answer, and reports a miss when none has one. -/
theorem load_eq {loader : Loader} (flat : loader.Flat) (tree : FileTree) (name : Text) :
    ∃ detail, loader.load tree name =
      ((loader.shelves.findSome? (Shelf.answer? tree name)).getD (.error (.templateMissing detail))).evaluation := by
  cases loader with
  | sources templates =>
      refine ⟨"Template '" ++ name ++ "' not found in StringLoader", ?_⟩
      rw [load, fromDictionary, shelves, List.findSome?_singleton, Shelf.answer?]
      cases templates.get? name <;> rfl
  | directories dirs extension =>
      rw [load, fromDirectories]
      by_cases up : ['.', '.'] ∈ Text.splitOn '/' name
      · refine ⟨"Refusing to load '" ++ name ++ "' outside the view directories", ?_⟩
        have nowhere : (shelves (.directories dirs extension)).findSome? (Shelf.answer? tree name) = none := by
          rw [shelves, List.findSome?_eq_none_iff]
          intro shelf member
          obtain ⟨dir, _, rfl⟩ := List.mem_map.mp member
          rw [Shelf.answer?, if_pos (List.contains_iff_mem.mpr up)]
        rw [if_pos (List.contains_iff_mem.mpr up), nowhere]
        rfl
      · rw [if_neg (mt List.contains_iff_mem.mp up), fileName_eq flat]
        exact ⟨_, congrArg Attempt.evaluation (readFirst_eq up _ dirs)⟩

end Loader

/-! ## Renderers -/

namespace Renderer

inductive Adjustment
  | template (name source : Text)
  | loader (added : Loader)
  | autoEscape (on : Bool)

def Adjustment.source? (name : Text) : Adjustment → Option Text
  | template other source => if other = name then some source else none
  | _ => none

def Adjustment.loader? : Adjustment → Option Loader
  | loader added => some added
  | _ => none

def adjust (r : Renderer) : Adjustment → Renderer
  | .template name source => r.addTemplate name source
  | .loader added => r.addLoader added
  | .autoEscape on => { r with autoEscape := on }

def built (adjustments : List Adjustment) : Renderer := adjustments.foldl adjust new

def lastAdded (adjustments : List Adjustment) (name : Text) : Option Text :=
  adjustments.reverse.findSome? (Adjustment.source? name)

/-- The templates in memory, then the shelves of the loaders in the order in which they were added. -/
def shelves (adjustments : List Adjustment) : List Shelf :=
  .templates (lastAdded adjustments) :: (adjustments.filterMap Adjustment.loader?).flatMap Loader.shelves

theorem loaders_adjust (r : Renderer) (a : Adjustment) : (r.adjust a).loaders = r.loaders ++ a.loader?.toList := by
  cases a with
  | loader added => rfl
  | _ => exact (List.append_nil r.loaders).symm

theorem memory_adjust (r : Renderer) (a : Adjustment) (name : Text) :
    (r.adjust a).memory.get? name = (a.source? name).or (r.memory.get? name) := by
  cases a with
  | template other source =>
      rw [adjust, addTemplate, Dictionary.get?_insert, Adjustment.source?]
      by_cases same : other = name
      · rw [if_pos same, if_pos same, Option.some_or]
      · rw [if_neg same, if_neg same, Option.none_or]
  | _ => rfl

theorem loaders_built (adjustments : List Adjustment) :
    (built adjustments).loaders = adjustments.filterMap Adjustment.loader? := by
  have grown : ∀ r : Renderer,
      (adjustments.foldl adjust r).loaders = r.loaders ++ adjustments.filterMap Adjustment.loader? := by
    induction adjustments with
    | nil => simp
    | cons a rest ih =>
        intro r
        rw [List.foldl_cons, ih, loaders_adjust, List.append_assoc, List.filterMap_cons]
        cases a.loader? <;> rfl
  exact grown new

theorem memory_built (adjustments : List Adjustment) (name : Text) :
    (built adjustments).memory.get? name = lastAdded adjustments name := by
  have kept : ∀ r : Renderer, (adjustments.foldl adjust r).memory.get? name =
      (lastAdded adjustments name).or (r.memory.get? name) := by
    induction adjustments with
    | nil => exact fun r => rfl
    | cons a rest ih =>
        intro r
        rw [List.foldl_cons, ih, memory_adjust, lastAdded, lastAdded, List.reverse_cons, List.findSome?_append,
          List.findSome?_singleton, Option.or_assoc]
  exact (kept new).trans Option.or_none

/-- What is not a miss ends a search. -/
theorem answered {next : Evaluation Text} (found : ∀ detail, answer ≠ .error (.templateMissing detail)) :
    (match answer.evaluation with
      | .error (.fault (.templateMissing _)) => next
      | result => result) = answer.evaluation := by
  cases answer with
  | ok source => rfl
  | error fault =>
      cases fault with
      | templateMissing detail => exact absurd rfl (found detail)
      | _ => rfl

theorem search_eq {loaders : List Loader} (flat : ∀ loader ∈ loaders, loader.Flat) (tree : FileTree) (name : Text) :
    search tree name loaders = (((loaders.flatMap Loader.shelves).findSome? (Shelf.answer? tree name)).getD
      (.error (.templateMissing ("View '" ++ name ++ "' could not be found")))).evaluation := by
  induction loaders with
  | nil => rfl
  | cons loader rest ih =>
      rw [List.forall_mem_cons] at flat
      obtain ⟨detail, loaded⟩ := Loader.load_eq flat.1 tree name
      rw [search, loaded, ih flat.2, List.flatMap_cons, List.findSome?_append]
      cases given : loader.shelves.findSome? (Shelf.answer? tree name) with
      | none => rfl
      | some answer =>
          exact answered (Shelf.first_iff.mpr given).ne_missing

/-- Loaders at the end are asked about nothing but what the others miss. -/
theorem search_append (front back : List Loader) : search tree name (front ++ back) =
    match search tree name front with
    | .error (.fault (.templateMissing _)) => search tree name back
    | result => result := by
  induction front with
  | nil => rfl
  | cons loader rest ih =>
      rw [List.cons_append, search, search]
      split
      · exact ih
      · next other =>
          split
          · next detail missing => exact absurd missing (other detail)
          · rfl

theorem findSource_built {adjustments : List Adjustment}
    (flat : ∀ added, .loader added ∈ adjustments → added.Flat) (tree : FileTree) (name : Text) :
    (built adjustments).findSource tree name =
      (((shelves adjustments).findSome? (Shelf.answer? tree name)).getD
        (.error (.templateMissing ("View '" ++ name ++ "' could not be found")))).evaluation := by
  have memory : (built adjustments).memory.get? = lastAdded adjustments := funext (memory_built adjustments)
  have all : ∀ loader ∈ .sources (built adjustments).memory :: (built adjustments).loaders, loader.Flat := by
    rw [List.forall_mem_cons, loaders_built]
    refine ⟨trivial, fun loader member => ?_⟩
    obtain ⟨adjustment, own, added⟩ := List.mem_filterMap.mp member
    cases adjustment with
    | loader other =>
        cases added
        exact flat loader own
    | _ => cases added
  rw [findSource, search_eq all, List.flatMap_cons, loaders_built, Loader.shelves, memory, shelves,
    List.singleton_append]

theorem findSource_addLoader (r : Renderer) (added : Loader) (tree : FileTree) (name : Text) :
    (r.addLoader added).findSource tree name =
      match r.findSource tree name with
      | .error (.fault (.templateMissing _)) => search tree name [added]
      | result => result :=
  search_append (.sources r.memory :: r.loaders) [added]

/-- The answer of the first shelf that gives one is the source or the fault, what is rendered is that source or
nothing, and no loader that is added changes either; a view that no shelf gives stands for itself. -/
theorem render_precedence (adjustments : List Adjustment)
    (flat : ∀ added, .loader added ∈ adjustments → added.Flat) (tree : FileTree) (name : Text) :
    (∀ answer, Shelf.First tree name (shelves adjustments) answer →
      (built adjustments).findSource tree name = answer.evaluation ∧
      (∀ data, (built adjustments).render tree name data =
        match answer with
        | .ok source => (renderTemplate (built adjustments).autoEscape source data []).evaluation
        | .error fault => .error (.fault fault)) ∧
      ∀ added,
        ((built adjustments).addLoader added).findSource tree name = (built adjustments).findSource tree name ∧
        ∀ data, ((built adjustments).addLoader added).render tree name data =
          (built adjustments).render tree name data) ∧
    ((∀ shelf ∈ shelves adjustments, ∀ answer, ¬ shelf.Gives tree name answer) →
      (built adjustments).findSource tree name =
        .error (.fault (.templateMissing ("View '" ++ name ++ "' could not be found"))) ∧
      ∀ data, (built adjustments).render tree name data = .ok name) := by
  constructor
  · intro answer first
    have found : (built adjustments).findSource tree name = answer.evaluation := by
      rw [findSource_built flat, Shelf.first_iff.mp first, Option.getD_some]
    have kept : ∀ added,
        ((built adjustments).addLoader added).findSource tree name = (built adjustments).findSource tree name := by
      intro added
      rw [findSource_addLoader, found]
      exact answered first.ne_missing
    refine ⟨found, fun data => ?_, fun added => ⟨kept added, fun data => ?_⟩⟩
    · rw [render, renderOrName, found]
      cases answer with
      | ok source => rfl
      | error fault =>
          cases fault with
          | templateMissing detail => exact absurd rfl (first.ne_missing detail)
          | _ => rfl
    · rw [render, renderOrName, kept added]
      rfl
  · intro nowhere
    have missed : (built adjustments).findSource tree name =
        .error (.fault (.templateMissing ("View '" ++ name ++ "' could not be found"))) := by
      rw [findSource_built flat, Shelf.nowhere_iff.mp nowhere]
      rfl
    exact ⟨missed, fun data => by rw [render, renderOrName, missed]⟩

/-- A file that is no text hides the good one in the next directory, and the templates in memory hide both. -/
theorem render_precedence_unreadable :
    let adjustments : List Adjustment := [.template "page" "old", .loader (.directories ["x", "y"] "html"),
      .loader (.sources [("home", "late")]), .template "page" "new"]
    let tree := FileTree.ofPaths [("x/home.html", .file none), ("x/page.html", .file (some "file")),
      ("y/home.html", .file (some "good"))]
    (∀ added, .loader added ∈ adjustments → added.Flat) ∧
      (built adjustments).render tree "home" [] = .error (.fault (.io FileFault.notText.message)) ∧
      (built adjustments).render tree "page" [] = .ok "new" ∧
      (built adjustments).render tree "../home" [] = .ok "../home" := by
  intro adjustments tree
  have flat : ∀ added, .loader added ∈ adjustments → added.Flat := by
    intro added member
    have own : added = .directories ["x", "y"] "html" ∨ added = .sources [("home", "late")] := by
      simpa [adjustments] using member
    rcases own with rfl | rfl
    · exact fun slash => absurd slash (by decide)
    · exact trivial
  have general := render_precedence adjustments flat tree
  refine ⟨flat, ?_, ?_, ?_⟩
  · exact ((general "home").1 (.error (.io FileFault.notText.message)) (Shelf.first_iff.mpr rfl)).2.1 []
  · exact ((general "page").1 (.ok "new") (Shelf.first_iff.mpr rfl)).2.1 []
  · exact ((general "../home").2 (Shelf.nowhere_iff.mpr rfl)).2 []

/-- A renderer of settings has one loader over their directories. -/
example (s : Settings) : Renderer.ofSettings s =
    built [.loader (.ofDirectories s.viewDirs s.viewExtension), .autoEscape s.autoEscape] := rfl

end Renderer
end RouteView.Template
