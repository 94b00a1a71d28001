import RouteView.Proofs.Files.Descent
import RouteView.Proofs.Text.Trimming
import RouteView.Template.Loader

/-!
# What a loader over directories can see

A view name that goes up is refused, and of any other name the leading slashes do not count; an extension only
lengthens its last component.  So the file of a view descends (`descends_fileName`), whatever slashes and dots the
name has, and a loader looks at nothing but what lies under its directories (`load_confined`).
-/
set_option autoImplicit false
namespace RouteView.Template.Loader

variable {dirs : List Text} {extension name file : Text} {first second : FileTree}

theorem descends_fileName (plain : ['.', '.'] ∉ Text.splitOn '/' name) (undotted : extension.head? ≠ some '.')
    (made : fileName extension name = .ok file) : FilePath.Descends file := by
  have path := FilePath.Descends.dropSlashes plain
  rw [fileName] at made
  split at made
  · cases made
    exact path
  · next unfinished =>
      rw [not_or] at unfinished
      split at made
      · cases made
      · next flat =>
          cases made
          exact path.addExtension unfinished.1 flat undotted

/-- The first file counts, whether it holds a text or not; all else that is found, or keeps a path from being
followed, is passed over. -/
theorem readFirst_cons (tree : FileTree) (missing : Fault) (file dir : Text) (rest : List Text) :
    readFirst tree missing file (dir :: rest) =
      match tree.found? (FilePath.join dir file) with
      | some (.file (some text)) => .ok text
      | some (.file none) => .error (.io FileFault.notText.message)
      | _ => readFirst tree missing file rest := by
  rw [readFirst, FileTree.isFile, FileTree.read, FileTree.found?]
  rcases tree.entry (FilePath.join dir file) with fault | ⟨_ | text⟩ | _ <;> rfl

theorem readFirst_congr {missing : Fault}
    (same : ∀ dir ∈ dirs, first.found? (FilePath.join dir file) = second.found? (FilePath.join dir file)) :
    readFirst first missing file dirs = readFirst second missing file dirs := by
  induction dirs with
  | nil => rfl
  | cons dir rest ih =>
      rw [List.forall_mem_cons] at same
      rw [readFirst_cons, readFirst_cons, same.1, ih same.2]

theorem load_congr (same : ∀ dir ∈ dirs, ∀ file, FilePath.Descends file →
      first.found? (FilePath.join dir file) = second.found? (FilePath.join dir file)) :
    (ofDirectories dirs extension).load first name = (ofDirectories dirs extension).load second name := by
  have undotted := Text.head?_dropWhile_ne '.' extension
  rw [ofDirectories, load, load, fromDirectories, fromDirectories]
  by_cases up : ['.', '.'] ∈ Text.splitOn '/' name
  · rw [if_pos (List.contains_iff_mem.mpr up), if_pos (List.contains_iff_mem.mpr up)]
  · have down : ¬ (Text.splitOn '/' name).contains ['.', '.'] = true := fun h => up (List.contains_iff_mem.mp h)
    rw [if_neg down, if_neg down]
    cases made : fileName (extension.dropWhile (· = '.')) name with
    | error stop => rfl
    | ok file =>
        have descends := descends_fileName up undotted made
        simp only [bind, Except.bind, readFirst_congr fun dir member => same dir member file descends]

/-- The text of a view depends on nothing but what is found at paths that go from the directories down by ordinary
components; hence trees with the same at the directories and under them give the same text. -/
theorem load_confined (dirs : List Text) (extension name : Text) (first second : FileTree) :
    ((∀ dir ∈ dirs, ∀ path, FilePath.Below dir path → first.found? path = second.found? path) →
      (ofDirectories dirs extension).load first name = (ofDirectories dirs extension).load second name) ∧
    ((∀ dir ∈ dirs, ∀ names, first.under? dir names = second.under? dir names) →
      (ofDirectories dirs extension).load first name = (ofDirectories dirs extension).load second name) := by
  constructor
  · intro same
    exact load_congr fun dir member file descends => same dir member _ (FilePath.below_join dir descends)
  · intro same
    exact load_congr fun dir member file descends => FileTree.found?_join (same dir member) descends

/-- Neither leading slashes nor dots lead out of a directory, though there is a file outside of it. -/
example : (ofDirectories ["v".toList] ".html").load
    (.ofPaths [("/x.html", .file (some "out")), ("v/x.html", .file (some "in"))]) "//./x" = .ok "in" := rfl

end RouteView.Template.Loader
