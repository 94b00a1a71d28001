import Mathlib.Data.List.TakeWhile
import RouteView.Template.Renderer

/-!
# Finding the source of a view

Directories abort on a name to which an extension with a slash in it would be added, and on no other
(`findSource_eq_abort`).  Else a view is found, or nobody has it, or its file cannot be read (`search_fault`), and what
a renderer made from settings finds is the text of a file of the tree (`mem_of_findSource`).
-/
set_option autoImplicit false
namespace RouteView

theorem Attempt.evaluation_ne_abort {α : Type} (attempt : Attempt α) : attempt.evaluation ≠ .error .abort := by
  cases attempt with
  | error fault => nofun
  | ok value => nofun

/-! ## Files -/

namespace FileTree
variable {tree : FileTree} {path text : Text}

theorem find?_of_entry {entry : FileEntry} (h : tree.entry path = .ok entry) :
    ∃ place, tree.find? place = some entry := by
  rw [FileTree.entry] at h
  split at h
  · cases h
  split at h
  · cases h
  split at h
  · cases h
  obtain ⟨place, _, found⟩ := bind_eq_ok.mp h
  cases there : tree.find? place with
  | none =>
      rw [there] at found
      cases found
  | some other =>
      rw [there] at found
      cases found
      exact ⟨place, there⟩

theorem mem_of_find? {place : List Text} {content : Option Text} (h : tree.find? place = some (.file content)) :
    (place, FileEntry.file content) ∈ tree.entries := by
  rw [find?] at h
  cases listed : tree.entries.lookup place with
  | some entry =>
      rw [listed] at h
      cases h
      obtain ⟨before, after, split, _⟩ := List.lookup_eq_some_iff.mp listed
      rw [split]
      exact List.mem_append_right _ (List.mem_cons_self ..)
  | none =>
      rw [listed] at h
      dsimp only at h
      split at h
      · cases h
      · cases h

/-- What is read is the text of a file of the tree. -/
theorem mem_of_read (h : tree.read path = .ok text) :
    ∃ place, (place, FileEntry.file (some text)) ∈ tree.entries := by
  rw [read] at h
  split at h
  · cases h
  · cases h
  · cases h
  · next looked =>
      cases h
      obtain ⟨place, found⟩ := find?_of_entry looked
      exact ⟨place, mem_of_find? found⟩

end FileTree

/-! ## Views that cannot be looked up -/

namespace Template
variable {tree : FileTree} {extension name : Text} {dirs : List Text} {fault : Fault}

/-- The extension would be added to the name of the view, and there is a slash in it. -/
structure Unjoinable (extension name : Text) : Prop where
  slash : '/' ∈ extension
  inside : ['.', '.'] ∉ Text.splitOn '/' name
  bare : FilePath.extension (name.dropWhile (· = '/')) = none

theorem slash_mem_dropDots {extension : Text} : '/' ∈ extension.dropWhile (· = '.') ↔ '/' ∈ extension := by
  constructor
  · exact fun member => (List.dropWhile_sublist _).subset member
  · intro member
    rw [← List.takeWhile_append_dropWhile (p := (· = '.')) (l := extension), List.mem_append] at member
    refine member.resolve_left fun dot => ?_
    have same := List.mem_takeWhile_imp dot
    exact absurd same (by decide)

theorem unjoinable_dropDots {extension name : Text} :
    Unjoinable (extension.dropWhile (· = '.')) name ↔ Unjoinable extension name :=
  ⟨fun h => ⟨slash_mem_dropDots.mp h.slash, h.inside, h.bare⟩,
    fun h => ⟨slash_mem_dropDots.mpr h.slash, h.inside, h.bare⟩⟩

namespace Loader

theorem fileName_eq_error {stop : Stop} : fileName extension name = .error stop ↔
    stop = .abort ∧ '/' ∈ extension ∧ FilePath.extension (name.dropWhile (· = '/')) = none := by
  rw [fileName]
  by_cases whole : extension = [] ∨ (FilePath.extension (name.dropWhile (· = '/'))).isSome = true
  · rw [if_pos whole]
    constructor
    · nofun
    · rintro ⟨_, slash, bare⟩
      rcases whole with rfl | dotted
      · cases slash
      · rw [bare] at dotted
        cases dotted
  · obtain ⟨_, dotted⟩ := not_or.mp whole
    have bare := Option.not_isSome_iff_eq_none.mp dotted
    rw [if_neg whole]
    by_cases slash : '/' ∈ extension
    · rw [if_pos slash, Except.error.injEq]
      exact ⟨fun same => ⟨same.symm, slash, bare⟩, fun h => h.1.symm⟩
    · rw [if_neg slash]
      constructor
      · nofun
      · exact fun h => absurd h.2.1 slash

theorem load_eq_abort : (directories dirs extension).load tree name = .error .abort ↔ Unjoinable extension name := by
  rw [load, fromDirectories]
  by_cases up : ['.', '.'] ∈ Text.splitOn '/' name
  · rw [if_pos (List.contains_iff_mem.mpr up)]
    constructor
    · nofun
    · exact fun h => absurd up h.inside
  · rw [if_neg (mt List.contains_iff_mem.mp up)]
    cases named : fileName extension name with
    | error stop =>
        obtain ⟨rfl, slash, bare⟩ := fileName_eq_error.mp named
        exact ⟨fun _ => ⟨slash, up, bare⟩, fun _ => rfl⟩
    | ok file =>
        constructor
        · exact fun aborted => absurd aborted (Attempt.evaluation_ne_abort _)
        · intro h
          cases named.symm.trans (fileName_eq_error.mpr ⟨rfl, h.slash, h.bare⟩)

end Loader

namespace Renderer
variable {r : Renderer}

theorem findSource_eq_abort (loaders : r.loaders = [.directories dirs extension]) :
    r.findSource tree name = .error .abort ↔ r.memory.get? name = none ∧ Unjoinable extension name := by
  rw [findSource, loaders, search, Loader.load, Loader.fromDictionary]
  cases known : r.memory.get? name with
  | some source =>
      constructor
      · nofun
      · nofun
  | none =>
      have aborts : search tree name [.directories dirs extension] = .error .abort ↔
          (Loader.directories dirs extension).load tree name = .error .abort := by
        rw [search]
        constructor
        · intro aborted
          split at aborted
          · cases aborted
          · exact aborted
        · intro aborted
          rw [aborted]
      exact (aborts.trans Loader.load_eq_abort).trans (and_iff_right rfl).symm

theorem renderOrName_eq_abort {data : Data} {safeKeys : List Text} :
    r.renderOrName tree name data safeKeys = .error .abort ↔ r.findSource tree name = .error .abort := by
  rw [renderOrName]
  constructor
  · intro aborted
    split at aborted
    · exact absurd aborted (Attempt.evaluation_ne_abort _)
    · cases aborted
    · next stop found => exact found.trans aborted
  · intro aborted
    rw [aborted]

end Renderer

/-! ## Faults -/

def LoadFault (fault : Fault) : Prop :=
  (∃ detail, fault = .templateMissing detail) ∨ ∃ reason : FileFault, fault = .io reason.message

namespace Loader

theorem readFirst_cases (tree : FileTree) (missing : Fault) (file : Text) (dirs : List Text) :
    readFirst tree missing file dirs = .error missing ∨
      ∃ path, readFirst tree missing file dirs = (tree.read path).mapError fun reason => .io reason.message := by
  induction dirs with
  | nil => exact Or.inl rfl
  | cons dir rest ih =>
      rw [readFirst]
      split
      · exact Or.inr ⟨_, rfl⟩
      · exact ih

/-- Directories abort, or do not have the view, or give what can be read at a path. -/
theorem load_directories (tree : FileTree) (dirs : List Text) (extension name : Text) :
    (directories dirs extension).load tree name = .error .abort ∨
      (∃ detail, (directories dirs extension).load tree name = .error (.fault (.templateMissing detail))) ∨
      ∃ path, (directories dirs extension).load tree name =
        Attempt.evaluation ((tree.read path).mapError fun reason => .io reason.message) := by
  rw [load, fromDirectories]
  split
  · exact Or.inr (Or.inl ⟨_, rfl⟩)
  · cases named : fileName extension name with
    | error stop =>
        rw [(fileName_eq_error.mp named).1]
        exact Or.inl rfl
    | ok file =>
        rcases readFirst_cases tree _ file dirs with misses | ⟨path, reads⟩
        · exact Or.inr (Or.inl ⟨_, congrArg Attempt.evaluation misses⟩)
        · exact Or.inr (Or.inr ⟨path, congrArg Attempt.evaluation reads⟩)

theorem load_fault {loader : Loader} (h : loader.load tree name = .error (.fault fault)) : LoadFault fault := by
  cases loader with
  | sources templates =>
      rw [load, fromDictionary] at h
      split at h
      · cases h
      · cases h
        exact Or.inl ⟨_, rfl⟩
  | directories dirs extension =>
      rcases load_directories tree dirs extension name with aborts | ⟨detail, misses⟩ | ⟨path, reads⟩
      · cases aborts.symm.trans h
      · cases misses.symm.trans h
        exact Or.inl ⟨detail, rfl⟩
      · have failed := reads.symm.trans h
        cases read : tree.read path with
        | error reason =>
            rw [read] at failed
            cases failed
            exact Or.inr ⟨reason, rfl⟩
        | ok text =>
            rw [read] at failed
            cases failed

end Loader

namespace Renderer

theorem search_fault {loaders : List Loader} (h : search tree name loaders = .error (.fault fault)) :
    LoadFault fault := by
  induction loaders with
  | nil =>
      cases h
      exact Or.inl ⟨_, rfl⟩
  | cons loader rest ih =>
      rw [search] at h
      split at h
      · exact ih h
      · exact Loader.load_fault h

/-- A renderer made from settings has its sources from files of the tree. -/
theorem mem_of_findSource {s : Settings} {source : Text} (h : (ofSettings s).findSource tree name = .ok source) :
    ∃ place, (place, FileEntry.file (some source)) ∈ tree.entries := by
  change search tree name [.directories s.viewDirs (s.viewExtension.dropWhile (· = '.'))] = .ok source at h
  rw [search] at h
  split at h
  · cases h
  · rcases Loader.load_directories tree s.viewDirs (s.viewExtension.dropWhile (· = '.')) name with
      aborts | ⟨detail, misses⟩ | ⟨path, reads⟩
    · cases aborts.symm.trans h
    · cases misses.symm.trans h
    · exact FileTree.mem_of_read (mapError_eq_ok.mp (mapError_eq_ok.mp (reads.symm.trans h)))

end Renderer
end Template
end RouteView
