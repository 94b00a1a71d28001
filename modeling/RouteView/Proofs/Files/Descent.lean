import RouteView.Files.Path
import RouteView.Files.Tree
import RouteView.Proofs.Text.Splitting

/-!
# Going down from a directory

A relative path without components of two dots descends.  Behind a directory it adds ordinary components and nothing
else (`below_join`), so that it is followed from the place of the directory (`place_join`) and stays at that place or
under it (`follow_descends`).  Two trees that agree there cannot be told apart by it (`found?_join`).
-/
set_option autoImplicit false
namespace RouteView

/-! ## Paths behind a directory -/

namespace FilePath
variable {dir file : Text}

def Descends (file : Text) : Prop := file.head? ≠ some '/' ∧ ['.', '.'] ∉ Text.splitOn '/' file

/-- The path is that of the directory with ordinary components behind it. -/
structure Below (dir path : Text) : Prop where
  extends_dir : dir <+: path
  same_start : path.head? = some '/' ↔ dir.head? = some '/'
  components : ∃ names, FileTree.components path = FileTree.components dir ++ names ∧
    ∀ name ∈ names, name ≠ [] ∧ name ≠ ['.'] ∧ name ≠ ['.', '.']

theorem join_cases (dir : Text) (relative : file.head? ≠ some '/') :
    (join dir file = dir ++ file ∧ (dir = [] ∨ ∃ front, dir = front ++ ['/'])) ∨
      (dir ≠ [] ∧ join dir file = dir ++ '/' :: file) := by
  rw [join, if_neg relative]
  by_cases ends : dir = [] ∨ dir.getLast? = some '/'
  · rw [if_pos ends]
    refine Or.inl ⟨rfl, ends.imp_right fun last => ?_⟩
    exact List.getLast?_eq_some_iff.mp last
  · rw [if_neg ends]
    exact Or.inr ⟨fun empty => ends (Or.inl empty), rfl⟩

theorem prefix_join (dir : Text) (relative : file.head? ≠ some '/') : dir <+: join dir file := by
  rcases join_cases dir relative with ⟨joined, _⟩ | ⟨_, joined⟩
  · rw [joined]
    exact List.prefix_append ..
  · rw [joined]
    exact List.prefix_append ..

theorem head?_join (relative : file.head? ≠ some '/') :
    (join dir file).head? = some '/' ↔ dir.head? = some '/' := by
  obtain ⟨more, joined⟩ := prefix_join dir relative
  cases dir with
  | nil =>
      rw [join, if_neg relative, if_pos (Or.inl rfl), List.nil_append]
      simp [relative]
  | cons c rest =>
      rw [← joined]
      rfl

/-- The components of the two parts, where an empty one at the end of the directory may get lost. -/
theorem splitOn_join (dir : Text) (relative : file.head? ≠ some '/') :
    ∃ front, Text.splitOn '/' (join dir file) = front ++ Text.splitOn '/' file ∧
      (Text.splitOn '/' dir = front ∨ Text.splitOn '/' dir = front ++ [[]]) := by
  rcases join_cases dir relative with ⟨joined, rfl | ⟨front, rfl⟩⟩ | ⟨_, joined⟩
  · exact ⟨[], by rw [joined]; rfl, Or.inr rfl⟩
  · refine ⟨Text.splitOn '/' front, ?_, Or.inr (Text.splitOn_append front [])⟩
    rw [joined, List.append_assoc, List.singleton_append, Text.splitOn_append]
  · exact ⟨Text.splitOn '/' dir, by rw [joined, Text.splitOn_append], Or.inl rfl⟩

theorem components_join (dir : Text) (relative : file.head? ≠ some '/') :
    FileTree.components (join dir file) = FileTree.components dir ++ FileTree.components file := by
  obtain ⟨front, joined, same | lost⟩ := splitOn_join dir relative
  · rw [FileTree.components, joined, FileTree.components, same, List.filter_append, FileTree.components]
  · rw [FileTree.components, joined, FileTree.components, lost, List.filter_append, List.filter_append,
      FileTree.components, List.append_assoc]
    rfl

theorem below_join (dir : Text) (descends : Descends file) : Below dir (join dir file) where
  extends_dir := prefix_join dir descends.1
  same_start := head?_join descends.1
  components := by
    refine ⟨FileTree.components file, components_join dir descends.1, fun name member => ?_⟩
    obtain ⟨part, leads⟩ := List.mem_filter.mp member
    have moves : ¬ (name = [] ∨ name = ['.']) := by simpa [FileTree.isStill] using leads
    exact ⟨fun empty => moves (Or.inl empty), fun dot => moves (Or.inr dot), fun up => descends.2 (up ▸ part)⟩

/-! ## Names that stay below -/

theorem trimTail_go_cases (rest : Text) :
    trimTail.go rest = [] ∨ trimTail.go rest = rest ∨ ∃ front, rest = front ++ '/' :: trimTail.go rest := by
  fun_induction trimTail.go rest with
  | case1 => exact Or.inl rfl
  | case2 rest ih =>
      rcases ih with nothing | all | ⟨front, cut⟩
      · exact Or.inl nothing
      · exact Or.inr (Or.inr ⟨[], by rw [all]; rfl⟩)
      · exact Or.inr (Or.inr ⟨'/' :: front, congrArg ('/' :: ·) cut⟩)
  | case3 rest ih =>
      rcases ih with nothing | all | ⟨front, cut⟩
      · exact Or.inl nothing
      · exact Or.inr (Or.inr ⟨['.'], by rw [all]; rfl⟩)
      · exact Or.inr (Or.inr ⟨'.' :: '/' :: front, congrArg ('.' :: '/' :: ·) cut⟩)
  | case4 => exact Or.inl rfl
  | case5 => exact Or.inr (Or.inl rfl)

/-- What is cut off a path begins with a slash, unless nothing is left of it. -/
theorem trimTail_cases (path : Text) :
    trimTail path = [] ∨ trimTail path = path ∨ ∃ tail, path = trimTail path ++ '/' :: tail := by
  rw [trimTail]
  rcases trimTail_go_cases path.reverse with nothing | all | ⟨front, cut⟩
  · exact Or.inl (by rw [nothing]; rfl)
  · exact Or.inr (Or.inl (by rw [all, List.reverse_reverse]))
  · refine Or.inr (Or.inr ⟨front.reverse, ?_⟩)
    have whole := congrArg List.reverse cut
    simpa using whole

/-- All components but the last are components of the path. -/
theorem mem_of_splitOn_trimTail {path part last : Text} {front : List Text}
    (parts : Text.splitOn '/' (trimTail path) = front ++ [last]) (member : part ∈ front) :
    part ∈ Text.splitOn '/' path := by
  rcases trimTail_cases path with nothing | all | ⟨tail, cut⟩
  · obtain rfl : front = [] := by
      rw [nothing] at parts
      simpa [Text.splitOn] using congrArg List.dropLast parts
    cases member
  · rw [← all, parts]
    exact List.mem_append_left _ member
  · rw [cut, Text.splitOn_append, parts]
    exact List.mem_append_left _ (List.mem_append_left _ member)

theorem head?_trimTail_append {path more : Text} (relative : path.head? ≠ some '/') (plain : more.head? ≠ some '/') :
    (trimTail path ++ more).head? ≠ some '/' := by
  rcases trimTail_cases path with nothing | all | ⟨tail, cut⟩
  · rwa [nothing]
  · cases path with
    | nil => rwa [all]
    | cons c rest => rwa [all]
  · cases left : trimTail path with
    | nil => exact plain
    | cons c rest =>
        rw [cut, left] at relative
        exact relative

theorem Descends.dropSlashes {name : Text} (plain : ['.', '.'] ∉ Text.splitOn '/' name) :
    Descends (name.dropWhile (· = '/')) := by
  induction name with
  | nil => exact ⟨by simp, plain⟩
  | cons c rest ih =>
      by_cases slash : c = '/'
      · rw [Text.splitOn, if_pos slash, List.mem_cons, not_or] at plain
        rw [List.dropWhile_cons_of_pos (by simpa using slash)]
        exact ih plain.2
      · rw [List.dropWhile_cons_of_neg (by simpa using slash)]
        exact ⟨by simpa using slash, plain⟩

theorem Descends.addExtension {extension path : Text} (h : Descends path) (nonempty : extension ≠ [])
    (plain : '/' ∉ extension) (undotted : extension.head? ≠ some '.') : Descends (addExtension extension path) := by
  rw [FilePath.addExtension]
  split
  · exact h
  · have tail : '/' ∉ '.' :: extension := by simp [plain]
    obtain ⟨front, last, parts, grown⟩ := Text.splitOn_append_plain '/' (trimTail path)
    refine ⟨head?_trimTail_append h.1 (by simp), ?_⟩
    rw [grown _ tail, List.mem_append, List.mem_singleton]
    rintro (up | up)
    · exact h.2 (mem_of_splitOn_trimTail parts up)
    · cases last with
      | nil =>
          have dot : extension = ['.'] := by simpa using up.symm
          exact undotted (by rw [dot]; rfl)
      | cons c more =>
          have size := congrArg List.length up
          have some := List.length_pos_iff.mpr nonempty
          simp only [List.length_append, List.length_cons, List.length_nil] at size
          omega

end FilePath

/-! ## Places behind a place -/

namespace FileTree
variable {tree first second : FileTree} {place : List Text}

/-- A component that stays asks for a directory, as any component after it does. -/
theorem step_still {part : Text} (still : isStill part = true) (place : List Text) (next : Text) :
    (do tree.step (← tree.step place part) next) = tree.step place next := by
  cases found : tree.find? place with
  | none => simp [step, found, bind, Except.bind]
  | some entry =>
      cases entry with
      | file text => simp [step, found, bind, Except.bind]
      | directory => simp [step, found, still, bind, Except.bind]

theorem follow_append (place : List Text) (front back : List Text) :
    tree.follow place (front ++ back) = (do tree.follow (← tree.follow place front) back) :=
  List.foldlM_append

theorem follow_still {part : Text} (still : isStill part = true) (place : List Text) (next : Text)
    (rest : List Text) : tree.follow place (part :: next :: rest) = tree.follow place (next :: rest) := by
  rw [follow, List.foldlM_cons, follow, List.foldlM_cons, ← step_still still place next, bind_assoc]
  rfl

/-- A path behind a directory is followed from the place of the directory. -/
theorem place_join (dir : Text) {file : Text} (relative : file.head? ≠ some '/') :
    tree.place (FilePath.join dir file) = (do tree.follow (← tree.place dir) (Text.splitOn '/' file)) := by
  have begins : start tree.working (FilePath.join dir file) = start tree.working dir := by
    simp only [start, FilePath.head?_join relative]
  obtain ⟨front, joined, same | lost⟩ := FilePath.splitOn_join dir relative
  · rw [place, begins, joined, place, same, follow_append]
  · cases parts : Text.splitOn '/' file with
    | nil => exact absurd parts (Text.splitOn_ne_nil '/' file)
    | cons next rest =>
        rw [place, begins, joined, place, lost, parts, ← follow_append, List.append_assoc, List.singleton_append,
          follow_append, follow_append]
        simp only [follow_still (show isStill [] = true from rfl)]

/-- What descends from a place stays under it; so it ends alike in two trees that are alike under two places. -/
theorem follow_descends {place other : List Text}
    (same : ∀ inner, first.find? (place ++ inner) = second.find? (other ++ inner)) {parts : List Text} :
    ['.', '.'] ∉ parts → ∀ inner,
      (∃ fault, first.follow (place ++ inner) parts = .error fault ∧
        second.follow (other ++ inner) parts = .error fault) ∨
      ∃ deeper, first.follow (place ++ inner) parts = .ok (place ++ deeper) ∧
        second.follow (other ++ inner) parts = .ok (other ++ deeper) := by
  induction parts with
  | nil => exact fun _ inner => Or.inr ⟨inner, rfl, rfl⟩
  | cons part rest ih =>
      intro plain inner
      rw [List.mem_cons, not_or] at plain
      simp only [follow, List.foldlM_cons, step, same inner]
      cases second.find? (other ++ inner) with
      | none => exact Or.inl ⟨.missing, rfl, rfl⟩
      | some entry =>
          cases entry with
          | file text => exact Or.inl ⟨.notDirectory, rfl, rfl⟩
          | directory =>
              by_cases still : isStill part = true
              · simp only [if_pos still]
                exact ih plain.2 inner
              · simp only [if_neg still, if_neg (Ne.symm plain.1)]
                by_cases long : nameLimit < Text.byteLength part
                · simp only [if_pos long]
                  exact Or.inl ⟨.nameTooLong, rfl, rfl⟩
                · simp only [if_neg long, List.append_assoc]
                  exact ih plain.2 (inner ++ [part])

def found? (tree : FileTree) (path : Text) : Option FileEntry := (tree.entry path).toOption

def under? (tree : FileTree) (dir : Text) (names : List Text) : Option FileEntry :=
  (tree.place dir).toOption.bind fun place => tree.find? (place ++ names)

theorem found?_eq (tree : FileTree) (path : Text) :
    tree.found? path = if '\x00' ∈ path ∨ pathLimit < Text.byteLength path ∨ path = [] then none
      else (tree.place path).toOption.bind tree.find? := by
  rw [found?, entry]
  by_cases nul : '\x00' ∈ path
  · rw [if_pos nul, if_pos (Or.inl nul)]
    rfl
  by_cases long : pathLimit < Text.byteLength path
  · rw [if_neg nul, if_pos long, if_pos (Or.inr (Or.inl long))]
    rfl
  by_cases empty : path = []
  · rw [if_neg nul, if_neg long, if_pos empty, if_pos (Or.inr (Or.inr empty))]
    rfl
  · rw [if_neg nul, if_neg long, if_neg empty, if_neg (by simp [nul, long, empty])]
    cases tree.place path with
    | error fault => rfl
    | ok place => cases found : tree.find? place <;> simp [bind, Except.bind, found, Except.toOption]

/-- Where there is nothing no component leads on. -/
theorem follow_nowhere (nothing : tree.find? place = none) (file : Text) :
    tree.follow place (Text.splitOn '/' file) = .error .missing := by
  cases parts : Text.splitOn '/' file with
  | nil => exact absurd parts (Text.splitOn_ne_nil '/' file)
  | cons part rest =>
      rw [follow, List.foldlM_cons, step, nothing]
      rfl

/-- Trees in which the same stands at a directory and under it lead to the same by a path that descends from it. -/
theorem found?_join {dir file : Text} (same : ∀ names, first.under? dir names = second.under? dir names)
    (descends : FilePath.Descends file) :
    first.found? (FilePath.join dir file) = second.found? (FilePath.join dir file) := by
  simp only [under?] at same
  rw [found?_eq, found?_eq, place_join dir descends.1, place_join dir descends.1]
  congr 1
  cases here : first.place dir with
  | error fault =>
      cases there : second.place dir with
      | error other => rfl
      | ok other =>
          have nothing : second.find? other = none := by simpa [here, there, Except.toOption] using (same []).symm
          simp only [bind, Except.bind, follow_nowhere nothing]
          rfl
  | ok place =>
      cases there : second.place dir with
      | error other =>
          have nothing : first.find? place = none := by simpa [here, there, Except.toOption] using same []
          simp only [bind, Except.bind, follow_nowhere nothing]
          rfl
      | ok other =>
          have alike : ∀ names, first.find? (place ++ names) = second.find? (other ++ names) := by
            simpa [here, there, Except.toOption] using same
          have ends := follow_descends alike descends.2 []
          rw [List.append_nil, List.append_nil] at ends
          rcases ends with ⟨fault, failed, failed'⟩ | ⟨deeper, reached, reached'⟩
          · simp only [bind, Except.bind, failed, failed']
            rfl
          · simp only [bind, Except.bind, reached, reached']
            exact alike deeper

end FileTree
end RouteView
