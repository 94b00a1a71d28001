import RouteView.Proofs.Template.Precedence

/-!
# Views with and without their extension

The name of a view may leave out the extension of its loader.  A name that ends in the name of a file without an
extension (`Bare`) stands for one and the same file whether the extension is added to it or not (`Shelf.file_bare`,
`Shelf.file_named`), since a dot behind the first character is all that makes an extension.  Slashes in front of the
name do not count, and neither they nor the extension make a component of two dots, for which the name would be refused
(`up_slashes_iff`, `Bare.up_named_iff`).
-/
set_option autoImplicit false
namespace RouteView

namespace FilePath
variable {path front last tail ext name : Text}

/-! ## Names without an extension -/

def lastPart (path : Text) : Text := (path.reverse.takeWhile (· ≠ '/')).reverse

/-- The text behind the last slash is the name of a file and has no extension. -/
structure Bare (name : Text) : Prop where
  filled : lastPart name ≠ []
  here : lastPart name ≠ ['.']
  up : lastPart name ≠ ['.', '.']
  plain : extension (lastPart name) = none

theorem Bare.leads (h : Bare name) : Leads name.reverse where
  nonempty empty := h.filled (by rw [lastPart, empty]; rfl)
  slash rest slash := h.filled (by rw [lastPart, slash]; rfl)
  dot rest dot := h.here (by rw [lastPart, dot]; rfl)
  alone dot := h.here (by rw [lastPart, dot]; rfl)

theorem Bare.endsIn (h : Bare name) : ∃ front, EndsIn name front (lastPart name) [] := by
  have ends := h.leads.endsIn .nil
  rw [List.reverse_reverse, List.append_nil] at ends
  exact ⟨_, ends⟩

/-- A bare name has no dot behind the first character of its last part. -/
theorem Bare.undotted (h : Bare name) : '.' ∉ (lastPart name).tail := by
  obtain ⟨front, ends⟩ := h.endsIn
  have alone : EndsIn (lastPart name) [] (lastPart name) [] := ⟨by simp, Or.inl rfl, ends.plain, ends.leads, .nil⟩
  have plain := h.plain
  rw [extension, alone.fileName_eq, if_neg h.up, Option.bind_some] at plain
  intro dot
  rw [← nameExtension_isSome, plain] at dot
  cases dot

/-! ## Slashes in front -/

theorem EndsIn.head?_ne (h : EndsIn path front last tail) : (last ++ tail).head? ≠ some '/' := by
  cases name : last with
  | nil => exact absurd name (isStill_eq_false.mp h.leads).1
  | cons c rest =>
      have plain := h.plain
      rw [name, List.mem_cons, not_or] at plain
      simpa using Ne.symm plain.1

theorem EndsIn.dropSlashes (h : EndsIn path front last tail) :
    EndsIn (path.dropWhile (· = '/')) (front.dropWhile (· = '/')) last tail where
  whole := by
    rw [h.whole, List.append_assoc, Text.dropWhile_append_other h.head?_ne, List.append_assoc]
  begins := by
    rcases h.begins with rfl | ⟨more, rfl⟩
    · exact Or.inl rfl
    · rw [List.dropWhile_append]
      split
      · exact Or.inl rfl
      · exact Or.inr ⟨_, rfl⟩
  plain := h.plain
  leads := h.leads
  idle := h.idle

theorem up_slashes_iff (n : Nat) (text : Text) :
    ['.', '.'] ∈ Text.splitOn '/' (List.replicate n '/' ++ text) ↔ ['.', '.'] ∈ Text.splitOn '/' text := by
  induction n with
  | zero => rfl
  | succ n ih =>
      rw [List.replicate_succ, List.cons_append, Text.splitOn, if_pos rfl, List.mem_cons, ih]
      simp

/-! ## The extension behind the name -/

theorem EndsIn.named (h : EndsIn path front last []) (flat : '/' ∉ ext) :
    EndsIn (path ++ '.' :: ext) front (last ++ '.' :: ext) [] where
  whole := by simp [h.whole]
  begins := h.begins
  plain := by simp [h.plain, flat]
  leads := by
    have nonempty := (isStill_eq_false.mp h.leads).1
    rw [isStill_eq_false]
    exact ⟨by simp, by simp [List.append_eq_cons_iff, nonempty]⟩
  idle := .nil

theorem EndsIn.dot_mem_tail (h : EndsIn path front last tail) (ext : Text) : '.' ∈ (last ++ '.' :: ext).tail := by
  rw [List.tail_append_of_ne_nil (isStill_eq_false.mp h.leads).1]
  exact List.mem_append_right _ List.mem_cons_self

/-- The components behind the last slash are one, whatever it is. -/
theorem splitOn_behind (begins : front = [] ∨ ∃ more, front = more ++ ['/']) :
    ∃ parts, ∀ last, '/' ∉ last → Text.splitOn '/' (front ++ last) = parts ++ [last] := by
  rcases begins with rfl | ⟨more, rfl⟩
  · exact ⟨[], fun last plain => Text.splitOn_of_not_mem plain⟩
  · refine ⟨Text.splitOn '/' more, fun last plain => ?_⟩
    rw [List.append_assoc, List.singleton_append, Text.splitOn_append, Text.splitOn_of_not_mem plain]

theorem Bare.up_named_iff (h : Bare name) (filled : ext ≠ []) (flat : '/' ∉ ext) :
    ['.', '.'] ∈ Text.splitOn '/' (name ++ '.' :: ext) ↔ ['.', '.'] ∈ Text.splitOn '/' name := by
  obtain ⟨front, ends⟩ := h.endsIn
  obtain ⟨parts, split⟩ := splitOn_behind ends.begins
  have longer := ends.named flat
  have bare : Text.splitOn '/' name = parts ++ [lastPart name] := by
    rw [← split _ ends.plain, ← List.append_nil (front ++ _), ← ends.whole]
  have named : Text.splitOn '/' (name ++ '.' :: ext) = parts ++ [lastPart name ++ '.' :: ext] := by
    rw [← split _ longer.plain, ← List.append_nil (front ++ _), ← longer.whole]
  have size : lastPart name ++ '.' :: ext ≠ ['.', '.'] := by
    intro up
    have count := congrArg List.length up
    have first := List.length_pos_iff.mpr h.filled
    have second := List.length_pos_iff.mpr filled
    simp only [List.length_append, List.length_cons, List.length_nil] at count
    omega
  rw [bare, named, List.mem_append, List.mem_append, List.mem_singleton, List.mem_singleton]
  simp [h.up.symm, size.symm]

end FilePath

namespace Template
variable {name ext : Text}

theorem Shelf.file_bare (bare : FilePath.Bare name) (filled : ext ≠ []) :
    Shelf.file ext name = name.dropWhile (· = '/') ++ '.' :: ext := by
  obtain ⟨front, ends⟩ := bare.endsIn
  have path := ends.dropSlashes
  have whole := path.whole
  rw [List.append_nil] at whole
  rw [Shelf.file, path.addExtension_eq, if_neg (not_or.mpr ⟨filled, bare.undotted⟩), ← whole]

theorem Shelf.file_named (bare : FilePath.Bare name) (flat : '/' ∉ ext) :
    Shelf.file ext (name ++ '.' :: ext) = name.dropWhile (· = '/') ++ '.' :: ext := by
  obtain ⟨front, ends⟩ := bare.endsIn
  have path := (ends.named flat).dropSlashes
  rw [Shelf.file, path.addExtension_eq, if_pos (Or.inr (ends.dot_mem_tail ext)), path.whole, ends.dropSlashes.whole]
  simp

theorem Shelf.file_slashes (ext : Text) (n : Nat) (name : Text) :
    Shelf.file ext (List.replicate n '/' ++ name) = Shelf.file ext name := by
  simp only [Shelf.file, Text.dropWhile_replicate]

/-! ## Reading -/

namespace Loader

/-- The loader answers a view with what is read at this path, where there is a file, or with a miss at no path. -/
def Reads (tree : FileTree) (loader : Loader) (name : Text) : Option Text → Prop
  | some path => tree.isFile path = true ∧
      loader.load tree name = Attempt.evaluation ((tree.read path).mapError fun fault => .io fault.message)
  | none => ∃ detail, loader.load tree name = .error (.fault (.templateMissing detail))

def firstPath? (tree : FileTree) (dirs : List Text) (file : Text) : Option Text :=
  (dirs.map (FilePath.join · file)).find? tree.isFile

theorem readFirst_eq_find? (tree : FileTree) (missing : Fault) (file : Text) (dirs : List Text) :
    readFirst tree missing file dirs =
      match firstPath? tree dirs file with
      | some path => (tree.read path).mapError fun fault => .io fault.message
      | none => .error missing := by
  induction dirs with
  | nil => rfl
  | cons dir rest ih =>
      rw [readFirst, firstPath?, List.map_cons, List.find?_cons]
      cases tree.isFile (FilePath.join dir file) with
      | true => rfl
      | false => exact ih

theorem reads_directories {dirs : List Text} (flat : '/' ∉ ext) (tree : FileTree) (name : Text) :
    Reads tree (.directories dirs ext) name
      (if ['.', '.'] ∈ Text.splitOn '/' name then none else firstPath? tree dirs (Shelf.file ext name)) := by
  by_cases up : ['.', '.'] ∈ Text.splitOn '/' name
  · rw [if_pos up]
    simp only [Reads, load, fromDirectories, if_pos (List.contains_iff_mem.mpr up)]
    exact ⟨_, rfl⟩
  · rw [if_neg up]
    cases found : firstPath? tree dirs (Shelf.file ext name) with
    | some path =>
        refine ⟨List.find?_some found, ?_⟩
        rw [load, fromDirectories, if_neg (mt List.contains_iff_mem.mp up), fileName_eq flat]
        simp only [bind, Except.bind, readFirst_eq_find?, found]
    | none =>
        simp only [Reads, load, fromDirectories, if_neg (mt List.contains_iff_mem.mp up), fileName_eq flat, bind,
          Except.bind, readFirst_eq_find?, found]
        exact ⟨_, rfl⟩

/-- A view is read at one and the same path, or missed, whether its name has the extension of the loader or leaves it
out, however many slashes stand in front of the name and however many dots in front of the extension. -/
theorem load_default_extension {ext name : Text} (filled : ext ≠ []) (undotted : ext.head? ≠ some '.')
    (flat : '/' ∉ ext) (bare : FilePath.Bare name) (tree : FileTree) (dirs : List Text) :
    ∀ dots slashes, ∀ view ∈ [name, name ++ '.' :: ext],
      Reads tree (ofDirectories dirs (List.replicate dots '.' ++ ext)) (List.replicate slashes '/' ++ view)
        (if ['.', '.'] ∈ Text.splitOn '/' name then none
          else firstPath? tree dirs (name.dropWhile (· = '/') ++ '.' :: ext)) := by
  intro dots slashes view member
  have loader : ofDirectories dirs (List.replicate dots '.' ++ ext) = .directories dirs ext := by
    rw [ofDirectories, Text.dropWhile_append_of_ne (fun _ dot => List.eq_of_mem_replicate dot) undotted]
  have alike : (['.', '.'] ∈ Text.splitOn '/' view ↔ ['.', '.'] ∈ Text.splitOn '/' name) ∧
      Shelf.file ext view = name.dropWhile (· = '/') ++ '.' :: ext := by
    rw [List.mem_cons, List.mem_singleton] at member
    rcases member with rfl | rfl
    · exact ⟨Iff.rfl, Shelf.file_bare bare filled⟩
    · exact ⟨bare.up_named_iff filled flat, Shelf.file_named bare flat⟩
  have reads := @reads_directories ext dirs flat tree (List.replicate slashes '/' ++ view)
  simp only [FilePath.up_slashes_iff, Shelf.file_slashes, alike] at reads
  rw [loader]
  exact reads

/-- The dots of a directory, of a hidden file and of the extension itself change nothing; the file without the
extension is passed over. -/
theorem load_default_extension_hidden :
    let ext : Text := "tar.gz"
    let name : Text := "a.b/./.x"
    let tree := FileTree.ofPaths [("v/a.b/.x", .file (some "bare")), ("w/a.b/.x.tar.gz", .file (some "named"))]
    (ext ≠ [] ∧ ext.head? ≠ some '.' ∧ '/' ∉ ext ∧ FilePath.Bare name) ∧
      (ofDirectories ["v", "w"] "..tar.gz").load tree "//a.b/./.x" = .ok "named" ∧
      (ofDirectories ["v", "w"] "tar.gz").load tree "a.b/./.x.tar.gz" = .ok "named" := by
  intro ext name tree
  have bare : FilePath.Bare name := ⟨by decide, by decide, by decide, by decide⟩
  have filled : ext ≠ [] := by decide
  have undotted : ext.head? ≠ some '.' := by decide
  have flat : '/' ∉ ext := by decide
  have reads := load_default_extension filled undotted flat bare tree ["v", "w"]
  have path : (if ['.', '.'] ∈ Text.splitOn '/' name then none
      else firstPath? tree ["v", "w"] (name.dropWhile (· = '/') ++ '.' :: ext)) = some "w/a.b/./.x.tar.gz".toList := rfl
  rw [path] at reads
  refine ⟨⟨filled, undotted, flat, bare⟩, ?_, ?_⟩
  · exact (reads 2 2 name List.mem_cons_self).2.trans rfl
  · exact (reads 0 0 (name ++ '.' :: ext) (by simp)).2.trans rfl

end Loader
end Template
end RouteView
