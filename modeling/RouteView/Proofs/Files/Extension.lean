import RouteView.Files.Path
import RouteView.Files.Tree
import RouteView.Proofs.Text.Splitting

/-!
# The last component of a path

A path that leads anywhere has a last component that does (`EndsIn`), with nothing but slashes and single dots behind
it.  The file name of the path is that component (`EndsIn.fileName_eq`), which has an extension if there is a dot in it
behind its first character (`nameExtension_isSome`); an extension is added right behind it.  `Extended` says this of
whole paths, and `extended_iff` that it is what the program computes.
-/
set_option autoImplicit false
namespace RouteView.FilePath

/-- Slashes, and single dots behind them. -/
inductive Idle : Text → Prop
  | nil : Idle []
  | slash {tail : Text} : Idle tail → Idle (tail ++ ['/'])
  | dot {tail : Text} : Idle tail → Idle (tail ++ ['/', '.'])

/-- The last component that leads on is `last`, behind a slash or at the beginning, and what follows it is idle. -/
structure EndsIn (path front last tail : Text) : Prop where
  whole : path = front ++ last ++ tail
  begins : front = [] ∨ ∃ more, front = more ++ ['/']
  plain : '/' ∉ last
  leads : FileTree.isStill last = false
  idle : Idle tail

structure Leads (reversed : Text) : Prop where
  nonempty : reversed ≠ []
  slash : ∀ rest, reversed ≠ '/' :: rest
  dot : ∀ rest, reversed ≠ '.' :: '/' :: rest
  alone : reversed ≠ ['.']

variable {path front last tail : Text}

theorem Idle.go_append (h : Idle tail) (rest : Text) : trimTail.go (tail.reverse ++ rest) = trimTail.go rest := by
  induction h with
  | nil => rfl
  | slash _ ih => simp [trimTail.go, ih]
  | dot _ ih => simp [trimTail.go, ih]

theorem Leads.go_eq {reversed : Text} (h : Leads reversed) : trimTail.go reversed = reversed := by
  unfold trimTail.go
  split
  · rfl
  · exact absurd rfl (h.slash _)
  · exact absurd rfl (h.dot _)
  · exact absurd rfl h.alone
  · rfl

theorem components_append (first second : Text) :
    FileTree.components (first ++ '/' :: second) = FileTree.components first ++ FileTree.components second := by
  rw [FileTree.components, Text.splitOn_append, List.filter_append, FileTree.components, FileTree.components]

theorem go_cases (reversed : Text) :
    (FileTree.components reversed.reverse = [] ∧ trimTail.go reversed = []) ∨
    ∃ tail, Idle tail ∧ reversed = tail.reverse ++ trimTail.go reversed ∧ Leads (trimTail.go reversed) := by
  fun_induction trimTail.go reversed with
  | case1 => exact Or.inl ⟨rfl, rfl⟩
  | case2 rest ih =>
      rcases ih with ⟨still, empty⟩ | ⟨tail, idle, whole, leads⟩
      · refine Or.inl ⟨?_, empty⟩
        rw [List.reverse_cons, components_append, still]
        rfl
      · refine Or.inr ⟨tail ++ ['/'], .slash idle, ?_, leads⟩
        rw [List.reverse_append, List.append_assoc, ← whole]
        rfl
  | case3 rest ih =>
      rcases ih with ⟨still, empty⟩ | ⟨tail, idle, whole, leads⟩
      · refine Or.inl ⟨?_, empty⟩
        rw [List.reverse_cons, List.reverse_cons, List.append_assoc]
        rw [List.singleton_append, components_append, still]
        rfl
      · refine Or.inr ⟨tail ++ ['/', '.'], .dot idle, ?_, leads⟩
        rw [List.reverse_append, List.append_assoc, ← whole]
        rfl
  | case4 => exact Or.inl ⟨rfl, rfl⟩
  | case5 rest nonempty slash dot alone => exact Or.inr ⟨[], .nil, rfl, nonempty, slash, dot, alone⟩

theorem isStill_eq_false {part : Text} : FileTree.isStill part = false ↔ part ≠ [] ∧ part ≠ ['.'] := by
  simp [FileTree.isStill]

theorem EndsIn.leads_reverse (h : EndsIn path front last tail) : Leads (last.reverse ++ front.reverse) := by
  obtain ⟨nonempty, undotted⟩ := isStill_eq_false.mp h.leads
  have plain : ∀ c ∈ last.reverse, c ≠ '/' := fun c member slash => h.plain (slash ▸ List.mem_reverse.mp member)
  have undotted : last.reverse ≠ ['.'] := fun dot => undotted (List.reverse_eq_iff.mp dot)
  cases back : last.reverse with
  | nil => exact absurd (List.reverse_eq_nil_iff.mp back) nonempty
  | cons c more =>
      rw [back] at plain undotted
      have first : c ≠ '/' := plain c List.mem_cons_self
      cases more with
      | nil =>
          have dot : c ≠ '.' := fun dot => undotted (congrArg (fun c => [c]) dot)
          exact ⟨by simp, by simp [first], by simp [dot], by simp [dot]⟩
      | cons d more =>
          have second : d ≠ '/' := plain d (by simp)
          exact ⟨by simp, by simp [first], by simp [second], by simp⟩

theorem EndsIn.trimTail_eq (h : EndsIn path front last tail) : trimTail path = front ++ last := by
  rw [trimTail, h.whole, List.reverse_append, h.idle.go_append, List.reverse_append, h.leads_reverse.go_eq,
    List.reverse_append, List.reverse_reverse, List.reverse_reverse]

theorem dropWhile_cases (text : Text) :
    text.dropWhile (· ≠ '/') = [] ∨ ∃ rest, text.dropWhile (· ≠ '/') = '/' :: rest := by
  have first := List.head?_dropWhile_not (fun c : Char => decide (c ≠ '/')) text
  cases behind : text.dropWhile (· ≠ '/') with
  | nil => exact Or.inl rfl
  | cons c rest =>
      rw [behind] at first
      have slash : c = '/' := by simpa using first
      exact Or.inr ⟨rest, by rw [slash]⟩

theorem Leads.endsIn {reversed : Text} (h : Leads reversed) (idle : Idle tail) :
    EndsIn (reversed.reverse ++ tail) (reversed.dropWhile (· ≠ '/')).reverse
      (reversed.takeWhile (· ≠ '/')).reverse tail where
  whole := by rw [← List.reverse_append, List.takeWhile_append_dropWhile]
  begins := by
    rcases dropWhile_cases reversed with nothing | ⟨rest, behind⟩
    · exact Or.inl (by rw [nothing]; rfl)
    · exact Or.inr ⟨rest.reverse, by rw [behind, List.reverse_cons]⟩
  plain member := by
    have other := List.all_eq_true.mp List.all_takeWhile '/' (List.mem_reverse.mp member)
    exact absurd rfl (of_decide_eq_true other)
  leads := by
    rw [isStill_eq_false]
    constructor
    · intro none
      cases reversed with
      | nil => exact h.nonempty rfl
      | cons c rest =>
          have other : c ≠ '/' := fun slash => h.slash rest (by rw [slash])
          simp [other] at none
    · intro dot
      have whole : reversed.takeWhile (· ≠ '/') ++ reversed.dropWhile (· ≠ '/') = reversed :=
        List.takeWhile_append_dropWhile
      rw [List.reverse_eq_iff.mp dot] at whole
      rcases dropWhile_cases reversed with nothing | ⟨rest, behind⟩
      · exact h.alone (by rw [← whole, nothing]; rfl)
      · exact h.dot rest (by rw [← whole, behind]; rfl)
  idle := idle

/-- Every path that leads anywhere ends in a component that does. -/
theorem exists_endsIn (path : Text) : (FileTree.components path = [] ∧ trimTail path = []) ∨
    ∃ front last tail, EndsIn path front last tail := by
  rcases go_cases path.reverse with ⟨still, empty⟩ | ⟨tail, idle, whole, leads⟩
  · rw [List.reverse_reverse] at still
    exact Or.inl ⟨still, by rw [trimTail, empty]; rfl⟩
  · have parts := congrArg List.reverse whole
    rw [List.reverse_reverse, List.reverse_append, List.reverse_reverse] at parts
    have ends := leads.endsIn idle
    rw [← parts] at ends
    exact Or.inr ⟨_, _, tail, ends⟩

theorem Idle.cases_head (h : Idle tail) : tail = [] ∨ ∃ more, tail = '/' :: more := by
  induction h with
  | nil => exact Or.inl rfl
  | slash _ ih =>
      rcases ih with rfl | ⟨more, rfl⟩
      · exact Or.inr ⟨[], rfl⟩
      · exact Or.inr ⟨more ++ ['/'], rfl⟩
  | dot _ ih =>
      rcases ih with rfl | ⟨more, rfl⟩
      · exact Or.inr ⟨['.'], rfl⟩
      · exact Or.inr ⟨more ++ ['/', '.'], rfl⟩

theorem EndsIn.mem_components (h : EndsIn path front last tail) : last ∈ FileTree.components path := by
  have alone : FileTree.components last = [last] := by
    rw [FileTree.components, Text.splitOn_of_not_mem h.plain]
    simp [h.leads]
  have behind : last ∈ FileTree.components (front ++ last) := by
    rcases h.begins with rfl | ⟨more, rfl⟩
    · rw [List.nil_append, alone]
      exact List.mem_singleton_self last
    · rw [List.append_assoc, List.singleton_append, components_append, alone]
      exact List.mem_append_right _ (List.mem_singleton_self last)
  rw [h.whole]
  rcases h.idle.cases_head with rfl | ⟨more, rfl⟩
  · rwa [List.append_nil]
  · rw [components_append]
    exact List.mem_append_left _ behind

theorem EndsIn.fileName_eq (h : EndsIn path front last tail) :
    fileName path = if last = ['.', '.'] then none else some last := by
  have nonempty := (isStill_eq_false.mp h.leads).1
  have before : front.reverse.takeWhile (· ≠ '/') = [] := by
    rcases h.begins with rfl | ⟨more, rfl⟩
    · rfl
    · simp
  have all : ∀ c ∈ last.reverse, decide (c ≠ '/') = true := fun c member =>
    decide_eq_true fun slash => h.plain (slash ▸ List.mem_reverse.mp member)
  have name : ((trimTail path).reverse.takeWhile (· ≠ '/')).reverse = last := by
    rw [h.trimTail_eq, List.reverse_append, List.takeWhile_append_of_pos all, before, List.append_nil,
      List.reverse_reverse]
  simp only [fileName, name, nonempty, false_or]

theorem fileName_of_still (still : FileTree.components path = []) : fileName path = none := by
  rcases exists_endsIn path with ⟨-, empty⟩ | ⟨front, last, tail, ends⟩
  · simp [fileName, empty]
  · have member := ends.mem_components
    rw [still] at member
    cases member

/-- A name has an extension if there is a dot in it other than its first character. -/
theorem nameExtension_isSome {name : Text} : (nameExtension name).isSome = true ↔ '.' ∈ name.tail := by
  have longer : (nameExtension name).isSome = true ↔
      (name.reverse.takeWhile (· ≠ '.')).length + 1 < name.length := by
    rw [nameExtension]
    split <;> simp_all
  rw [longer]
  cases name with
  | nil => decide
  | cons c rest =>
      have size : (c :: rest).length = rest.reverse.length + 1 := by simp
      rw [size, List.reverse_cons, List.tail_cons, ← List.mem_reverse]
      by_cases member : '.' ∈ rest.reverse
      · obtain ⟨after, before, reversed, plain⟩ := List.eq_append_cons_of_mem member
        have pass : ∀ c ∈ after, decide (c ≠ '.') = true :=
          fun c member => decide_eq_true fun dot => plain (dot ▸ member)
        have stops : (rest.reverse ++ [c]).takeWhile (· ≠ '.') = after := by
          rw [reversed, List.append_assoc, List.takeWhile_append_of_pos pass, List.cons_append]
          simp
        rw [stops, reversed]
        simp
      · have pass : ∀ c ∈ rest.reverse, decide (c ≠ '.') = true :=
          fun c found => decide_eq_true fun dot => member (dot ▸ found)
        rw [List.takeWhile_append_of_pos pass, List.length_append]
        simp only [member, iff_false]
        omega

/-- The path with the extension behind its last component, unless there is one already. -/
inductive Extended (ext path : Text) : Text → Prop
  | off : ext = [] → Extended ext path path
  | still : FileTree.components path = [] → Extended ext path path
  | dotted {front last tail : Text} : EndsIn path front last tail → '.' ∈ last.tail → Extended ext path path
  | bare {front last tail : Text} : EndsIn path front last tail → ext ≠ [] → '.' ∉ last.tail →
      Extended ext path (front ++ last ++ '.' :: ext)

/-- Two dots are no file name, which comes to the same as a name with an extension. -/
theorem EndsIn.addExtension_eq (h : EndsIn path front last tail) (ext : Text) :
    (if ext = [] ∨ (extension path).isSome then path else addExtension ext path) =
      if ext = [] ∨ '.' ∈ last.tail then path else front ++ last ++ '.' :: ext := by
  rw [extension, addExtension, h.fileName_eq, h.trimTail_eq]
  by_cases up : last = ['.', '.']
  · have dotted : '.' ∈ last.tail := by rw [up]; decide
    rw [if_pos up, if_pos (Or.inr dotted), ite_self]
  · simp only [if_neg up, Option.bind_some, nameExtension_isSome]

theorem extended_iff {ext file : Text} : Extended ext path file ↔
    file = if ext = [] ∨ (extension path).isSome then path else addExtension ext path := by
  constructor
  · intro extended
    cases extended with
    | off empty => rw [if_pos (Or.inl empty)]
    | still nothing => rw [addExtension, fileName_of_still nothing, ite_self]
    | dotted ends dot => rw [ends.addExtension_eq, if_pos (Or.inr dot)]
    | bare ends nonempty plain => rw [ends.addExtension_eq, if_neg (not_or.mpr ⟨nonempty, plain⟩)]
  · rintro rfl
    by_cases off : ext = []
    · rw [if_pos (Or.inl off)]
      exact .off off
    rcases exists_endsIn path with ⟨nothing, -⟩ | ⟨front, last, tail, ends⟩
    · rw [addExtension, fileName_of_still nothing, ite_self]
      exact .still nothing
    · rw [ends.addExtension_eq]
      by_cases dot : '.' ∈ last.tail
      · rw [if_pos (Or.inr dot)]
        exact .dotted ends dot
      · rw [if_neg (not_or.mpr ⟨off, dot⟩)]
        exact .bare ends off dot

/-- The dot that begins a name is not behind it, and what comes after the name is lost. -/
example : Extended "html" "a/.x/." "a/.x.html" := extended_iff.mpr rfl

end RouteView.FilePath
