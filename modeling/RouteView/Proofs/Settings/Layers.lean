import RouteView.Proofs.Text.Splitting
import RouteView.Proofs.Text.Trimming
import RouteView.Settings.Environment

/-!
# Settings in layers

Variables of the environment lie over the settings of a file.  Each variable decides one setting: what its text says if
it is set, and what lies below otherwise (`Overridden`, `Layered`, `layered_override`); it decides no other one
(`override_congr`).  The list of view directories is read from between commas, where white space and empty items do
not count (`splitDirs_join`).
-/
set_option autoImplicit false
namespace RouteView.Settings

/-! ## Lists of directories -/

def IsDirName (name : Text) : Prop := name ≠ [] ∧ ',' ∉ name ∧ Text.Trimmed name

/-- What the items of a list name: white space nothing, any other item the name between its white space. -/
inductive Names : List Text → List Text → Prop
  | nil : Names [] []
  | gap {gap : Text} {items dirs : List Text} : Text.IsGap gap → Names items dirs → Names (gap :: items) dirs
  | name {before name after : Text} {items dirs : List Text} : Text.IsGap before → Text.IsGap after →
      Names items dirs → Names ((before ++ name ++ after) :: items) (name :: dirs)

theorem Names.trimmed {items dirs : List Text} (h : Names items dirs) (named : ∀ dir ∈ dirs, IsDirName dir) :
    (items.map Text.trim).filter (· ≠ []) = dirs := by
  induction h with
  | nil => rfl
  | gap blank _ ih =>
      rw [List.map_cons, Text.trim_gap blank, List.filter_cons_of_neg (by simp), ih named]
  | name front back _ ih =>
      rw [List.forall_mem_cons] at named
      obtain ⟨⟨nonempty, _, trimmed⟩, later⟩ := named
      rw [List.map_cons, Text.trim_padded front back trimmed, List.filter_cons_of_pos (by simpa using nonempty),
        ih later]

theorem comma_not_mem_gap {gap : Text} (blank : Text.IsGap gap) : ',' ∉ gap :=
  fun member => absurd (blank ',' member) (by decide)

theorem Names.plain {items dirs : List Text} (h : Names items dirs) (named : ∀ dir ∈ dirs, IsDirName dir) :
    ∀ item ∈ items, ',' ∉ item := by
  induction h with
  | nil => exact List.forall_mem_nil _
  | gap blank _ ih => exact List.forall_mem_cons.mpr ⟨comma_not_mem_gap blank, ih named⟩
  | name front back _ ih =>
      rw [List.forall_mem_cons] at named
      obtain ⟨⟨_, plain, _⟩, later⟩ := named
      refine List.forall_mem_cons.mpr ⟨?_, ih later⟩
      simp [comma_not_mem_gap front, comma_not_mem_gap back, plain]

theorem splitDirs_join {items dirs : List Text} (h : Names items dirs) (named : ∀ dir ∈ dirs, IsDirName dir) :
    splitDirs (Text.join [','] items) = dirs := by
  cases items with
  | nil =>
      cases h
      rfl
  | cons item rest =>
      rw [splitDirs, Text.splitOn_pieces (List.cons_ne_nil item rest) (h.plain named), h.trimmed named]

/-- White space alone is no directory, and a name keeps what is inside of it. -/
example : splitDirs " a b,, ,\tc " = ["a b".toList, "c".toList] := by decide

/-- Every text is a list of names. -/
theorem names_splitDirs (text : Text) :
    Names (Text.splitOn ',' text) (splitDirs text) ∧ ∀ dir ∈ splitDirs text, IsDirName dir := by
  have general : ∀ items : List Text, (∀ item ∈ items, ',' ∉ item) →
      Names items ((items.map Text.trim).filter (· ≠ [])) ∧
        ∀ dir ∈ (items.map Text.trim).filter (· ≠ []), IsDirName dir := by
    intro items
    induction items with
    | nil => exact fun _ => ⟨.nil, List.forall_mem_nil _⟩
    | cons item rest ih =>
        intro plain
        rw [List.forall_mem_cons] at plain
        obtain ⟨names, named⟩ := ih plain.2
        obtain ⟨before, after, front, back, whole⟩ := Text.exists_padding item
        by_cases empty : Text.trim item = []
        · rw [List.map_cons, List.filter_cons_of_neg (by simpa using empty)]
          refine ⟨.gap ?_ names, named⟩
          rw [whole, empty, List.append_nil]
          exact fun c member => (List.mem_append.mp member).elim (front c) (back c)
        · rw [List.map_cons, List.filter_cons_of_pos (by simpa using empty)]
          refine ⟨?_, List.forall_mem_cons.mpr ⟨⟨empty, ?_, Text.trimmed_trim item⟩, named⟩⟩
          · have padded : Names ((before ++ Text.trim item ++ after) :: rest) _ := .name front back names
            rwa [← whole] at padded
          · intro comma
            refine plain.1 ?_
            rw [whole]
            simp [comma]
  exact general _ Text.not_mem_of_mem_splitOn

/-! ## Variables over a file -/

/-- The value of a setting in a layer: what the layer gives means it, or else the value below stays. -/
def Overridden {α β : Type} (given : Option β) (means : β → α → Prop) (below value : α) : Prop :=
  match given with
  | some b => means b value
  | none => value = below

structure Layered (env : Environment) (below s : Settings) : Prop where
  debug : Overridden (env "TRELLIS_DEBUG")
    (fun word on => on = true ↔ Text.toLower word ∈ ["true".toList, "1".toList, "yes".toList]) below.debug s.debug
  bindAddress : Overridden (env "TRELLIS_BIND_ADDRESS") (fun text address => address = text)
    below.bindAddress s.bindAddress
  viewDirs : Overridden (env "TRELLIS_VIEW_DIRS")
    (fun text dirs => ∃ items, text = Text.join [','] items ∧ Names items dirs ∧ ∀ dir ∈ dirs, IsDirName dir)
    below.viewDirs s.viewDirs
  /-- Dots in front of the extension do not count. -/
  viewExtension : Overridden (env "TRELLIS_VIEW_EXTENSION")
    (fun text extension => ∃ dots, text = dots ++ extension ∧ (∀ c ∈ dots, c = '.') ∧ extension.head? ≠ some '.')
    below.viewExtension s.viewExtension
  /-- An empty name stands for no layout. -/
  layout : Overridden (env "TRELLIS_LAYOUT") (fun text layout => layout = if text = [] then none else some text)
    below.layout s.layout
  autoEscape : s.autoEscape = below.autoEscape
  logLevel : Overridden (env "TRELLIS_LOG_LEVEL") (fun text level => level = text) below.logLevel s.logLevel

def overridable : List (Text × Text) :=
  [("bind_address", "TRELLIS_BIND_ADDRESS"), ("debug", "TRELLIS_DEBUG"), ("layout", "TRELLIS_LAYOUT"),
    ("log_level", "TRELLIS_LOG_LEVEL"), ("view_dirs", "TRELLIS_VIEW_DIRS"),
    ("view_extension", "TRELLIS_VIEW_EXTENSION")]

section Overridden
variable {α β : Type} {given : Option β} {means : β → α → Prop} {below value other : α}

theorem overridden_map {read : β → α} (reads : ∀ b, means b (read b)) :
    Overridden given means below ((given.map read).getD below) := by
  cases given with
  | none => rfl
  | some b => exact reads b

theorem Overridden.unique (decides : ∀ b v w, means b v → means b w → v = w)
    (first : Overridden given means below value) (second : Overridden given means below other) : value = other := by
  cases given with
  | none => exact first.trans second.symm
  | some b => exact decides b value other first second

/-- A value that is overridden stays when it is overridden again. -/
theorem Overridden.again (h : Overridden given means below value) : Overridden given means value value := by
  cases given with
  | none => rfl
  | some b => exact h

end Overridden

theorem isYes_iff (word : Text) :
    isYes word = true ↔ Text.toLower word ∈ ["true".toList, "1".toList, "yes".toList] := by
  simp [isYes, or_assoc]

theorem exists_dots (text : Text) : ∃ dots, text = dots ++ text.dropWhile (· = '.') ∧ (∀ c ∈ dots, c = '.') ∧
    (text.dropWhile (· = '.')).head? ≠ some '.' := by
  refine ⟨text.takeWhile (· = '.'), List.takeWhile_append_dropWhile.symm, fun c member => ?_,
    Text.head?_dropWhile_ne '.' text⟩
  simpa using List.mem_takeWhile_imp member

theorem layered_override (below : Settings) (env : Environment) : Layered env below (below.override env) where
  debug := overridden_map isYes_iff
  bindAddress := by
    rw [override]
    cases env "TRELLIS_BIND_ADDRESS" <;> rfl
  viewDirs := overridden_map fun text =>
    ⟨Text.splitOn ',' text, (Text.splitOn_join ',' text).symm, names_splitDirs text⟩
  viewExtension := overridden_map exists_dots
  layout := by
    rw [override]
    cases env "TRELLIS_LAYOUT" with
    | none => rfl
    | some text => cases text <;> rfl
  autoEscape := rfl
  logLevel := by
    rw [override]
    cases env "TRELLIS_LOG_LEVEL" <;> rfl

/-- The variables and what lies below decide all settings. -/
theorem Layered.unique {env : Environment} {below s t : Settings} (first : Layered env below s)
    (second : Layered env below t) : s = t := by
  have debug : s.debug = t.debug := first.debug.unique (fun word v w hv hw => Bool.eq_iff_iff.mpr (hv.trans hw.symm))
    second.debug
  have bindAddress : s.bindAddress = t.bindAddress :=
    first.bindAddress.unique (fun _ _ _ hv hw => hv.trans hw.symm) second.bindAddress
  have viewDirs : s.viewDirs = t.viewDirs := by
    refine first.viewDirs.unique (fun text v w hv hw => ?_) second.viewDirs
    obtain ⟨items, rfl, names, named⟩ := hv
    obtain ⟨others, same, names', named'⟩ := hw
    rw [← splitDirs_join names named, same, splitDirs_join names' named']
  have viewExtension : s.viewExtension = t.viewExtension := by
    refine first.viewExtension.unique (fun text v w hv hw => ?_) second.viewExtension
    obtain ⟨dots, rfl, dotted, plain⟩ := hv
    obtain ⟨others, same, dotted', plain'⟩ := hw
    rw [← Text.dropWhile_append_of_ne dotted plain, same, Text.dropWhile_append_of_ne dotted' plain']
  have layout : s.layout = t.layout :=
    first.layout.unique (fun _ _ _ hv hw => hv.trans hw.symm) second.layout
  have autoEscape : s.autoEscape = t.autoEscape := first.autoEscape.trans second.autoEscape.symm
  have logLevel : s.logLevel = t.logLevel :=
    first.logLevel.unique (fun _ _ _ hv hw => hv.trans hw.symm) second.logLevel
  cases s
  cases t
  simp_all

theorem override_override (s : Settings) (env : Environment) : (s.override env).override env = s.override env := by
  have once := layered_override s env
  have again : Layered env (s.override env) (s.override env) :=
    ⟨once.debug.again, once.bindAddress.again, once.viewDirs.again, once.viewExtension.again, once.layout.again,
      rfl, once.logLevel.again⟩
  exact (layered_override (s.override env) env).unique again

/-- A setting depends on its own variable and on no other one. -/
theorem override_congr (below : Settings) {env other : Environment} {key name : Text}
    (entry : (key, name) ∈ overridable) (same : env name = other name) :
    (below.override env).toData.get? key = (below.override other).toData.get? key := by
  simp only [overridable, List.mem_cons, List.not_mem_nil, or_false, Prod.mk.injEq] at entry
  rcases entry with ⟨rfl, rfl⟩ | ⟨rfl, rfl⟩ | ⟨rfl, rfl⟩ | ⟨rfl, rfl⟩ | ⟨rfl, rfl⟩ | ⟨rfl, rfl⟩ <;>
    (simp only [override, same]; rfl)

end RouteView.Settings
