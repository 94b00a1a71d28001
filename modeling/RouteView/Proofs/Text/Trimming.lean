import Mathlib.Data.List.TakeWhile
import RouteView.Text.Blank

/-!
# White space around a text

Trimming takes the white space off both ends and nothing else: it leaves a text without white space at its ends
(`trimmed_trim`), which comes back from any white space around it (`trim_padded`).
-/
set_option autoImplicit false
namespace RouteView.Text

def IsGap (text : Text) : Prop := ∀ c ∈ text, isBlank c = true

def Trimmed (text : Text) : Prop := (∀ c ∈ text.head?, isBlank c = false) ∧ ∀ c ∈ text.getLast?, isBlank c = false

variable {before after name : Text}

theorem head?_dropWhile_ne (c : Char) (text : Text) : (text.dropWhile (· = c)).head? ≠ some c := by
  intro first
  have other := List.head?_dropWhile_not (· = c) text
  rw [first] at other
  simp at other

/-- Leading characters do not count. -/
theorem dropWhile_append_of_ne {c : Char} {front text : Text} (same : ∀ d ∈ front, d = c) (other : text.head? ≠ some c) :
    (front ++ text).dropWhile (· = c) = text := by
  rw [List.dropWhile_append_of_pos (by simpa using same)]
  cases text with
  | nil => rfl
  | cons d rest => exact List.dropWhile_cons_of_neg (by simpa using other)

theorem dropWhile_replicate (c : Char) (n : Nat) (text : Text) :
    (List.replicate n c ++ text).dropWhile (· = c) = text.dropWhile (· = c) :=
  List.dropWhile_append_of_pos fun _ member => decide_eq_true (List.eq_of_mem_replicate member)

/-- What may be dropped in front of a text ends where the text begins, if that begins with something else. -/
theorem dropWhile_append_other {c : Char} {front text : Text} (other : text.head? ≠ some c) :
    (front ++ text).dropWhile (· = c) = front.dropWhile (· = c) ++ text := by
  have kept : text.dropWhile (· = c) = text := @dropWhile_append_of_ne c [] text nofun other
  rw [List.dropWhile_append, kept]
  split
  · next empty => rw [List.isEmpty_iff.mp empty, List.nil_append]
  · rfl

theorem trimStart_append (gap : IsGap before) (rest : Text) : trimStart (before ++ rest) = trimStart rest :=
  List.dropWhile_append_of_pos gap

theorem trimEnd_append (gap : IsGap after) (front : Text) : trimEnd (front ++ after) = trimEnd front := by
  have reversed : IsGap after.reverse := fun c member => gap c (List.mem_reverse.mp member)
  rw [trimEnd, List.reverse_append, trimStart_append reversed, trimEnd]

theorem trimStart_eq_self {text : Text} (first : ∀ c ∈ text.head?, isBlank c = false) : trimStart text = text := by
  cases text with
  | nil => rfl
  | cons c rest => exact List.dropWhile_cons_of_neg (by simp [first c rfl])

theorem trimEnd_eq_self {text : Text} (last : ∀ c ∈ text.getLast?, isBlank c = false) : trimEnd text = text := by
  rw [trimEnd, trimStart_eq_self (by simpa using last), List.reverse_reverse]

theorem trim_gap (gap : IsGap before) : trim before = [] := by
  have nothing := trimStart_append gap []
  rw [List.append_nil] at nothing
  rw [trim, nothing]
  rfl

theorem trim_padded (front : IsGap before) (back : IsGap after) (trimmed : Trimmed name) :
    trim (before ++ name ++ after) = name := by
  cases name with
  | nil =>
      rw [List.append_nil]
      exact trim_gap fun c member => (List.mem_append.mp member).elim (front c) (back c)
  | cons c rest =>
      have stays : trimStart (c :: rest ++ after) = c :: rest ++ after := trimStart_eq_self trimmed.1
      rw [trim, List.append_assoc, trimStart_append front, stays, trimEnd_append back, trimEnd_eq_self trimmed.2]

theorem exists_trimStart (text : Text) : ∃ gap, IsGap gap ∧ text = gap ++ trimStart text :=
  ⟨text.takeWhile isBlank, fun _ member => List.mem_takeWhile_imp member, List.takeWhile_append_dropWhile.symm⟩

theorem exists_trimEnd (text : Text) : ∃ gap, IsGap gap ∧ text = trimEnd text ++ gap := by
  obtain ⟨gap, blank, whole⟩ := exists_trimStart text.reverse
  refine ⟨gap.reverse, fun c member => blank c (List.mem_reverse.mp member), ?_⟩
  rw [trimEnd, ← List.reverse_append, ← whole, List.reverse_reverse]

theorem trimmed_trim (text : Text) : Trimmed (trim text) := by
  refine ⟨fun c first => ?_, getLast?_trimEnd _⟩
  obtain ⟨gap, _, whole⟩ := exists_trimEnd (trimStart text)
  refine head?_trimStart text c ?_
  rw [whole]
  cases left : trimEnd (trimStart text) with
  | nil => rw [trim, left] at first; cases first
  | cons d rest => rwa [trim, left] at first

theorem exists_padding (text : Text) :
    ∃ before after, IsGap before ∧ IsGap after ∧ text = before ++ trim text ++ after := by
  obtain ⟨before, front, start⟩ := exists_trimStart text
  obtain ⟨after, back, rest⟩ := exists_trimEnd (trimStart text)
  refine ⟨before, after, front, back, ?_⟩
  rw [trim, List.append_assoc, ← rest, ← start]

end RouteView.Text
