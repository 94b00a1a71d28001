/-!
# Text as a list of characters

All text of the library is a list of characters, so that concatenation, prefixes and positions are
those of lists.  A literal in double quotes stands for its list.  `splitOn` cuts at every occurrence of
a character and `cutAt` at the first one; `splitOn_join` says that nothing but the separators is lost.
-/
set_option autoImplicit false
namespace RouteView

/-- A text is the list of its characters. -/
abbrev Text := List Char

instance : Coe String Text := ⟨String.toList⟩

namespace Text

/-- The number of bytes of the UTF-8 form. -/
def byteLength : Text → Nat
  | [] => 0
  | c :: rest => c.utf8Size + byteLength rest

theorem byteLength_append (first second : Text) :
    byteLength (first ++ second) = byteLength first + byteLength second := by
  induction first with
  | nil => rw [List.nil_append, byteLength, Nat.zero_add]
  | cons c first ih => rw [List.cons_append, byteLength, byteLength, ih, Nat.add_assoc]

def ofNat (n : Nat) : Text := Nat.toDigits 10 n

/-- The decimal text of an integer, with a sign only when it is negative. -/
def ofInt : Int → Text
  | .ofNat n => ofNat n
  | .negSucc n => '-' :: ofNat (n + 1)

/-- The pieces between the occurrences of `sep`; there is always one more piece than there are
separators. -/
def splitOn (sep : Char) : Text → List Text
  | [] => [[]]
  | c :: rest =>
      if c = sep then [] :: splitOn sep rest
      else match splitOn sep rest with
        | [] => [[c]]
        | piece :: pieces => (c :: piece) :: pieces

/-- The pieces with `sep` between neighbours. -/
def join (sep : Text) : List Text → Text
  | [] => []
  | [piece] => piece
  | piece :: pieces => piece ++ sep ++ join sep pieces

/-- The texts before and after the first `sep`, if there is one. -/
def cutAt (sep : Char) : Text → Option (Text × Text)
  | [] => none
  | c :: rest =>
      if c = sep then some ([], rest)
      else (cutAt sep rest).map fun (before, after) => (c :: before, after)

/-- The text before the first `sep`; all of it when there is none. -/
def before (sep : Char) (text : Text) : Text := text.takeWhile (· ≠ sep)

theorem before_eq_self {sep : Char} {text : Text} (h : sep ∉ text) : before sep text = text := by
  induction text with
  | nil => rfl
  | cons c rest ih =>
      rw [List.mem_cons, not_or] at h
      have hc := ih h.2
      unfold before at hc ⊢
      rw [List.takeWhile_cons_of_pos (by simpa using Ne.symm h.1), hc]

theorem before_eq_cutAt (sep : Char) (text : Text) : before sep text = (cutAt sep text).elim text Prod.fst := by
  induction text with
  | nil => rfl
  | cons c rest ih =>
      unfold before at ih ⊢
      by_cases same : c = sep
      · simp [cutAt, same]
      · rw [List.takeWhile_cons_of_pos (by simpa using same), ih, cutAt, if_neg same]
        cases cutAt sep rest with
        | none => rfl
        | some cut => rfl

theorem splitOn_ne_nil (sep : Char) (text : Text) : splitOn sep text ≠ [] := by
  cases text with
  | nil => simp [splitOn]
  | cons c rest =>
      simp only [splitOn]
      split
      · simp
      · split <;> simp

theorem splitOn_join (sep : Char) (text : Text) : join [sep] (splitOn sep text) = text := by
  induction text with
  | nil => rfl
  | cons c rest ih =>
      simp only [splitOn]
      by_cases h : c = sep
      · rw [if_pos h]
        cases hs : splitOn sep rest with
        | nil => exact absurd hs (splitOn_ne_nil sep rest)
        | cons piece pieces => rw [hs] at ih; simp [join, ih, h]
      · rw [if_neg h]
        cases hs : splitOn sep rest with
        | nil => exact absurd hs (splitOn_ne_nil sep rest)
        | cons piece pieces =>
            rw [hs] at ih
            cases pieces with
            | nil => simpa [join] using ih
            | cons next more => simp only [join, List.cons_append] at ih ⊢; rw [ih]

theorem cutAt_eq_some {sep : Char} {text first rest : Text} (h : cutAt sep text = some (first, rest)) :
    text = first ++ sep :: rest ∧ sep ∉ first := by
  induction text generalizing first with
  | nil => simp [cutAt] at h
  | cons c tail ih =>
      simp only [cutAt] at h
      by_cases hc : c = sep
      · rw [if_pos hc] at h
        simp only [Option.some.injEq, Prod.mk.injEq] at h
        obtain ⟨rfl, rfl⟩ := h
        simp [hc]
      · rw [if_neg hc] at h
        obtain ⟨⟨b, a⟩, hb, he⟩ := Option.map_eq_some_iff.mp h
        simp only [Prod.mk.injEq] at he
        obtain ⟨rfl, rfl⟩ := he
        obtain ⟨rfl, hn⟩ := ih hb
        exact ⟨rfl, by simp [hn, Ne.symm hc]⟩

end Text
end RouteView
