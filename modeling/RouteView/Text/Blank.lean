import RouteView.Text.Basic

/-!
# White space

The characters with the Unicode property White_Space, and removing them from the ends of a text.
`head?_trimStart` and `getLast?_trimEnd` say that none is left there.
-/
set_option autoImplicit false
namespace RouteView.Text

/-- The Unicode property White_Space. -/
def isBlank (c : Char) : Bool :=
  let n := c.toNat
  (9 ≤ n && n ≤ 13) || n == 0x20 || n == 0x85 || n == 0xA0 || n == 0x1680 ||
  (0x2000 ≤ n && n ≤ 0x200A) || n == 0x2028 || n == 0x2029 || n == 0x202F || n == 0x205F || n == 0x3000

def trimStart (text : Text) : Text := text.dropWhile isBlank

def trimEnd (text : Text) : Text := (trimStart text.reverse).reverse

def trim (text : Text) : Text := trimEnd (trimStart text)

theorem head?_trimStart (text : Text) : ∀ c ∈ (trimStart text).head?, isBlank c = false := by
  induction text with
  | nil => simp [trimStart]
  | cons d rest ih =>
      simp only [trimStart, List.dropWhile_cons] at ih ⊢
      by_cases h : isBlank d = true
      · rw [if_pos h]; exact ih
      · rw [if_neg h]
        intro c hc
        simp only [List.head?_cons, Option.mem_def, Option.some.injEq] at hc
        subst hc
        simpa using h

theorem getLast?_trimEnd (text : Text) : ∀ c ∈ (trimEnd text).getLast?, isBlank c = false := by
  simpa [trimEnd] using head?_trimStart text.reverse

end RouteView.Text
