import RouteView.Settings.Loading

/-!
# Reading back what was written

The JSON text of a value is read as that value again, whatever follows it (`ReadsBack`): for null, truth values and
texts, for arrays of values that are read back, and for objects with such values, whose names then stand in ascending
order.  The fuel of the reader never runs out, since every step of it takes at least one character.
-/
set_option autoImplicit false
namespace RouteView.Value

/-! ## Strings -/

theorem hexValue_digitChar {d : Nat} (h : d < 16) : hexValue (Nat.digitChar d) = some d := by
  have all : ∀ d < 16, hexValue (Nat.digitChar d) = some d := by decide
  exact all d h

theorem readHex_hexPair {n : Nat} (h : n < 0x20) (rest : Text) :
    readHex ('0' :: '0' :: (hexPair n ++ rest)) = some (n, rest) := by
  have high : hexValue (Nat.digitChar (n / 16)) = some (n / 16) := hexValue_digitChar (by omega)
  have low : hexValue (Nat.digitChar (n % 16)) = some (n % 16) := hexValue_digitChar (by omega)
  have zero : hexValue '0' = some 0 := by decide
  simp only [hexPair, List.cons_append, List.nil_append, readHex, zero, high, low]
  have whole : (0 * 16 + 0) * 256 + n / 16 * 16 + n % 16 = n := by omega
  simp only [Option.bind_eq_bind, Option.bind_some, whole]

theorem readUnits_hexPair {c : Char} (h : c.toNat < 0x20) (rest : Text) :
    readUnits ('0' :: '0' :: (hexPair c.toNat ++ rest)) = some (c, rest) := by
  have low : ¬ (0xD800 ≤ c.toNat ∧ c.toNat < 0xDC00) := by omega
  have high : ¬ (0xDC00 ≤ c.toNat ∧ c.toNat < 0xE000) := by omega
  simp only [readUnits, readHex_hexPair h, Option.bind_eq_bind, Option.bind_some, if_neg low, if_neg high,
    Char.ofNat_toNat]

theorem readString_jsonChar (c : Char) (seen rest : Text) (fuel : Nat) :
    readString seen (fuel + 1) (jsonChar c ++ rest) = readString (c :: seen) fuel rest := by
  rw [jsonChar]
  split
  · next same => subst same; rfl
  split
  · next same => subst same; rfl
  split
  · next same => subst same; rfl
  split
  · next same => subst same; rfl
  split
  · next same => subst same; rfl
  split
  · next same => subst same; rfl
  split
  · next same => subst same; rfl
  split
  · next control =>
      simp only [List.cons_append, List.nil_append, readString, readEscape]
      rw [readUnits_hexPair control]
      rfl
  · next quote back _ _ _ _ _ plain =>
      rw [List.singleton_append, readString.eq_3 _ _ _ _ quote back, if_neg plain]

theorem readString_jsonText (text rest : Text) : ∀ (seen : Text) (fuel : Nat), text.length ≤ fuel →
    readString seen fuel (text.flatMap jsonChar ++ '"' :: rest) = some (seen.reverse ++ text, rest) := by
  induction text with
  | nil =>
      intro seen fuel _
      rw [List.append_nil]
      cases fuel <;> rfl
  | cons c text ih =>
      intro seen fuel enough
      cases fuel with
      | zero => cases enough
      | succ fuel =>
          rw [List.flatMap_cons, List.append_assoc, readString_jsonChar, ih _ _ (Nat.le_of_succ_le_succ enough),
            List.reverse_cons, List.append_assoc, List.singleton_append]

theorem length_le_flatMap_jsonChar (text : Text) : text.length ≤ (text.flatMap jsonChar).length := by
  induction text with
  | nil => exact Nat.le_refl 0
  | cons c text ih =>
      have one : 1 ≤ (jsonChar c).length := by
        rw [jsonChar]
        repeat' split
        all_goals simp
      rw [List.flatMap_cons, List.length_append, List.length_cons]
      omega

/-- The string after its opening quote, read with as much fuel as there is text. -/
theorem readString_whole (text rest : Text) :
    readString [] (text.flatMap jsonChar ++ '"' :: rest).length (text.flatMap jsonChar ++ '"' :: rest) =
      some (text, rest) := by
  refine readString_jsonText text rest [] _ ?_
  rw [List.length_append]
  exact Nat.le_trans (length_le_flatMap_jsonChar text) (Nat.le_add_right _ _)

/-! ## Values -/

theorem skipBlanks_cons (c : Char) (visible : (c = ' ' || c = '\n' || c = '\t' || c = '\r') = false) (tail : Text) :
    skipBlanks (c :: tail) = c :: tail :=
  List.dropWhile_cons_of_neg (by rw [visible]; exact Bool.false_ne_true)

/-- The text is read as the value, whatever follows, with any fuel that is no less than its length. -/
def ReadsBack (depth : Nat) (source : Text) (v : Value) : Prop :=
  ∀ fuel rest, source.length ≤ fuel → readValue depth fuel (source ++ rest) = some (v, rest)

section Scalars
variable {depth : Nat}

theorem readsBack_null : ReadsBack depth (json .null) .null := by
  intro fuel rest enough
  cases fuel with
  | zero => cases enough
  | succ fuel => rfl

theorem readsBack_bool (b : Bool) : ReadsBack depth (json (.bool b)) (.bool b) := by
  intro fuel rest enough
  cases fuel with
  | zero => cases b <;> cases enough
  | succ fuel => cases b <;> rfl

theorem readsBack_text (t : Text) : ReadsBack depth (json (.text t)) (.text t) := by
  intro fuel rest enough
  cases fuel with
  | zero => cases enough
  | succ fuel =>
      have quoted : json (.text t) ++ rest = '"' :: (t.flatMap jsonChar ++ '"' :: rest) := by
        simp [json, jsonText]
      rw [quoted, readValue, skipBlanks_cons '"' rfl]
      simp only [readString_whole, Option.map_some]

end Scalars

section Containers
variable {depth : Nat}

/-- No item begins with a closing bracket. -/
theorem readItems_closing {input rest : Text} (h : skipBlanks input = ']' :: rest) (fuel : Nat) :
    readItems depth fuel input = none := by
  cases fuel with
  | zero => rfl
  | succ fuel =>
      have none' : readValue depth fuel input = none := by
        cases fuel with
        | zero => rfl
        | succ fuel =>
            rw [readValue, h]
            rfl
      rw [readItems, none']
      rfl

theorem readItems_json {items : List Value} (nonempty : items ≠ [])
    (back : ∀ item ∈ items, ReadsBack depth (json item) item) (rest : Text) :
    ∀ fuel, (Text.join [','] (jsonItems items)).length < fuel →
      readItems depth fuel (Text.join [','] (jsonItems items) ++ ']' :: rest) = some (items, rest) := by
  induction items with
  | nil => exact absurd rfl nonempty
  | cons item more ih =>
      intro fuel enough
      rw [List.forall_mem_cons] at back
      obtain ⟨first, later⟩ := back
      cases fuel with
      | zero => cases enough
      | succ fuel =>
          cases more with
          | nil =>
              rw [jsonItems, jsonItems, Text.join] at enough ⊢
              rw [readItems, first fuel _ (Nat.le_of_lt_succ enough)]
              rfl
          | cons next more =>
              have spelled : Text.join [','] (jsonItems (item :: next :: more)) =
                  json item ++ ',' :: Text.join [','] (jsonItems (next :: more)) := by
                simp [jsonItems, Text.join]
              rw [spelled, List.length_append, List.length_cons] at enough
              rw [spelled, List.append_assoc, List.cons_append, readItems, first fuel _ (by omega)]
              simp only [Option.bind_eq_bind, Option.bind_some, skipBlanks_cons ',' rfl]
              rw [ih (List.cons_ne_nil _ _) later fuel (by omega)]
              rfl

theorem readsBack_array {items : List Value} (back : ∀ item ∈ items, ReadsBack depth (json item) item) :
    ReadsBack (depth + 1) (json (.array items)) (.array items) := by
  intro fuel rest enough
  cases fuel with
  | zero => cases enough
  | succ fuel =>
      by_cases empty : items = []
      · subst empty
        rfl
      · have spelled : json (.array items) ++ rest = '[' :: (Text.join [','] (jsonItems items) ++ ']' :: rest) := by
          simp [json]
        have read : readItems depth fuel (Text.join [','] (jsonItems items) ++ ']' :: rest) = some (items, rest) := by
          refine readItems_json empty back rest fuel ?_
          simp only [json, List.length_append, List.length_cons, List.length_nil] at enough
          omega
        rw [spelled, readValue, skipBlanks_cons '[' rfl]
        simp only
        split
        · next closing =>
            rw [readItems_closing closing] at read
            cases read
        · rw [read]
          rfl

theorem readFields_json {fields : List (Text × Value)} (nonempty : fields ≠ [])
    (back : ∀ field ∈ fields, ReadsBack depth (json field.2) field.2) (rest : Text) :
    ∀ fuel, (Text.join [','] (jsonFields fields)).length < fuel →
      readFields depth fuel (Text.join [','] (jsonFields fields) ++ '\x7d' :: rest) = some (fields, rest) := by
  induction fields with
  | nil => exact absurd rfl nonempty
  | cons field more ih =>
      intro fuel enough
      obtain ⟨name, v⟩ := field
      rw [List.forall_mem_cons] at back
      obtain ⟨first, later⟩ := back
      cases fuel with
      | zero => cases enough
      | succ fuel =>
          cases more with
          | nil =>
              have spelled (tail : Text) : Text.join [','] (jsonFields [(name, v)]) ++ tail =
                  '"' :: (name.flatMap jsonChar ++ '"' :: ':' :: (json v ++ tail)) := by
                simp [jsonFields, Text.join, jsonText]
              have room : (json v).length ≤ fuel := by
                simp only [jsonFields, Text.join, List.length_append, List.length_cons] at enough
                omega
              rw [spelled, readFields, skipBlanks_cons '"' rfl]
              simp only [readString_whole, Option.bind_eq_bind, Option.bind_some, skipBlanks_cons ':' rfl,
                first fuel _ room, skipBlanks_cons '\x7d' rfl]
          | cons next more =>
              have spelled (tail : Text) : Text.join [','] (jsonFields ((name, v) :: next :: more)) ++ tail =
                  '"' :: (name.flatMap jsonChar ++
                    '"' :: ':' :: (json v ++ ',' :: (Text.join [','] (jsonFields (next :: more)) ++ tail))) := by
                simp [jsonFields, Text.join, jsonText]
              have total := congrArg List.length (spelled [])
              simp only [List.append_nil, List.length_append, List.length_cons] at total
              have room : (json v).length ≤ fuel := by omega
              have enough' : (Text.join [','] (jsonFields (next :: more))).length < fuel := by omega
              rw [spelled, readFields, skipBlanks_cons '"' rfl]
              simp only [readString_whole, Option.bind_eq_bind, Option.bind_some, skipBlanks_cons ':' rfl,
                first fuel _ room, skipBlanks_cons ',' rfl]
              rw [ih (List.cons_ne_nil _ _) later fuel enough']
              rfl

theorem readsBack_object {fields : List (Text × Value)}
    (back : ∀ field ∈ fields, ReadsBack depth (json field.2) field.2) :
    ReadsBack (depth + 1) (json (.object fields)) (.object (Dictionary.ofList fields)) := by
  intro fuel rest enough
  cases fuel with
  | zero => cases enough
  | succ fuel =>
      cases fields with
      | nil => rfl
      | cons field more =>
          have spelled : json (.object (field :: more)) ++ rest =
              '\x7b' :: (Text.join [','] (jsonFields (field :: more)) ++ '\x7d' :: rest) := by
            simp [json]
          have read : readFields depth fuel (Text.join [','] (jsonFields (field :: more)) ++ '\x7d' :: rest) =
              some (field :: more, rest) := by
            refine readFields_json (List.cons_ne_nil _ _) back rest fuel ?_
            simp only [json, List.length_append, List.length_cons, List.length_nil] at enough
            omega
          rw [spelled, readValue, skipBlanks_cons '\x7b' rfl]
          simp only
          split
          · next closing =>
              cases fuel with
              | zero => cases read
              | succ fuel =>
                  rw [readFields, closing] at read
                  cases read
          · rw [read]
            rfl

end Containers

theorem ReadsBack.ofJson? {depth : Nat} {source : Text} {v : Value} (h : ReadsBack depth source v) :
    ofJson? depth source = some v := by
  have read := h (source.length + 1) [] (Nat.le_succ _)
  rw [List.append_nil] at read
  rw [Value.ofJson?, read]
  rfl

end RouteView.Value
