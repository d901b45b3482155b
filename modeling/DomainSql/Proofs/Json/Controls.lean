import DomainSql.Proofs.Json.Spacing

/-!
# Compact text is one line

A quoted text is written without a character below U+0020, because each of them is escaped. Between
quoted texts there are numerals, words and marks, and no blanks. So the compact text of a value
stands on one line, whatever its texts and keys hold.
-/
namespace DomainSql.Json

/-- There is no character below U+0020. -/
def NoControls (cs : List Char) : Prop := ∀ c ∈ cs, 32 ≤ c.toNat

section
variable {c : Char} {cs ds : List Char}

/-- Nothing holds no control character. -/
@[simp]
theorem noControls_nil : NoControls [] := by simp [NoControls]

/-- No character is one: neither the first nor any of the rest. -/
@[simp]
theorem noControls_cons : NoControls (c :: cs) ↔ 32 ≤ c.toNat ∧ NoControls cs := by
  simp [NoControls]

/-- Texts may be put behind each other. -/
@[simp]
theorem noControls_append : NoControls (cs ++ ds) ↔ NoControls cs ∧ NoControls ds := by
  simp [NoControls, or_imp, forall_and]

/-- A text with a line feed has a character below U+0020. -/
theorem NoControls.oneLine (noControls : NoControls cs) : '\n' ∉ cs :=
  fun inside => absurd (noControls '\n' inside) (by decide)

end

/-! ### Texts -/

/-- Hexadecimal digits are visible. -/
theorem le_hexDigit : ∀ n < 16, 32 ≤ (hexDigit n).toNat := by decide

/-- A character that is not escaped is none below U+0020. -/
theorem noControls_escape (c : Char) : NoControls (escape c) := by
  unfold escape
  iterate 7
    split
    · simp
  split
  · rename_i control
    have high := le_hexDigit (c.toNat / 16) (by omega)
    have low := le_hexDigit (c.toNat % 16) (by omega)
    simp [high, low]
  · rename_i noControl
    simpa using noControl

/-- A quoted text holds no control character, because the ones of the text have been escaped. -/
theorem noControls_quote (text : String) : NoControls (quote text) := by
  have escaped : NoControls (text.toList.flatMap escape) := by
    intro c inside
    obtain ⟨d, _, inEscape⟩ := List.mem_flatMap.mp inside
    exact noControls_escape d c inEscape
  simp [quote, escaped]

/-! ### Numbers -/

/-- Decimal digits are visible. -/
theorem noControls_toDigits (n : Nat) : NoControls (Nat.toDigits 10 n) := by
  intro c inside
  have digit := Nat.isDigit_of_mem_toDigits (by decide) (by decide) inside
  simp only [Char.isDigit, Bool.and_eq_true, decide_eq_true_eq] at digit
  have low : 48 ≤ c.toNat := digit.1
  omega

/-- Zeros that fill up a number are visible. -/
theorem noControls_zeros (count : Nat) : NoControls (DecimalFormat.zeros count) := by
  intro c inside
  rw [List.eq_of_mem_replicate inside]
  decide

/-- An exponent is written in digits and its sign. -/
theorem noControls_exponentText (exponent : Int) :
    NoControls (DecimalFormat.exponentText exponent) := by
  unfold DecimalFormat.exponentText
  split <;> simp [noControls_toDigits]

/-- A number with its point in place is written in its digits, zeros and the point. -/
theorem noControls_positional {digits : List Char} (noControls : NoControls digits)
    (leading : Int) : NoControls (DecimalFormat.positional digits leading) := by
  have front (count : Nat) : NoControls (digits.take count) :=
    fun c inside => noControls c (List.mem_of_mem_take inside)
  have behind (count : Nat) : NoControls (digits.drop count) :=
    fun c inside => noControls c (List.mem_of_mem_drop inside)
  unfold DecimalFormat.positional
  split
  · simp [noControls_zeros, noControls]
  · simp only [noControls_append, noControls_cons]
    refine ⟨⟨front _, noControls_zeros _⟩, by decide, ?_⟩
    split
    · simp
    · exact behind _

/-- A number with an exponent is written in its digits, the point and the exponent. -/
theorem noControls_scientific {digits : List Char} (noControls : NoControls digits)
    (leading : Int) : NoControls (DecimalFormat.scientific digits leading) := by
  unfold DecimalFormat.scientific
  split <;> simp_all [noControls_exponentText]

/-- A number is written with digits, a sign, a point and the letter of an exponent. -/
theorem noControls_numberText (number : Number) : NoControls number.text := by
  cases number with
  | integer value =>
    rw [Number.text, Number.integerText]
    split <;> simp [noControls_toDigits]
  | double value =>
    have magnitude : NoControls (Number.doubleFormat.write (Binary64.shortest value.units)) := by
      simp only [DecimalFormat.write, Nat.toList_repr]
      split
      · exact noControls_positional (noControls_toDigits _) _
      · exact noControls_scientific (noControls_toDigits _) _
    rw [Number.text, Binary64.text]
    split <;> simp [magnitude]

/-! ### Values -/

/-- A scalar is written without control characters: a text is quoted, and the others are words and
numbers. -/
theorem noControls_writeScalar (scalar : Scalar) : NoControls (writeScalar scalar) := by
  cases scalar with
  | null => simp [writeScalar]
  | bool value => cases value <;> simp [writeScalar]
  | number number => exact noControls_numberText number
  | text text => exact noControls_quote text

/-- Items are written without control characters when each of them is. -/
theorem noControls_compactItems {items : List Value}
    (each : ∀ item ∈ items, NoControls (compact item)) : NoControls (compactItems items) := by
  induction items with
  | nil => exact noControls_nil
  | cons item rest ih =>
    obtain ⟨ofItem, ofRest⟩ := List.forall_mem_cons.mp each
    cases rest with
    | nil => simpa [compactItems] using ofItem
    | cons next others => simp [compactItems, ofItem, ih ofRest]

/-- Entries are written without control characters when their values are, since keys are quoted. -/
theorem noControls_compactEntries {entries : Mapping}
    (each : ∀ entry ∈ entries, NoControls (compact entry.2)) :
    NoControls (compactEntries entries) := by
  induction entries with
  | nil => exact noControls_nil
  | cons entry rest ih =>
    obtain ⟨ofValue, ofRest⟩ := List.forall_mem_cons.mp each
    cases rest with
    | nil => simp [compactEntries, noControls_quote, ofValue]
    | cons next others => simp [compactEntries, noControls_quote, ofValue, ih ofRest]

/-- The compact text of a value has no control characters, whatever the value holds. -/
theorem noControls_compact (value : Value) : NoControls (compact value) := by
  induction value with
  | scalar scalar => exact noControls_writeScalar scalar
  | array items ih => simp [compact, noControls_compactItems ih]
  | mapping entries ih => simp [compact, noControls_compactEntries ih]

end DomainSql.Json
