import DomainSql.Json.Reader
import DomainSql.Json.Writer
import DomainSql.Proofs.Outcomes
import Mathlib.Algebra.Group.Int.Defs
import Mathlib.Algebra.Group.Nat.Defs
import Mathlib.Data.List.TakeDrop

/-!
# Reading what is written: words, texts and integers

A text that has been quoted is read back character by character, and an integer that fits
64 bits, signed or unsigned, is read back from its digits. A quoted text ends by itself,
but a numeral goes on as long as it can, so that what stands behind it matters: nothing, a
blank, a comma or a closing bracket.
-/
namespace DomainSql.Json

/-- Nothing but blanks. -/
def Blank (gap : List Char) : Prop := ∀ c ∈ gap, isJsonBlank c = true

/-- What may stand behind a value. -/
def Ends (rest : List Char) : Prop :=
  ∀ c ∈ rest.head?, isJsonBlank c = true ∨ c = ',' ∨ c = ']' ∨ c = '}'

/-- A gap may be empty. -/
theorem blank_nil : Blank [] := fun _ absent => absurd absent List.not_mem_nil

/-- The end of a text ends a value. -/
theorem ends_nil : Ends [] := fun _ absent => nomatch absent

/-- A comma ends a value. -/
theorem ends_comma (rest : List Char) : Ends (',' :: rest) := by
  rintro _ ⟨⟩
  exact Or.inr (Or.inl rfl)

/-- A closing bracket ends a value. -/
theorem ends_bracket (rest : List Char) : Ends (']' :: rest) := by
  rintro _ ⟨⟩
  exact Or.inr (Or.inr (Or.inl rfl))

/-- A closing brace ends a value. -/
theorem ends_brace (rest : List Char) : Ends ('}' :: rest) := by
  rintro _ ⟨⟩
  exact Or.inr (Or.inr (Or.inr rfl))

/-- Blanks may stand between a value and what ends it. -/
theorem Ends.gap {gap rest : List Char} (blank : Blank gap) (ends : Ends rest) :
    Ends (gap ++ rest) := by
  cases gap with
  | nil => exact ends
  | cons c gap =>
    rintro _ ⟨⟩
    exact Or.inl (blank c List.mem_cons_self)

/-- Blanks are skipped up to the first character that is none. -/
theorem skipBlanks_gap {gap : List Char} (blank : Blank gap) {c : Char}
    (visible : isJsonBlank c = false) (rest : List Char) :
    skipBlanks (gap ++ c :: rest) = c :: rest := by
  unfold skipBlanks
  rw [List.dropWhile_append_of_pos blank, List.dropWhile_cons_of_neg (by simp [visible])]

/-- Without blanks in front nothing is skipped. -/
theorem skipBlanks_cons {c : Char} (visible : isJsonBlank c = false) (rest : List Char) :
    skipBlanks (c :: rest) = c :: rest := skipBlanks_gap blank_nil visible rest

/-! ### Texts -/

/-- A hexadecimal digit is read as the number that it was written for. -/
theorem hexValue?_hexDigit : ∀ n < 16, hexValue? (hexDigit n) = some n := by decide

/-- A character adds its own bytes. -/
theorem byteLength_cons (c : Char) (cs : List Char) :
    byteLength (c :: cs) = c.utf8Size + byteLength cs := rfl

/-- Four hexadecimal digits are read as the number they make. -/
theorem readHex_digits {a b c d : Char} {first second third fourth : Nat}
    (isFirst : hexValue? a = some first) (isSecond : hexValue? b = some second)
    (isThird : hexValue? c = some third) (isFourth : hexValue? d = some fourth)
    (rest : List Char) :
    readHex (a :: b :: c :: d :: rest) =
      .ok (((first * 16 + second) * 16 + third) * 16 + fourth, rest) := by
  have long : ¬ byteLength (a :: b :: c :: d :: rest) < 4 := by
    have := a.utf8Size_pos
    have := b.utf8Size_pos
    have := c.utf8Size_pos
    have := d.utf8Size_pos
    simp only [byteLength_cons]
    omega
  simp only [readHex, if_neg long, isFirst, isSecond, isThird, isFourth]

/-- A control character is read back from its number. -/
theorem readCodePoint_control {c : Char} (control : c.toNat < 32) (rest : List Char) :
    readCodePoint ('0' :: '0' :: hexDigit (c.toNat / 16) :: hexDigit (c.toNat % 16) :: rest) =
      .ok (c, rest) := by
  have high := hexValue?_hexDigit (c.toNat / 16) (by omega)
  have low := hexValue?_hexDigit (c.toNat % 16) (by omega)
  have zero : hexValue? '0' = some 0 := rfl
  have number : ((0 * 16 + 0) * 16 + c.toNat / 16) * 16 + c.toNat % 16 = c.toNat := by omega
  have noTrailing : isTrailing c.toNat = false := by
    simp only [isTrailing, Bool.and_eq_false_iff, decide_eq_false_iff_not]
    omega
  have noLeading : isLeading c.toNat = false := by
    simp only [isLeading, Bool.and_eq_false_iff, decide_eq_false_iff_not]
    omega
  simp only [readCodePoint, readHex_digits zero zero high low, ok_bind, number, noTrailing,
    noLeading, Char.ofNat_toNat, Bool.false_eq_true, if_false]

/-- The letter of an escape is read as the character that it stands for. -/
theorem readEscape_letter {letter c : Char} (stands : escapedLetter? letter = some c)
    (noNumber : letter ≠ 'u') (rest : List Char) :
    readEscape (letter :: rest) = .ok (c, rest) := by
  unfold readEscape
  split
  · rename_i absurd
    cases absurd
  · rename_i same
    cases same
    exact absurd rfl noNumber
  · rename_i same
    cases same
    simp only [stands]

/-- A character that is escaped by a letter is taken in with its letter. -/
theorem readCharacters_letter {letter c : Char} (stands : escapedLetter? letter = some c)
    (noNumber : letter ≠ 'u') (steps : Nat) (cs : List Char) :
    readCharacters (steps + 1) ('\\' :: letter :: cs) = (do
      let (text, rest) ← readCharacters steps cs
      .ok (c :: text, rest)) := by
  simp only [readCharacters, readEscape_letter stands noNumber, ok_bind]

/-- A character that needs no escape is taken in as it is. -/
theorem readCharacters_plain {c : Char} (noQuote : c ≠ '"') (noBackslash : c ≠ '\\')
    (noControl : ¬ c.toNat < 32) (steps : Nat) (cs : List Char) :
    readCharacters (steps + 1) (c :: cs) = (do
      let (text, rest) ← readCharacters steps cs
      .ok (c :: text, rest)) := by
  conv => lhs; unfold readCharacters
  split
  · rename_i absurd
    cases absurd
  · rename_i same
    cases same
    exact absurd rfl noQuote
  · rename_i same
    cases same
    exact absurd rfl noBackslash
  · rename_i same
    cases same
    simp only [noControl, if_false]

/-- Every step of reading takes in one written character. The cases are those of writing. -/
theorem readCharacters_escape (c : Char) (steps : Nat) (cs : List Char) :
    readCharacters (steps + 1) (escape c ++ cs) = (do
      let (text, rest) ← readCharacters steps cs
      .ok (c :: text, rest)) := by
  have character (n : Nat) (isNumber : c.toNat = n) : c = Char.ofNat n := by
    rw [← isNumber, Char.ofNat_toNat]
  unfold escape
  split
  · rename_i same
    exact readCharacters_letter (by subst same; rfl) (by decide) steps cs
  split
  · rename_i same
    exact readCharacters_letter (by subst same; rfl) (by decide) steps cs
  split
  · rename_i same
    exact readCharacters_letter (same ▸ rfl) (by decide) steps cs
  split
  · rename_i same
    exact readCharacters_letter (same ▸ rfl) (by decide) steps cs
  split
  · rename_i same
    exact readCharacters_letter (same ▸ rfl) (by decide) steps cs
  split
  · rename_i isNumber
    exact readCharacters_letter (character 8 isNumber ▸ rfl) (by decide) steps cs
  split
  · rename_i isNumber
    exact readCharacters_letter (character 12 isNumber ▸ rfl) (by decide) steps cs
  split
  · rename_i control
    have read : readEscape ('u' :: '0' :: '0' :: hexDigit (c.toNat / 16) ::
        hexDigit (c.toNat % 16) :: cs) = .ok (c, cs) := readCodePoint_control control cs
    simp only [List.cons_append, List.nil_append, readCharacters, read, ok_bind]
  · rename_i noQuote noBackslash _ _ _ _ _ noControl
    exact readCharacters_plain noQuote noBackslash noControl steps cs

/-- Reading goes on up to the closing quotation mark. -/
theorem readCharacters_written (text rest : List Char) (steps : Nat)
    (enough : text.length < steps) :
    readCharacters steps (text.flatMap escape ++ '"' :: rest) = .ok (text, rest) := by
  induction text generalizing steps with
  | nil =>
    obtain ⟨steps, rfl⟩ := Nat.exists_eq_succ_of_ne_zero (Nat.ne_zero_of_lt enough)
    rfl
  | cons c text ih =>
    obtain ⟨steps, rfl⟩ := Nat.exists_eq_succ_of_ne_zero (Nat.ne_zero_of_lt enough)
    rw [List.flatMap_cons, List.append_assoc, readCharacters_escape,
      ih steps (by simpa using enough)]
    rfl

/-- A written character takes at least one. -/
theorem length_le_written (text : List Char) : text.length ≤ (text.flatMap escape).length := by
  induction text with
  | nil => exact Nat.le_refl 0
  | cons c text ih =>
    have shown : 1 ≤ (escape c).length := by
      unfold escape
      repeat' split
      all_goals simp
    simp only [List.length_cons, List.flatMap_cons, List.length_append]
    omega

/-- A quoted text is read back. -/
theorem readQuotation_written (text : String) (rest : List Char) :
    readQuotation (text.toList.flatMap escape ++ '"' :: rest) = .ok (text, rest) := by
  have enough : text.toList.length < (text.toList.flatMap escape ++ '"' :: rest).length + 1 := by
    have := length_le_written text.toList
    simp only [List.length_append, List.length_cons]
    omega
  simp only [readQuotation, readCharacters_written text.toList rest _ enough, ok_bind,
    String.ofList_toList]

/-! ### Integers -/

/-- An integer that is kept as one: it fits 64 bits, signed or unsigned. -/
def Fits64 (n : Int) : Prop := -2 ^ 63 ≤ n ∧ n < 2 ^ 64

/-- A significand is collected up to the largest number of 64 bits. -/
theorem significandLimit_eq : significandLimit = 2 ^ 64 - 1 := rfl

/-- The smallest integer is the smallest number of 64 bits with a sign. -/
theorem lowest_eq : Number.lowest = -2 ^ 63 := rfl

/-- What ends a value does not go on with a numeral. -/
theorem Ends.noNumeral {rest : List Char} (ends : Ends rest) {c : Char} (next : c ∈ rest.head?) :
    c.isDigit = false ∧ c ≠ '.' ∧ c ≠ 'e' ∧ c ≠ 'E' := by
  rcases ends c next with blank | rfl | rfl | rfl
  · simp only [isJsonBlank, Bool.or_eq_true, decide_eq_true_eq] at blank
    rcases blank with ((rfl | rfl) | rfl) | rfl <;> decide
  all_goals decide

/-- As long as the whole number stays within the limit, all of its digits are collected. -/
theorem collect_of_fits {limit : Nat} (digits : List Char) (value : Nat)
    (fits : Nat.ofDigitChars 10 digits value ≤ limit) :
    collect limit value digits = (Nat.ofDigitChars 10 digits value, []) := by
  induction digits generalizing value with
  | nil => simp [collect]
  | cons d digits ih =>
    have step : 10 * value + (d.toNat - '0'.toNat) = value * 10 + digitValue d := by
      rw [Nat.mul_comm]
      rfl
    rw [Nat.ofDigitChars_cons, step] at fits ⊢
    have within : value * 10 + digitValue d ≤ limit := by
      rw [Nat.ofDigitChars_eq_ofDigitChars_zero] at fits
      have grows := Nat.le_mul_of_pos_left (value * 10 + digitValue d)
        (Nat.pow_pos (n := digits.length) (show 0 < 10 by decide))
      omega
    rw [collect, if_pos within]
    exact ih _ fits

/-- Digits are taken up to the first character that is none. -/
theorem spanDigits_digits {digits rest : List Char} (all : ∀ c ∈ digits, c.isDigit = true)
    (stops : ∀ c ∈ rest.head?, c.isDigit = false) :
    spanDigits (digits ++ rest) = (digits, rest) := by
  have none : rest.takeWhile Char.isDigit = [] ∧ rest.dropWhile Char.isDigit = rest := by
    cases rest with
    | nil => exact ⟨rfl, rfl⟩
    | cons c rest => simp [stops c rfl]
  rw [spanDigits, List.span_eq_takeWhile_dropWhile, List.takeWhile_append_of_pos all,
    List.dropWhile_append_of_pos all, none.1, none.2, List.append_nil]

/-- The digits of a whole number above zero do not start with a zero. -/
theorem head_toDigits {n : Nat} (positive : 0 < n) :
    ∃ c digits, Nat.toDigits 10 n = c :: digits ∧ c.isDigit = true ∧ c ≠ '0' := by
  induction n using Nat.strongRecOn with
  | ind n ih =>
    by_cases small : n < 10
    · have single : ∀ d < 10, 0 < d →
          (Nat.digitChar d).isDigit = true ∧ Nat.digitChar d ≠ '0' := by decide
      exact ⟨_, [], Nat.toDigits_of_lt_base small, single n small positive⟩
    · obtain ⟨c, digits, shown, isFirst⟩ := ih (n / 10) (by omega) (by omega)
      refine ⟨c, digits ++ [Nat.digitChar (n % 10)], ?_, isFirst⟩
      rw [Nat.toDigits_of_base_le (by decide) (by omega), shown, List.cons_append]

/-- A numeral that starts with another digit than zero is collected from its digits. -/
theorem readUnsigned_cons (negative : Bool) {c : Char} (isDigit : c.isDigit = true)
    (notZero : c ≠ '0') {cs digits rest left : List Char} {significand : Nat}
    (span : spanDigits (c :: cs) = (digits, rest))
    (collected : collect significandLimit 0 digits = (significand, left)) :
    readUnsigned negative (c :: cs) = readNumberEnd negative significand left rest := by
  unfold readUnsigned
  split
  · rename_i absurd
    cases absurd
  · rename_i same
    exact absurd (List.cons.inj same).1 notZero
  · rename_i same
    obtain ⟨rfl, rfl⟩ := List.cons.inj same
    rw [if_pos isDigit, span]
    simp only []
    rw [collected]

/-- A numeral whose digits fit and that does not go on behind them is an integer. -/
theorem readNumberEnd_whole (negative : Bool) (significand : Nat) {rest : List Char}
    (ends : Ends rest) :
    readNumberEnd negative significand [] rest = wholeNumber negative significand rest := by
  unfold readNumberEnd
  split
  · exact absurd rfl (ends.noNumeral rfl).2.1
  · have noExponent : rest.head? ≠ some 'e' ∧ rest.head? ≠ some 'E' :=
      ⟨fun next => (ends.noNumeral next).2.2.1 rfl, fun next => (ends.noNumeral next).2.2.2 rfl⟩
    rw [if_pos ⟨List.isEmpty_nil, noExponent⟩]

/-- Behind its sign an integer is read up to the end of its digits. -/
theorem readUnsigned_repr (negative : Bool) {n : Nat} (fits : n < 2 ^ 64) {rest : List Char}
    (ends : Ends rest) :
    readUnsigned negative ((Nat.repr n).toList ++ rest) = wholeNumber negative n rest := by
  have stop := readNumberEnd_whole negative n ends
  have noDigit (c : Char) (next : c ∈ rest.head?) : c.isDigit = false := (ends.noNumeral next).1
  rw [Nat.toList_repr]
  rcases Nat.eq_zero_or_pos n with rfl | positive
  · have alone : (rest.head?.map Char.isDigit).getD false = false := by
      cases rest with
      | nil => rfl
      | cons c rest => exact noDigit c rfl
    simp only [Nat.toDigits_zero, List.singleton_append, readUnsigned, alone, Bool.false_eq_true,
      if_false, stop]
  · have all (c : Char) (inside : c ∈ Nat.toDigits 10 n) : c.isDigit = true :=
      Nat.isDigit_of_mem_toDigits (by decide) (by decide) inside
    have span := spanDigits_digits all noDigit
    have collected : collect significandLimit 0 (Nat.toDigits 10 n) = (n, []) := by
      have within : n ≤ significandLimit := by
        rw [significandLimit_eq]
        omega
      have whole := collect_of_fits (Nat.toDigits 10 n) 0
        (Nat.le_trans (Nat.le_of_eq Nat.ofDigitChars_ten_toDigits) within)
      rwa [Nat.ofDigitChars_ten_toDigits] at whole
    obtain ⟨c, digits, shown, isDigit, notZero⟩ := head_toDigits positive
    rw [shown] at collected span ⊢
    rw [List.cons_append] at span ⊢
    rw [readUnsigned_cons negative isDigit notZero span collected, stop]

/-- A written integer is read back. -/
theorem readNumber_integerText {n : Int} (fits : Fits64 n) {rest : List Char} (ends : Ends rest) :
    readNumber (Number.integerText n ++ rest) = .ok (.integer n, rest) := by
  obtain ⟨low, high⟩ := fits
  have small : n.natAbs < 2 ^ 64 := by omega
  by_cases negative : n < 0
  · have same : -(n.natAbs : Int) = n := by omega
    have inRange : ¬ (n.natAbs = 0 ∨ n < Number.lowest) := by
      rw [lowest_eq]
      omega
    rw [Number.integerText, if_pos negative, List.cons_append]
    simp only [readNumber, readUnsigned_repr true small ends, wholeNumber, not_true_eq_false,
      if_false, same, if_neg inRange]
  · have same : (n.natAbs : Int) = n := by omega
    have notEmpty : Nat.toDigits 10 n.natAbs ≠ [] := Nat.toDigits_ne_nil
    obtain ⟨c, digits, shown⟩ := List.exists_cons_of_ne_nil notEmpty
    have inside : c ∈ Nat.toDigits 10 n.natAbs := shown ▸ List.mem_cons_self
    have isDigit := Nat.isDigit_of_mem_toDigits (by decide) (by decide) inside
    rw [Number.integerText, if_neg negative]
    unfold readNumber
    split
    · rename_i starts
      rw [Nat.toList_repr, shown] at starts
      cases starts
      exact absurd isDigit (by decide)
    · simp only [readUnsigned_repr false small ends, wholeNumber, Bool.false_eq_true,
        not_false_eq_true, if_true, same]

end DomainSql.Json
