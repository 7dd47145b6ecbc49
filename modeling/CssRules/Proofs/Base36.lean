import CssRules.Fingerprint

/-! Numerals to the base 36 read back. Reading the numeral of a word gives the word, so that different
words have different numerals. -/

namespace CssRules.Number

/-- The value of a digit. -/
def base36DigitValue (digit : Char) : Nat :=
  if digit.toNat < 58 then digit.toNat - 48 else digit.toNat - 87

/-- The number that a row of digits stands for, the highest digit first. -/
def readBase36 (digits : List Char) : Nat :=
  digits.foldl (fun value digit => 36 * value + base36DigitValue digit) 0

theorem base36DigitValue_base36Digit {value : Nat} (h : value < 36) :
    base36DigitValue (base36Digit value) = value := by
  have htable : ∀ value < 36, base36DigitValue (base36Digit value) = value := by decide
  exact htable value h

theorem readBase36_concat (digits : List Char) (digit : Char) :
    readBase36 (digits ++ [digit]) = 36 * readBase36 digits + base36DigitValue digit := by
  simp [readBase36]

/-- Reading a numeral with enough places gives back the number. -/
theorem readBase36_base36Digits {places n : Nat} (h : n < Nat.pow 36 places) :
    readBase36 (base36Digits places n) = n := by
  induction places generalizing n with
  | zero =>
      obtain rfl : n = 0 := Nat.lt_one_iff.mp h
      rfl
  | succ places ih =>
      unfold base36Digits
      split
      · rename_i hdigit
        rw [← List.nil_append [base36Digit n], readBase36_concat, base36DigitValue_base36Digit hdigit]
        simp [readBase36]
      · have hhigh : n / 36 < Nat.pow 36 places := (Nat.div_lt_iff_lt_mul (by decide)).mpr h
        rw [readBase36_concat, ih hhigh, base36DigitValue_base36Digit (Nat.mod_lt _ (by decide))]
        omega

theorem exists_of_mem_base36Digits {places n : Nat} {digit : Char} (h : digit ∈ base36Digits places n) :
    ∃ value < 36, digit = base36Digit value := by
  induction places generalizing n with
  | zero => exact absurd h List.not_mem_nil
  | succ places ih =>
      unfold base36Digits at h
      split at h
      · rename_i hdigit
        exact ⟨n, hdigit, List.mem_singleton.mp h⟩
      · rcases List.mem_append.mp h with hhigh | hlow
        · exact ih hhigh
        · exact ⟨n % 36, Nat.mod_lt _ (by decide), List.mem_singleton.mp hlow⟩

theorem zero_not_mem_base36Digits (places n : Nat) : '\x00' ∉ base36Digits places n := by
  have htable : ∀ value < 36, '\x00' ≠ base36Digit value := by decide
  intro hmem
  obtain ⟨value, hvalue, heq⟩ := exists_of_mem_base36Digits hmem
  exact htable value hvalue heq

theorem readBase36_base36 (word : UInt64) : readBase36 (base36 word).toList = word.toNat := by
  rw [toList_base36]
  exact readBase36_base36Digits (word_lt_base36_bound word)

theorem base36_injective {word word' : UInt64} (h : base36 word = base36 word') : word = word' := by
  apply UInt64.toNat_inj.mp
  calc word.toNat = readBase36 (base36 word).toList := (readBase36_base36 word).symm
    _ = readBase36 (base36 word').toList := by rw [h]
    _ = word'.toNat := readBase36_base36 word'

end CssRules.Number
