/-!
Numerals to the base 36 with the digits 0-9 and a-z, the highest digit first. A numeral has no leading
zero, except that zero itself is written with one digit.
-/

namespace CssRules.Number

/-- The digit with a value below 36. -/
def base36Digit (value : Nat) : Char := Char.ofNat (if value < 10 then 48 + value else 87 + value)

/-- The numeral of a number with at most `places` digits. -/
def base36Digits : Nat → Nat → List Char
  | 0, _ => []
  | places + 1, n =>
    if n < 36 then [base36Digit n] else base36Digits places (n / 36) ++ [base36Digit (n % 36)]

/-- The numeral of a word, which has at most thirteen digits. -/
def base36 (word : UInt64) : String := String.ofList (base36Digits 13 word.toNat)

theorem word_lt_base36_bound (word : UInt64) : word.toNat < Nat.pow 36 13 :=
  Nat.lt_trans word.toNat_lt (by decide)

@[simp] theorem toList_base36 (word : UInt64) : (base36 word).toList = base36Digits 13 word.toNat := by
  simp [base36]

end CssRules.Number
