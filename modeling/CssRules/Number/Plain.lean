import CssRules.Number.Shortest

/-!
The text of a number: the digits of the shortest decimal, written positionally. There is never an
exponent, and an integer has neither a point nor zeros after one.
-/

namespace CssRules.Number

/-- The positional notation of a decimal that is not zero. -/
def Decimal.plain (decimal : Decimal) : List Char :=
  let digits := Nat.toDigits 10 decimal.digits
  let places := (-decimal.exponent).toNat
  if places = 0 then digits ++ List.replicate decimal.exponent.toNat '0'
  else if places < digits.length then
    digits.take (digits.length - places) ++ '.' :: digits.drop (digits.length - places)
  else '0' :: '.' :: (List.replicate (places - digits.length) '0' ++ digits)

/-- The sign is written for negative numbers, zero included. -/
def signed (negative : Bool) (text : String) : String := if negative then "-" ++ text else text

def Reading.text : Reading → String
  | .notANumber => "NaN"
  | .infinite negative => signed negative "inf"
  | .finite negative m =>
    signed negative (if m.mantissa = 0 then "0" else String.ofList m.shortest.plain)

/-- The text of a double. -/
def text (x : Float) : String := (Reading.ofFloat x).text

end CssRules.Number
