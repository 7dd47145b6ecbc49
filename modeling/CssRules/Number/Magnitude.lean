/-!
What a double stands for: not a number, an infinity, or a sign and an exact magnitude, an integer times
a power of two. Everything that has to be exact about a double is computed on this form, in integers.
-/

namespace CssRules.Number

/-- The mantissa times two to the exponent. -/
structure Magnitude where
  mantissa : Nat
  exponent : Int
  deriving DecidableEq, Repr

inductive Reading where
  | notANumber
  | infinite (negative : Bool)
  | finite (negative : Bool) (magnitude : Magnitude)
  deriving DecidableEq, Repr

/-- The leading bit of a mantissa, which is not stored. -/
def leadingBit : Nat := 0x10000000000000

/-- Reads the sign bit, the eleven bits of the exponent and the 52 bits of the fraction. Numbers whose
exponent bits are zero have no leading bit and share the smallest exponent. -/
def Reading.ofBits (bits : UInt64) : Reading :=
  let negative := bits.toNat / leadingBit / 2048 = 1
  let biased : Nat := bits.toNat / leadingBit % 2048
  let fraction : Nat := bits.toNat % leadingBit
  if biased = 2047 then if fraction = 0 then .infinite negative else .notANumber
  else if biased = 0 then .finite negative ⟨fraction, -1074⟩
  else .finite negative ⟨leadingBit + fraction, (biased : Int) - 1075⟩

def Reading.ofFloat (x : Float) : Reading := .ofBits x.toBits

/-- The magnitude is the quotient of its numerator and its denominator. -/
def Magnitude.numerator (m : Magnitude) : Nat := m.mantissa <<< m.exponent.toNat

def Magnitude.denominator (m : Magnitude) : Nat := 1 <<< (-m.exponent).toNat

/-- The greatest integer that is not above the number, brought into the range of 64-bit integers. What
is not a number counts as zero. -/
def Reading.floor : Reading → Int64
  | .notANumber => 0
  | .infinite true => Int64.minValue
  | .infinite false => Int64.maxValue
  | .finite negative m =>
    let numerator : Int := if negative then -m.numerator else m.numerator
    Int64.ofIntClamp (numerator.fdiv m.denominator)

end CssRules.Number
