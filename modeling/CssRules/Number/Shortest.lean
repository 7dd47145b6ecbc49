import CssRules.Number.Magnitude

/-!
The shortest decimal that reads back as a given double. The reals that round to a double form an
interval around it, whose ends belong to it exactly when the mantissa is even. The search goes through
the grids of multiples of a power of ten from coarse to fine and tests the two grid points next to the
double; the first grid with a point in the interval gives the fewest digits. All tests compare
integers, since both sides are multiplied by their common denominator.
-/

namespace CssRules.Number

/-- The digits times ten to the exponent. -/
structure Decimal where
  digits : Nat
  exponent : Int
  deriving DecidableEq, Repr

/-- How far the interval reaches below the double, in quarters of the unit of the mantissa: below a
power of two the doubles are twice as dense. -/
def Magnitude.reachBelow (m : Magnitude) : Nat :=
  if m.mantissa = leadingBit && -1074 < m.exponent then 1 else 2

/-- One quarter of the unit of the mantissa, multiplied by the common denominator. -/
def Magnitude.quarter (m : Magnitude) (e : Int) : Nat :=
  Nat.pow 10 (-e).toNat <<< (m.exponent - 2).toNat

/-- Ten to the exponent `e`, multiplied by the common denominator. -/
def Magnitude.gridUnit (m : Magnitude) (e : Int) : Nat :=
  Nat.pow 10 e.toNat <<< (2 - m.exponent).toNat

/-- Whether the point of the grid of `e` with the given digits rounds to the double. -/
def Magnitude.covers (m : Magnitude) (e : Int) (digits : Nat) : Bool :=
  let point := digits * m.gridUnit e
  let low := (4 * m.mantissa - m.reachBelow) * m.quarter e
  let high := (4 * m.mantissa + 2) * m.quarter e
  if m.mantissa % 2 = 0 then low ≤ point && point ≤ high else low < point && point < high

/-- The two points of the grid of `e` around the double, the nearer one first; of two that are equally near
the greater one comes first. -/
def Magnitude.neighbours (m : Magnitude) (e : Int) : List Nat :=
  let value := 4 * m.mantissa * m.quarter e
  let below := value / m.gridUnit e
  if (2 * below + 1) * m.gridUnit e ≤ 2 * value then [below + 1, below] else [below, below + 1]

/-- The double written out in full. -/
def Magnitude.exact (m : Magnitude) : Decimal :=
  ⟨m.numerator * Nat.pow 5 (-m.exponent).toNat, min m.exponent 0⟩

/-- Tries `steps` grids from the exponent `e` downwards. -/
def Magnitude.search (m : Magnitude) : Nat → Int → Decimal
  | 0, _ => m.exact
  | steps + 1, e =>
    match (m.neighbours e).find? (m.covers e) with
    | some digits => ⟨digits, e⟩
    | none => m.search steps (e - 1)

/-- An exponent of ten whose power is above the double and less than a hundred times as large. -/
def Magnitude.decimalBound (m : Magnitude) : Int :=
  (m.mantissa.log2 + 1 + m.exponent) * 30103 / 100000 + 1

/-- The shortest decimal that rounds to the double, and of those the nearest one. Seventeen digits are
always enough, so a grid is found within twenty steps from the bound. -/
def Magnitude.shortest (m : Magnitude) : Decimal := m.search 20 m.decimalBound

end CssRules.Number
