import CssRules.Declaration
import CssRules.Text.Uppercase

/-!
Pieces: what can be attached to a rule. Some pieces stand for fragments of its selector, and the others
for a declaration or for a rule to be nested in it. A nested rule is named by its identifier.
-/

namespace CssRules

inductive Piece where
  /-- A position among siblings. Negative positions count from the end. -/
  | index (n : Int64)
  /-- The identifier of a registered rule, or else a fragment. -/
  | literal (text : String)
  /-- The identifier of a registered rule. -/
  | nested (identifier : String)
  | declaration (declaration : Declaration)
  /-- A function around the rule. -/
  | function (name : String)

namespace Piece

/-- The position given by a number, rounded down and brought into the range of positions. -/
def ofFloat (x : Float) : Piece := .index (Number.Reading.ofFloat x).floor

/-- The fragment of a position: a negative one counts from the end by its magnitude, and any other one
counts from the start and is one less than given. -/
def indexFragment (n : Int64) : String :=
  if n < 0 then ":nth-last-child(" ++ toString n.toInt.natAbs ++ ")"
  else ":nth-child(" ++ toString (n.toInt - 1) ++ ")"

/-- The fragment of a function: its name in capitals, as a descendant. -/
def functionFragment (name : String) : String := " " ++ Text.uppercase name

end Piece

end CssRules
