import CssRules.Error

/-!
Sheets: the live destinations of rules. A sheet may be absent, it is opened once before the first line,
and it takes one line after another at its end. Opening and appending may fail; what a failed attempt
leaves behind is up to the sheet.
-/

namespace CssRules

class Sheet (σ : Type) where
  /-- Whether there is a destination at all. -/
  isLive : σ → Bool
  /-- Prepares the sheet for its first line. -/
  start : σ → Except SheetError Unit × σ
  /-- Adds one line at the end. -/
  append : σ → String → Except SheetError Unit × σ

/-- The sheet of an environment that has none. -/
structure AbsentSheet where
  deriving DecidableEq, Repr, Inhabited

instance : Sheet AbsentSheet where
  isLive _ := false
  start sheet := (.ok (), sheet)
  append sheet _ := (.ok (), sheet)

/-- A sheet in memory, which takes every line. -/
structure MemorySheet where
  lines : List String := []
  deriving DecidableEq, Repr, Inhabited

instance : Sheet MemorySheet where
  isLive _ := true
  start sheet := (.ok (), sheet)
  append sheet line := (.ok (), ⟨sheet.lines ++ [line]⟩)

end CssRules
