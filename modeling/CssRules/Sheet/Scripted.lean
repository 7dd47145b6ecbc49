import CssRules.Sheet.Basic

/-!
A sheet whose failures are scripted: which attempts to open it and to write to it fail is decided by
their numbers. A failed attempt is counted and has no other effect.
-/

namespace CssRules

/-- Why a scripted attempt to open fails. -/
def SheetError.noHead : SheetError := ⟨"no document head"⟩

/-- Why a scripted attempt to append fails. -/
def SheetError.rejected : SheetError := ⟨"sheet rejected rule"⟩

structure ScriptedSheet where
  isLive : Bool := true
  /-- The numbers of the attempts to open that fail. -/
  failsStart : Nat → Bool := fun _ => false
  /-- The numbers of the attempts to append that fail. -/
  failsAppend : Nat → Bool := fun _ => false
  lines : List String := []
  starts : Nat := 0
  appends : Nat := 0

namespace ScriptedSheet

def start (sheet : ScriptedSheet) : Except SheetError Unit × ScriptedSheet :=
  let counted := { sheet with starts := sheet.starts + 1 }
  if sheet.failsStart sheet.starts then (.error .noHead, counted) else (.ok (), counted)

def append (sheet : ScriptedSheet) (line : String) : Except SheetError Unit × ScriptedSheet :=
  let counted := { sheet with appends := sheet.appends + 1 }
  if sheet.failsAppend sheet.appends then (.error .rejected, counted)
  else (.ok (), { counted with lines := sheet.lines ++ [line] })

instance : Sheet ScriptedSheet := ⟨isLive, start, append⟩

end ScriptedSheet

end CssRules
