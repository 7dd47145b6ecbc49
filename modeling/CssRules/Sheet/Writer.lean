import CssRules.Sheet.Basic

/-!
A sheet that writes bytes. Each line is written with a line feed after it and then flushed. The room for
bytes may be limited; of a line that does not fit, the bytes that fit are kept and the rest is lost.
Bytes that are written stay written when the flush after them fails.
-/

namespace CssRules

/-- Why a line is written in part only. -/
def SheetError.noRoom : SheetError := ⟨"failed to write whole buffer"⟩

def SheetError.flushRefused : SheetError := ⟨"flush refused"⟩

/-- A destination of bytes. -/
structure ByteWriter where
  /-- How many bytes are taken in all. -/
  limit : Option Nat := none
  /-- The numbers of the flushes that fail. -/
  failsFlush : Nat → Bool := fun _ => false
  bytes : List UInt8 := []
  flushes : Nat := 0

namespace ByteWriter

/-- How many of the next `count` bytes are taken. -/
def room (writer : ByteWriter) (count : Nat) : Nat :=
  match writer.limit with
  | none => count
  | some limit => min count (limit - writer.bytes.length)

/-- Writes all bytes, or those that fit. -/
def write (writer : ByteWriter) (data : List UInt8) : Except SheetError Unit × ByteWriter :=
  let room := writer.room data.length
  let written := { writer with bytes := writer.bytes ++ data.take room }
  if room < data.length then (.error .noRoom, written) else (.ok (), written)

def flush (writer : ByteWriter) : Except SheetError Unit × ByteWriter :=
  let counted := { writer with flushes := writer.flushes + 1 }
  if writer.failsFlush writer.flushes then (.error .flushRefused, counted) else (.ok (), counted)

end ByteWriter

/-- The UTF-8 bytes of a line with its line feed. -/
def lineBytes (line : String) : List UInt8 := (line ++ "\n").toUTF8.data.toList

structure WriterSheet where
  writer : ByteWriter := {}

namespace WriterSheet

/-- Writes a line and flushes, unless the line could not be written. -/
def append (sheet : WriterSheet) (line : String) : Except SheetError Unit × WriterSheet :=
  match sheet.writer.write (lineBytes line) with
  | (.error error, writer) => (.error error, ⟨writer⟩)
  | (.ok (), writer) => (writer.flush.1, ⟨writer.flush.2⟩)

instance : Sheet WriterSheet where
  isLive _ := true
  start sheet := (.ok (), sheet)
  append := append

end WriterSheet

end CssRules
