import CssRules.Hash.Xxh3
import CssRules.Number.Base36

/-!
Fingerprints: the 64-bit hashes of texts. Rules get their identifiers from the fingerprint of their
content, and a feed remembers the fingerprints of the lines it has delivered.
-/

namespace CssRules

/-- The 64-bit hash that stands for a text. -/
abbrev Fingerprint := UInt64

/-- The fingerprint of a text is the hash of its UTF-8 bytes. -/
def Fingerprint.ofText (text : String) : Fingerprint := Hash.Xxh3.hash text.toUTF8

/-- A set of fingerprints, in the order in which they were recorded. -/
structure Fingerprints where
  recorded : List Fingerprint := []
  deriving DecidableEq, Repr, Inhabited

namespace Fingerprints

def contains (set : Fingerprints) (fingerprint : Fingerprint) : Bool := set.recorded.contains fingerprint

/-- Adds a fingerprint that is not yet in the set. -/
def record (set : Fingerprints) (fingerprint : Fingerprint) : Fingerprints :=
  if set.contains fingerprint then set else ⟨set.recorded ++ [fingerprint]⟩

def size (set : Fingerprints) : Nat := set.recorded.length

def isEmpty (set : Fingerprints) : Bool := set.recorded.isEmpty

@[simp] theorem contains_iff_mem {set : Fingerprints} {fingerprint : Fingerprint} :
    set.contains fingerprint = true ↔ fingerprint ∈ set.recorded := by
  simp [contains]

theorem mem_record {set : Fingerprints} {fingerprint other : Fingerprint} :
    other ∈ (set.record fingerprint).recorded ↔ other ∈ set.recorded ∨ other = fingerprint := by
  unfold record
  split
  · rename_i h
    rw [contains_iff_mem] at h
    exact ⟨Or.inl, fun h' => h'.elim id fun e => e ▸ h⟩
  · simp

end Fingerprints

end CssRules
