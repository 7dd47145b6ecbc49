import CssRules.Rule

/-!
The catalog of registered rules: identifiers and the handles registered under them, in the order of
registration. The first handle registered under an identifier stays, and entries are never removed.
-/

namespace CssRules

structure Catalog where
  entries : List (String × Handle) := []
  deriving DecidableEq, Repr, Inhabited

namespace Catalog

def size (catalog : Catalog) : Nat := catalog.entries.length

def isEmpty (catalog : Catalog) : Bool := catalog.entries.isEmpty

/-- The handle registered under an identifier. -/
def lookup (catalog : Catalog) (identifier : String) : Option Handle :=
  catalog.entries.lookup identifier

def contains (catalog : Catalog) (identifier : String) : Bool := (catalog.lookup identifier).isSome

/-- Adds an entry at the end, unless its identifier is already there. -/
def insert (catalog : Catalog) (identifier : String) (handle : Handle) : Catalog :=
  if catalog.contains identifier then catalog else ⟨catalog.entries ++ [(identifier, handle)]⟩

theorem lookup_insert_self (catalog : Catalog) (identifier : String) (handle : Handle) :
    (catalog.insert identifier handle).lookup identifier =
      some ((catalog.lookup identifier).getD handle) := by
  unfold insert contains
  cases h : catalog.lookup identifier with
  | some _ => simp [h]
  | none =>
    have h' : catalog.entries.lookup identifier = none := h
    simp [lookup, List.lookup_append, h']

theorem lookup_insert_other (catalog : Catalog) {identifier other : String} (handle : Handle)
    (h : other ≠ identifier) : (catalog.insert identifier handle).lookup other = catalog.lookup other := by
  unfold insert
  split
  · rfl
  · have hne : (other == identifier) = false := by simpa using h
    simp [lookup, List.lookup_append, List.lookup_cons, hne]

theorem entries_prefix_insert (catalog : Catalog) (identifier : String) (handle : Handle) :
    catalog.entries <+: (catalog.insert identifier handle).entries := by
  unfold insert
  split
  · exact List.prefix_rfl
  · exact List.prefix_append _ _

end Catalog

end CssRules
