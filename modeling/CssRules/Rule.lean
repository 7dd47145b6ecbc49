import CssRules.Declaration

/-!
Rules and their handles. A rule is one block of a sheet to be: the fragments of its selector, its
declarations and the rules nested in it. It is open until it has received its identifier, and sealed
from then on.
-/

namespace CssRules

/-- The number of a rule, a 32-bit word. -/
structure Handle where
  number : UInt32
  deriving DecidableEq, Repr

def Handle.index (handle : Handle) : Nat := handle.number.toNat

/-- The handle of the rule that is created after `count` others. -/
def Handle.ofCount (count : Nat) : Handle := ⟨UInt32.ofNat count⟩

def Handle.render (handle : Handle) : String := "#" ++ toString handle.index

structure Rule where
  /-- The pieces of the selector, from left to right. -/
  fragments : List String := []
  declarations : List Declaration := []
  /-- The rules whose blocks follow the block of this one. -/
  children : List Handle := []
  /-- The rules that this one is a child of, in the order in which they adopted it. -/
  containers : List Handle := []
  /-- Present as soon as the rule is registered. -/
  identifier : Option String := none
  deriving Inhabited

def Rule.isTopLevel (rule : Rule) : Bool := rule.containers.isEmpty

def Rule.isSealed (rule : Rule) : Bool := rule.identifier.isSome

/-- Which end of a list something is added to. -/
inductive Place where
  | front
  | back
  deriving DecidableEq, Repr, Inhabited

def Place.insert {α : Type} (place : Place) (item : α) (items : List α) : List α :=
  match place with
  | .front => item :: items
  | .back => items ++ [item]

@[simp] theorem Place.insert_front {α : Type} (item : α) (items : List α) :
    Place.front.insert item items = item :: items := rfl

@[simp] theorem Place.insert_back {α : Type} (item : α) (items : List α) :
    Place.back.insert item items = items ++ [item] := rfl

end CssRules
