import CssRules.Proofs.Recursion
import Mathlib.Data.Set.Card

/-! Acyclic graphs of rules. The handles of a graph have a rank that falls along every edge exactly if no rule
stands below itself and every child exists: the number of rules below a rule is such a rank. -/

namespace CssRules.RuleGraph

/-- The second rule stands somewhere below the first one. -/
def Below (graph : RuleGraph) : Handle → Handle → Prop :=
  Relation.TransGen fun parent child => child ∈ graph.childrenOf parent

/-- No rule stands below itself. -/
def Acyclic (graph : RuleGraph) : Prop := ∀ handle, ¬ graph.Below handle handle

/-- Every child is the handle of a rule. -/
def ChildrenExist (graph : RuleGraph) : Prop :=
  ∀ {parent child}, child ∈ graph.childrenOf parent → child.index < graph.size

variable {graph : RuleGraph} {rank : Handle → Nat} {handle other : Handle}

theorem lt_of_below (hfalls : ∀ {parent child}, child ∈ graph.childrenOf parent → rank child < rank parent)
    (hbelow : graph.Below handle other) : rank other < rank handle := by
  induction hbelow with
  | single hchild => exact hfalls hchild
  | tail _ hchild ih => exact Nat.lt_trans (hfalls hchild) ih

/-- An order of the handles in which children come first leaves no room for cycles. -/
theorem acyclic_of_falls
    (hfalls : ∀ {parent child}, child ∈ graph.childrenOf parent → rank child < rank parent) :
    graph.Acyclic :=
  fun _ hbelow => Nat.lt_irrefl _ (lt_of_below hfalls hbelow)

theorem Ranked.acyclic (h : graph.Ranked rank) : graph.Acyclic := acyclic_of_falls h.child_lt

/-- No cycle if each child was created before the rules that contain it. -/
theorem acyclic_of_index
    (h : ∀ index < graph.size, ∀ child ∈ graph.childrenOf (.ofCount index), child.index < index) :
    graph.Acyclic := by
  have hfalls {parent child : Handle} (hchild : child ∈ graph.childrenOf parent) :
      child.index < parent.index := by
    obtain ⟨rule, hrule, -⟩ := exists_rule_of_mem_childrenOf hchild
    have hparent : Handle.ofCount parent.index = parent := congrArg Handle.mk UInt32.ofNat_toNat
    exact h parent.index (exists_rule_iff.mp ⟨rule, hrule⟩) child (hparent.symm ▸ hchild)
  exact acyclic_of_falls hfalls

/-- The number of rules below a rule. -/
noncomputable def countBelow (graph : RuleGraph) (handle : Handle) : Nat :=
  {other | graph.Below handle other}.ncard

section

variable (hexist : graph.ChildrenExist)
include hexist

theorem ChildrenExist.index_lt_of_below (hbelow : graph.Below handle other) : other.index < graph.size := by
  cases hbelow with
  | single hchild => exact hexist hchild
  | tail _ hchild => exact hexist hchild

theorem ChildrenExist.maps_below (handle : Handle) :
    Set.MapsTo Handle.index {other | graph.Below handle other} (Finset.range graph.size) :=
  fun _ hbelow => Finset.mem_coe.mpr (Finset.mem_range.mpr (hexist.index_lt_of_below hbelow))

theorem ChildrenExist.finite_below (handle : Handle) : {other | graph.Below handle other}.Finite :=
  Set.Finite.of_injOn (hexist.maps_below handle) (fun _ _ _ _ => Handle.index_inj.mp)
    (Finset.finite_toSet _)

theorem ChildrenExist.countBelow_le (handle : Handle) : graph.countBelow handle ≤ graph.size := by
  have hle := Set.ncard_le_ncard_of_injOn Handle.index (hexist.maps_below handle)
    (fun _ _ _ _ => Handle.index_inj.mp) (Finset.finite_toSet _)
  rwa [Set.ncard_coe_finset, Finset.card_range] at hle

theorem Acyclic.ranked (h : graph.Acyclic) : graph.Ranked graph.countBelow where
  le_size := hexist.countBelow_le
  child_lt {parent child} hchild := by
    -- Everything below the child is below the parent, and the child itself is new.
    apply Set.ncard_lt_ncard _ (hexist.finite_below parent)
    refine ⟨fun other hbelow => .head hchild hbelow, fun hsubset => ?_⟩
    exact h child (hsubset (.single hchild))
  child_exists hchild := exists_rule_iff.mpr (hexist hchild)

end

/-- Ranks exist exactly in the acyclic graphs whose children exist. -/
theorem exists_ranked_iff : (∃ rank, graph.Ranked rank) ↔ graph.Acyclic ∧ graph.ChildrenExist := by
  constructor
  · intro h
    obtain ⟨rank, hranked⟩ := h
    exact ⟨hranked.acyclic, fun hchild => exists_rule_iff.mp (hranked.child_exists hchild)⟩
  · intro h
    obtain ⟨hacyclic, hexist⟩ := h
    exact ⟨graph.countBelow, hacyclic.ranked hexist⟩

end CssRules.RuleGraph
