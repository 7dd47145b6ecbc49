import CssRules.RuleGraph
import Mathlib.Data.List.Count

/-! What the operations on a graph of rules do to each rule, and the pairing of its edges. A rule stands
as often among the children of another one as that one among its containers. -/

namespace CssRules

theorem Handle.index_inj {handle handle' : Handle} : handle.index = handle'.index ↔ handle = handle' := by
  constructor
  · intro h
    obtain ⟨number⟩ := handle
    obtain ⟨number'⟩ := handle'
    exact congrArg Handle.mk (UInt32.toNat_inj.mp h)
  · rintro rfl
    rfl

theorem Place.mem_insert {α : Type} {place : Place} {item other : α} {items : List α} :
    other ∈ place.insert item items ↔ other = item ∨ other ∈ items := by
  cases place with
  | front => simp
  | back => simp [or_comm]

namespace RuleGraph

/-- One of the lists of the rule under a handle; without a rule it is empty. -/
def handlesOf (graph : RuleGraph) (list : Rule → List Handle) (handle : Handle) : List Handle :=
  match graph.rule handle with
  | .ok rule => list rule
  | .error _ => []

def childrenOf (graph : RuleGraph) (handle : Handle) : List Handle :=
  graph.handlesOf Rule.children handle

def containersOf (graph : RuleGraph) (handle : Handle) : List Handle :=
  graph.handlesOf Rule.containers handle

/-- Every edge is written at both of its ends, equally often. -/
def Paired (graph : RuleGraph) : Prop :=
  ∀ parent child, (graph.childrenOf parent).count child = (graph.containersOf child).count parent

theorem rule_update (graph : RuleGraph) (handle other : Handle) (change : Rule → Rule) :
    (graph.update handle change).rule other =
      if other = handle then (graph.rule other).map change else graph.rule other := by
  split
  · subst other
    exact rule_update_self graph handle change
  · rename_i hne
    exact rule_update_other graph change fun h => hne (Handle.index_inj.mp h.symm)

theorem rule_create (graph : RuleGraph) (handle : Handle) :
    graph.create.2.rule handle = if handle.index = graph.size then .ok {} else graph.rule handle := by
  unfold RuleGraph.rule create size
  by_cases h : handle.index = graph.rules.size
  · simp [h]
  · simp [Array.getElem?_push, h]

theorem exists_rule_iff {graph : RuleGraph} {handle : Handle} :
    (∃ rule, graph.rule handle = .ok rule) ↔ handle.index < graph.size := by
  constructor
  · intro h
    obtain ⟨rule, hrule⟩ := h
    exact (Array.getElem?_eq_some_iff.mp (rule_eq_ok_iff.mp hrule)).1
  · intro h
    exact ⟨graph.rules[handle.index], rule_eq_ok_iff.mpr (Array.getElem?_eq_getElem h)⟩

/-- A change of one rule makes none and removes none. -/
theorem exists_rule_update {graph : RuleGraph} {handle other : Handle} {change : Rule → Rule} :
    (∃ rule, (graph.update handle change).rule other = .ok rule) ↔ ∃ rule, graph.rule other = .ok rule := by
  rw [exists_rule_iff, exists_rule_iff, size_update]

theorem openRule_eq_ok_iff {graph : RuleGraph} {handle : Handle} {rule : Rule} :
    graph.openRule handle = .ok rule ↔ graph.rule handle = .ok rule ∧ rule.identifier = none := by
  unfold openRule
  cases graph.rule handle with
  | error error => simp
  | ok found =>
      simp only [Except.ok.injEq]
      cases hidentifier : found.identifier with
      | none =>
          simp only [Rule.isSealed, hidentifier, Option.isSome_none, Bool.false_eq_true, ↓reduceIte,
            Except.ok.injEq]
          constructor
          · rintro rfl
            exact ⟨rfl, hidentifier⟩
          · exact And.left
      | some identifier =>
          simp only [Rule.isSealed, hidentifier, Option.isSome_some, ↓reduceIte, reduceCtorEq, false_iff]
          rintro ⟨rfl, hopen⟩
          rw [hidentifier] at hopen
          cases hopen

/-- The graph with one more edge, written at both of its ends. -/
def nest (graph : RuleGraph) (parent child : Handle) (place : Place) : RuleGraph :=
  (graph.update parent fun rule => { rule with children := place.insert child rule.children }).update
    child fun rule => { rule with containers := rule.containers ++ [parent] }

section Lists

variable {graph : RuleGraph} {list : Rule → List Handle} {handle : Handle}

theorem handlesOf_eq {rule : Rule} (hrule : graph.rule handle = .ok rule) :
    graph.handlesOf list handle = list rule := by
  simp [handlesOf, hrule]

theorem handlesOf_create (hempty : list {} = []) (handle : Handle) :
    graph.create.2.handlesOf list handle = graph.handlesOf list handle := by
  unfold handlesOf
  rw [rule_create]
  by_cases hnew : handle.index = graph.size
  · have herror : graph.rule handle = .error (.invalidRule handle) :=
      rule_eq_error_iff.mpr ⟨Nat.le_of_eq hnew.symm, rfl⟩
    simp [hnew, herror, hempty]
  · simp [hnew]

theorem handlesOf_update {change : Rule → Rule} (other : Handle)
    (hsame : other = handle → ∀ rule, list (change rule) = list rule) :
    (graph.update handle change).handlesOf list other = graph.handlesOf list other := by
  unfold handlesOf
  rw [rule_update]
  by_cases hother : other = handle
  · cases hrule : graph.rule other with
    | error error => simp [hother, Except.map]
    | ok rule => simp [hother, Except.map, hsame hother]
  · simp [hother]

theorem handlesOf_update_self {change : Rule → Rule} {rule : Rule} (hrule : graph.rule handle = .ok rule) :
    (graph.update handle change).handlesOf list handle = list (change rule) := by
  simp [handlesOf, rule_update, hrule, Except.map]

variable {parent child : Handle} {place : Place}

theorem childrenOf_nest (hparent : ∃ rule, graph.rule parent = .ok rule) (handle : Handle) :
    (graph.nest parent child place).childrenOf handle =
      if handle = parent then place.insert child (graph.childrenOf parent)
      else graph.childrenOf handle := by
  obtain ⟨rule, hrule⟩ := hparent
  unfold childrenOf nest
  rw [handlesOf_update handle fun _ _ => by rfl]
  by_cases hhandle : handle = parent
  · subst hhandle
    rw [if_pos rfl, handlesOf_update_self hrule, handlesOf_eq hrule]
  · rw [if_neg hhandle, handlesOf_update handle fun h => absurd h hhandle]

theorem containersOf_nest (hchild : ∃ rule, graph.rule child = .ok rule) (handle : Handle) :
    (graph.nest parent child place).containersOf handle =
      if handle = child then graph.containersOf child ++ [parent] else graph.containersOf handle := by
  obtain ⟨rule, hrule⟩ := hchild
  unfold containersOf nest
  by_cases hhandle : handle = child
  · subst hhandle
    obtain ⟨edited, hedited⟩ : ∃ edited, (graph.update parent fun rule =>
        { rule with children := place.insert handle rule.children }).rule handle = .ok edited :=
      exists_rule_update.mpr ⟨rule, hrule⟩
    have hsame : (graph.update parent fun rule =>
        { rule with children := place.insert handle rule.children }).handlesOf Rule.containers handle =
          graph.handlesOf Rule.containers handle := handlesOf_update handle fun _ _ => rfl
    rw [if_pos rfl, handlesOf_update_self hedited, ← hsame, handlesOf_eq hedited]
  · rw [if_neg hhandle, handlesOf_update handle fun h => absurd h hhandle,
      handlesOf_update handle fun _ _ => by rfl]

end Lists

theorem paired_empty : Paired {} := by
  intro parent child
  rfl

theorem Paired.create {graph : RuleGraph} (h : graph.Paired) : graph.create.2.Paired := by
  intro parent child
  unfold childrenOf containersOf
  rw [handlesOf_create rfl, handlesOf_create rfl]
  exact h parent child

theorem Paired.update {graph : RuleGraph} {handle : Handle} {change : Rule → Rule} (h : graph.Paired)
    (hchildren : ∀ rule, (change rule).children = rule.children)
    (hcontainers : ∀ rule, (change rule).containers = rule.containers) :
    (graph.update handle change).Paired := by
  intro parent child
  unfold childrenOf containersOf
  rw [handlesOf_update _ fun _ => hchildren, handlesOf_update _ fun _ => hcontainers]
  exact h parent child

theorem count_insert (place : Place) (item other : Handle) (items : List Handle) :
    (place.insert item items).count other = items.count other + if item = other then 1 else 0 := by
  cases place <;> simp [List.count_cons, List.count_append]

theorem Paired.nest {graph : RuleGraph} {parent child : Handle} {place : Place} (h : graph.Paired)
    (hparent : ∃ rule, graph.rule parent = .ok rule) (hchild : ∃ rule, graph.rule child = .ok rule) :
    (graph.nest parent child place).Paired := by
  intro other handle
  rw [childrenOf_nest hparent, containersOf_nest hchild]
  have hcount := h other handle
  by_cases hother : other = parent <;> by_cases hhandle : handle = child
  · subst hother hhandle
    simp [count_insert, hcount]
  · subst hother
    simp [count_insert, hcount, hhandle, Ne.symm hhandle]
  · subst hhandle
    simp [hcount, hother, List.count_append, Ne.symm hother]
  · simp [hcount, hother, hhandle]

end RuleGraph

end CssRules
