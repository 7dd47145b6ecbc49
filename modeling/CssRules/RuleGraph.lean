import CssRules.Error

/-!
All rules of a library, numbered in the order of their creation. Rules are never removed, and they refer
to one another by handles only. A child edge and the container edge back are written together by
`adopt` and by nothing else.
-/

namespace CssRules

structure RuleGraph where
  rules : Array Rule := #[]
  deriving Inhabited

namespace RuleGraph

def size (graph : RuleGraph) : Nat := graph.rules.size

def isEmpty (graph : RuleGraph) : Bool := graph.rules.isEmpty

/-- Adds an empty open rule. -/
def create (graph : RuleGraph) : Handle × RuleGraph :=
  (.ofCount graph.size, ⟨graph.rules.push {}⟩)

/-- The rule under a handle. -/
def rule (graph : RuleGraph) (handle : Handle) : Except Error Rule :=
  match graph.rules[handle.index]? with
  | some rule => .ok rule
  | none => .error (.invalidRule handle)

/-- The rule under a handle, if it can still change. -/
def openRule (graph : RuleGraph) (handle : Handle) : Except Error Rule :=
  match graph.rule handle with
  | .error error => .error error
  | .ok rule => if rule.isSealed then .error (.sealedRule handle) else .ok rule

/-- Changes the rule under a handle; without such a rule nothing happens. -/
def update (graph : RuleGraph) (handle : Handle) (change : Rule → Rule) : RuleGraph :=
  ⟨graph.rules.modify handle.index change⟩

/-- Changes an open rule. -/
def edit (graph : RuleGraph) (handle : Handle) (change : Rule → Rule) : Except Error RuleGraph :=
  match graph.openRule handle with
  | .error error => .error error
  | .ok _ => .ok (graph.update handle change)

def addFragment (graph : RuleGraph) (owner : Handle) (fragment : String) (place : Place) :
    Except Error RuleGraph :=
  graph.edit owner fun rule => { rule with fragments := place.insert fragment rule.fragments }

def addDeclaration (graph : RuleGraph) (owner : Handle) (declaration : Declaration) (place : Place) :
    Except Error RuleGraph :=
  graph.edit owner fun rule => { rule with declarations := place.insert declaration rule.declarations }

/-- Makes `child` a child of the open rule `parent`, at the given end of its children, and `parent` the
last container of `child`. That the child exists is checked first. -/
def adopt (graph : RuleGraph) (parent child : Handle) (place : Place) : Except Error RuleGraph :=
  match graph.rule child with
  | .error error => .error error
  | .ok _ =>
    match graph.edit parent fun rule => { rule with children := place.insert child rule.children } with
    | .error error => .error error
    | .ok graph =>
      .ok (graph.update child fun rule => { rule with containers := rule.containers ++ [parent] })

@[simp] theorem size_update (graph : RuleGraph) (handle : Handle) (change : Rule → Rule) :
    (graph.update handle change).size = graph.size := by
  simp [update, size]

@[simp] theorem size_create (graph : RuleGraph) : graph.create.2.size = graph.size + 1 := by
  simp [create, size]

theorem rule_eq_ok_iff {graph : RuleGraph} {handle : Handle} {rule : Rule} :
    graph.rule handle = .ok rule ↔ graph.rules[handle.index]? = some rule := by
  unfold RuleGraph.rule
  split <;> simp_all

theorem rule_eq_error_iff {graph : RuleGraph} {handle : Handle} {error : Error} :
    graph.rule handle = .error error ↔ graph.size ≤ handle.index ∧ error = .invalidRule handle := by
  unfold RuleGraph.rule
  split
  · rename_i h
    have := (Array.getElem?_eq_some_iff.mp h).1
    simp [size]
    omega
  · rename_i h
    simp only [Except.error.injEq, size]
    exact ⟨fun e => ⟨Array.getElem?_eq_none_iff.mp h, e.symm⟩, fun e => e.2.symm⟩

theorem rule_update_self (graph : RuleGraph) (handle : Handle) (change : Rule → Rule) :
    (graph.update handle change).rule handle = (graph.rule handle).map change := by
  simp only [RuleGraph.rule, update, Array.getElem?_modify, ↓reduceIte]
  cases graph.rules[handle.index]? <;> rfl

theorem rule_update_other (graph : RuleGraph) {handle other : Handle} (change : Rule → Rule)
    (h : handle.index ≠ other.index) : (graph.update handle change).rule other = graph.rule other := by
  simp [RuleGraph.rule, update, Array.getElem?_modify, h]

end RuleGraph

end CssRules
