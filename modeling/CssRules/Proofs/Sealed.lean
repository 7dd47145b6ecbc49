import CssRules.Proofs.Recursion

/-! What sealed rules keep. While a graph grows a sealed rule changes in nothing but its containers, so
that its identifier, the content its identifier stands for and its block stay as they are. -/

namespace CssRules.RuleGraph

/-- A rule under the handle is sealed with the identifier. -/
def SealedAs (graph : RuleGraph) (handle : Handle) (identifier : String) : Prop :=
  ∃ rule, graph.rule handle = .ok rule ∧ rule.identifier = some identifier

/-- The content of a rule, from which the identifier of an open rule is made. -/
def contentOf (graph : RuleGraph) (handle : Handle) : Except Error String := do
  let rule ← graph.rule handle
  let children ← rule.children.mapM graph.identifier
  return Identifier.content rule.fragments (rule.declarations.map Declaration.render) children

/-- The identifier of a rule is the one that its content makes. -/
def Current (graph : RuleGraph) (handle : Handle) : Prop :=
  ∃ content, graph.contentOf handle = .ok content ∧
    graph.identifier handle = .ok (Identifier.ofContent content)

/-- A later graph has all rules, and the sealed ones with nothing new but further containers at the end. -/
structure Extends (graph next : RuleGraph) : Prop where
  size_le : graph.size ≤ next.size
  frozen : ∀ {handle rule identifier}, graph.rule handle = .ok rule → rule.identifier = some identifier →
    ∃ more, next.rule handle = .ok { rule with containers := rule.containers ++ more }

variable {graph next : RuleGraph} {handle : Handle} {identifier : String}

theorem exists_rule_of_identifier (h : graph.identifier handle = .ok identifier) :
    ∃ rule, graph.rule handle = .ok rule := by
  cases hrule : graph.rule handle with
  | error error => simp [RuleGraph.identifier, identifierWithin, hrule, bind, Except.bind] at h
  | ok rule => exact ⟨rule, rfl⟩

theorem SealedAs.identifier_eq (h : graph.SealedAs handle identifier) :
    graph.identifier handle = .ok identifier := by
  obtain ⟨rule, hrule, hidentifier⟩ := h
  exact identifier_of_sealed hrule hidentifier

theorem SealedAs.exists_rule (h : graph.SealedAs handle identifier) :
    ∃ rule, graph.rule handle = .ok rule := by
  obtain ⟨rule, hrule, -⟩ := h
  exact ⟨rule, hrule⟩

theorem SealedAs.not_open {rule : Rule} (h : graph.SealedAs handle identifier)
    (hrule : graph.rule handle = .ok rule) : rule.identifier ≠ none := by
  obtain ⟨found, hfound, hidentifier⟩ := h
  rw [hfound] at hrule
  cases hrule
  simp [hidentifier]

theorem sealedAs_create : graph.create.2.SealedAs handle identifier ↔ graph.SealedAs handle identifier := by
  unfold SealedAs
  rw [rule_create]
  by_cases hnew : handle.index = graph.size
  · have herror : graph.rule handle = .error (.invalidRule handle) :=
      rule_eq_error_iff.mpr ⟨Nat.le_of_eq hnew.symm, rfl⟩
    simp [hnew, herror]
  · simp [hnew]

theorem sealedAs_update {change : Rule → Rule} (other : Handle)
    (hsame : other = handle → ∀ rule, (change rule).identifier = rule.identifier) :
    (graph.update handle change).SealedAs other identifier ↔ graph.SealedAs other identifier := by
  unfold SealedAs
  rw [rule_update]
  by_cases hother : other = handle
  · cases graph.rule other with
    | error error => simp [hother, Except.map]
    | ok rule => simp [hother, Except.map, hsame hother]
  · simp [hother]

theorem sealedAs_nest {parent child : Handle} {place : Place} :
    (graph.nest parent child place).SealedAs handle identifier ↔ graph.SealedAs handle identifier := by
  rw [nest, sealedAs_update handle fun _ _ => by rfl, sealedAs_update handle fun _ _ => by rfl]

/-- The graph with the rule under the handle sealed. -/
def sealWith (graph : RuleGraph) (handle : Handle) (identifier : String) : RuleGraph :=
  graph.update handle fun rule => { rule with identifier := some identifier }

theorem childrenOf_sealWith (other : Handle) :
    (graph.sealWith handle identifier).childrenOf other = graph.childrenOf other :=
  handlesOf_update other fun _ _ => rfl

theorem sealedAs_sealWith {other : Handle} {name : String} (hrule : ∃ rule, graph.rule handle = .ok rule) :
    (graph.sealWith handle identifier).SealedAs other name ↔
      if other = handle then name = identifier else graph.SealedAs other name := by
  by_cases hother : other = handle
  · obtain ⟨rule, hrule⟩ := hrule
    subst hother
    simp [SealedAs, sealWith, rule_update, hrule, Except.map, eq_comm]
  · rw [if_neg hother, sealWith, sealedAs_update other fun h => absurd h hother]

theorem sealedAs_sealWith_self (hrule : ∃ rule, graph.rule handle = .ok rule) :
    (graph.sealWith handle identifier).SealedAs handle identifier := by
  rw [sealedAs_sealWith hrule, if_pos rfl]

/-- Sealing a rule twice is sealing it once. -/
theorem sealWith_sealWith :
    (graph.sealWith handle identifier).sealWith handle identifier = graph.sealWith handle identifier := by
  simp only [sealWith, update, RuleGraph.mk.injEq]
  apply Array.ext_getElem?
  intro index
  rw [Array.getElem?_modify, Array.getElem?_modify]
  split
  · rw [Option.map_map]
    rfl
  · rfl

/-- The content of an open rule makes its identifier. -/
theorem Ranked.current_of_open {rank : Handle → Nat} {rule : Rule} (h : graph.Ranked rank)
    (hrule : graph.rule handle = .ok rule) (hopen : rule.identifier = none) : graph.Current handle := by
  obtain ⟨children, hchildren⟩ : ∃ children, rule.children.mapM graph.identifier = .ok children := by
    apply exists_mapM_eq_ok
    intro child hchild
    obtain ⟨childRule, hchildRule⟩ := h.child_exists (mem_childrenOf hrule hchild)
    exact h.exists_identifier hchildRule
  refine ⟨Identifier.content rule.fragments (rule.declarations.map Declaration.render) children, ?_, ?_⟩
  · simp only [contentOf, hrule, hchildren, bind, Except.bind]
    rfl
  · rw [h.identifier_eq]
    simp only [hrule, hopen, hchildren, bind, Except.bind]
    rfl

namespace Extends

theorem refl (graph : RuleGraph) : graph.Extends graph :=
  ⟨Nat.le_refl _, fun hrule _ => ⟨[], by rwa [List.append_nil]⟩⟩

theorem trans {last : RuleGraph} (h : graph.Extends next) (h' : next.Extends last) :
    graph.Extends last := by
  refine ⟨Nat.le_trans h.size_le h'.size_le, fun hrule hidentifier => ?_⟩
  obtain ⟨first, hnext⟩ := h.frozen hrule hidentifier
  obtain ⟨second, hlast⟩ := h'.frozen hnext hidentifier
  exact ⟨first ++ second, by rwa [← List.append_assoc]⟩

theorem create (graph : RuleGraph) : graph.Extends graph.create.2 := by
  refine ⟨by simp, fun hrule _ => ⟨[], ?_⟩⟩
  have hlt := exists_rule_iff.mp ⟨_, hrule⟩
  rwa [rule_create, if_neg (Nat.ne_of_lt hlt), List.append_nil]

theorem update {change : Rule → Rule}
    (hsealed : ∀ rule, graph.rule handle = .ok rule → rule.identifier ≠ none →
      ∃ more, change rule = { rule with containers := rule.containers ++ more }) :
    graph.Extends (graph.update handle change) := by
  refine ⟨by simp, fun {other rule identifier} hrule hidentifier => ?_⟩
  rw [rule_update, hrule]
  by_cases hother : other = handle
  · subst hother
    obtain ⟨more, hchange⟩ := hsealed rule hrule (by simp [hidentifier])
    exact ⟨more, by simp [Except.map, hchange]⟩
  · exact ⟨[], by rw [if_neg hother, List.append_nil]⟩

theorem update_open {change : Rule → Rule} {rule : Rule} (hrule : graph.rule handle = .ok rule)
    (hopen : rule.identifier = none) : graph.Extends (graph.update handle change) := by
  apply update
  intro found hfound hsealed
  rw [hrule] at hfound
  cases hfound
  exact absurd hopen hsealed

theorem nest {parent child : Handle} {rule : Rule} (hrule : graph.rule parent = .ok rule)
    (hopen : rule.identifier = none) (place : Place) : graph.Extends (graph.nest parent child place) :=
  (update_open hrule hopen).trans (update fun _ _ _ => ⟨_, rfl⟩)

theorem sealWith {rule : Rule} (hrule : graph.rule handle = .ok rule)
    (hidentifier : rule.identifier = none ∨ rule.identifier = some identifier) :
    graph.Extends (graph.sealWith handle identifier) := by
  apply update
  intro found hfound hsealed
  rw [hrule] at hfound
  cases hfound
  rcases hidentifier with hopen | hidentifier
  · exact absurd hopen hsealed
  · exact ⟨[], by rw [← hidentifier, List.append_nil]⟩

theorem sealedAs (h : graph.Extends next) (hsealed : graph.SealedAs handle identifier) :
    next.SealedAs handle identifier := by
  obtain ⟨rule, hrule, hidentifier⟩ := hsealed
  obtain ⟨more, hnext⟩ := h.frozen hrule hidentifier
  exact ⟨_, hnext, hidentifier⟩

theorem identifier_eq (h : graph.Extends next) (hsealed : graph.SealedAs handle identifier) :
    next.identifier handle = graph.identifier handle := by
  rw [hsealed.identifier_eq, (h.sealedAs hsealed).identifier_eq]

/-- The content of a sealed rule stays if its children are sealed too. -/
theorem contentOf_eq (h : graph.Extends next) (hsealed : graph.SealedAs handle identifier)
    (hchildren : ∀ child ∈ graph.childrenOf handle, ∃ name, graph.SealedAs child name) :
    next.contentOf handle = graph.contentOf handle := by
  obtain ⟨rule, hrule, hidentifier⟩ := hsealed
  obtain ⟨more, hnext⟩ := h.frozen hrule hidentifier
  have hnames : rule.children.mapM next.identifier = rule.children.mapM graph.identifier := by
    apply mapM_congr
    intro child hchild
    obtain ⟨name, hname⟩ := hchildren child (mem_childrenOf hrule hchild)
    exact h.identifier_eq hname
  simp only [contentOf, hrule, hnext, bind, Except.bind, hnames]

/-- Sealing a rule changes no content as long as the children are sealed. -/
theorem contentOf_sealWith {other : Handle} (h : graph.Extends (graph.sealWith handle identifier))
    (hchildren : ∀ child ∈ graph.childrenOf other, ∃ name, graph.SealedAs child name) :
    (graph.sealWith handle identifier).contentOf other = graph.contentOf other := by
  have hrule : (graph.sealWith handle identifier).rule other = if other = handle then
      (graph.rule other).map fun rule => { rule with identifier := some identifier }
      else graph.rule other := rule_update ..
  cases hfound : graph.rule other with
  | error error => simp [contentOf, hrule, hfound, Except.map, bind, Except.bind]
  | ok rule =>
      have hnames : rule.children.mapM (graph.sealWith handle identifier).identifier =
          rule.children.mapM graph.identifier := by
        apply mapM_congr
        intro child hchild
        obtain ⟨name, hname⟩ := hchildren child (mem_childrenOf hfound hchild)
        exact h.identifier_eq hname
      rw [hfound] at hrule
      by_cases hother : other = handle
      · rw [if_pos hother] at hrule
        simp only [contentOf, hrule, hfound, Except.map, bind, Except.bind, hnames]
      · rw [if_neg hother] at hrule
        simp only [contentOf, hrule, hfound, bind, Except.bind, hnames]

theorem block_eq (h : graph.Extends next) (hsealed : graph.SealedAs handle identifier) (layout : Layout) :
    next.block layout handle = graph.block layout handle := by
  have hname := h.identifier_eq hsealed
  obtain ⟨rule, hrule, hidentifier⟩ := hsealed
  obtain ⟨more, hnext⟩ := h.frozen hrule hidentifier
  exact block_congr hnext hrule rfl rfl hname layout

end Extends

end CssRules.RuleGraph
