import CssRules.Proofs.Assembly

/-! Registering a rule is transparent. A sealed rule answers with the identifier that is stored in it, and an open
one with the identifier that its content makes; sealing a rule stores the second in the place of the first. So no
answer changes, neither for the rule itself nor for any rule above it, even if the rules below it are open. -/

namespace CssRules

namespace RuleGraph

variable {graph next : RuleGraph} {rank : Handle → Nat} {handle : Handle} {name : String}

/-- The walk below a rule goes along the children and depends on nothing else. -/
theorem walkWithin_of_children (hchildren : ∀ other, next.childrenOf other = graph.childrenOf other)
    (depth : Nat) (handle : Handle) : next.walkWithin depth handle = graph.walkWithin depth handle := by
  induction depth generalizing handle with
  | zero => rfl
  | succ depth ih =>
      rw [walkWithin, walkWithin, hchildren]
      congr 1
      exact List.flatMap_congr fun child _ => ih child

theorem walk_sealWith (other : Handle) : (graph.sealWith handle name).walk other = graph.walk other := by
  have hsize : (graph.sealWith handle name).size = graph.size := size_update ..
  rw [walk, walk, hsize]
  exact walkWithin_of_children childrenOf_sealWith _ other

theorem rule_sealWith_self {rule : Rule} (hrule : graph.rule handle = .ok rule) :
    (graph.sealWith handle name).rule handle = .ok { rule with identifier := some name } := by
  rw [sealWith, rule_update_self, hrule]
  rfl

theorem rule_sealWith_other {other : Handle} (hother : other ≠ handle) :
    (graph.sealWith handle name).rule other = graph.rule other := by
  rw [sealWith, rule_update, if_neg hother]

/-- What sealing does to a rule: it stores the identifier in the sealed one, and no rule appears or disappears. -/
theorem rule_sealWith_cases (graph : RuleGraph) (handle : Handle) (name : String) (other : Handle) :
    (∃ error, graph.rule other = .error error ∧ (graph.sealWith handle name).rule other = .error error) ∨
    ∃ rule sealed, graph.rule other = .ok rule ∧ (graph.sealWith handle name).rule other = .ok sealed ∧
      sealed.fragments = rule.fragments ∧ sealed.declarations = rule.declarations ∧
      sealed.children = rule.children ∧
      sealed.identifier = if other = handle then some name else rule.identifier := by
  by_cases hother : other = handle
  · subst hother
    cases hrule : graph.rule other with
    | error error =>
        refine Or.inl ⟨error, rfl, ?_⟩
        rw [sealWith, rule_update_self, hrule]
        rfl
    | ok rule => exact Or.inr ⟨rule, _, rfl, rule_sealWith_self hrule, rfl, rfl, rfl, (if_pos rfl).symm⟩
  · rw [rule_sealWith_other hother]
    cases graph.rule other with
    | error error => exact Or.inl ⟨error, rfl, rfl⟩
    | ok rule => exact Or.inr ⟨rule, rule, rfl, rfl, rfl, rfl, rfl, (if_neg hother).symm⟩

theorem Ranked.sealWith (h : graph.Ranked rank) : (graph.sealWith handle name).Ranked rank where
  le_size other := Nat.le_trans (h.le_size other) (Nat.le_of_eq (size_update ..).symm)
  child_lt hchild := h.child_lt (childrenOf_sealWith _ ▸ hchild)
  child_exists hchild := exists_rule_update.mpr (h.child_exists (childrenOf_sealWith _ ▸ hchild))

section

variable (h : graph.Ranked rank) (hname : graph.identifier handle = .ok name)
include h hname

/-- Sealing a rule with its identifier changes the identifier of no rule. The induction is on the rank: an open
rule makes its identifier of those of its children. -/
theorem Ranked.identifier_sealWith (other : Handle) :
    (graph.sealWith handle name).identifier other = graph.identifier other := by
  induction hrank : rank other using Nat.strongRecOn generalizing other with
  | ind n ih =>
      rcases rule_sealWith_cases graph handle name other with
        ⟨error, hrule, hrule'⟩ | ⟨rule, sealed, hrule, hrule', hfragments, hdeclarations, hchildren, hidentifier⟩
      · simp only [h.identifier_eq, h.sealWith.identifier_eq, hrule, hrule', bind, Except.bind]
      · by_cases hother : other = handle
        · rw [if_pos hother] at hidentifier
          rw [identifier_of_sealed hrule' hidentifier, hother, hname]
        · rw [if_neg hother] at hidentifier
          have hnames : sealed.children.mapM (graph.sealWith handle name).identifier =
              rule.children.mapM graph.identifier := by
            rw [hchildren]
            apply mapM_congr
            intro child hchild
            exact ih _ (hrank ▸ h.child_lt (mem_childrenOf hrule hchild)) child rfl
          simp only [h.identifier_eq, h.sealWith.identifier_eq, hrule, hrule', hidentifier, hfragments,
            hdeclarations, hnames, bind, Except.bind]

theorem Ranked.selector_sealWith (other : Handle) :
    (graph.sealWith handle name).selector other = graph.selector other := by
  rcases rule_sealWith_cases graph handle name other with
    ⟨error, hrule, hrule'⟩ | ⟨rule, sealed, hrule, hrule', hfragments, -⟩
  · simp only [selector, hrule, hrule', bind, Except.bind]
  · exact selector_congr hrule' hrule hfragments (h.identifier_sealWith hname other)

theorem Ranked.block_sealWith (layout : Layout) (other : Handle) :
    (graph.sealWith handle name).block layout other = graph.block layout other := by
  rcases rule_sealWith_cases graph handle name other with
    ⟨error, hrule, hrule'⟩ | ⟨rule, sealed, hrule, hrule', hfragments, hdeclarations, -⟩
  · simp only [block, hrule, hrule', bind, Except.bind]
  · exact block_congr hrule' hrule hfragments (congrArg _ hdeclarations) (h.identifier_sealWith hname other)
      layout

theorem Ranked.blocks_sealWith (layout : Layout) (other : Handle) :
    (graph.sealWith handle name).blocks layout other = graph.blocks layout other := by
  rw [h.sealWith.blocks_eq_walk, h.blocks_eq_walk, walk_sealWith]
  exact mapM_congr fun inner _ => h.block_sealWith hname layout inner

end

theorem getElem?_sealWith (index : Nat) : (graph.sealWith handle name).rules[index]? =
    if index = handle.index then graph.rules[index]?.map fun rule => { rule with identifier := some name }
    else graph.rules[index]? := by
  simp only [sealWith, update, Array.getElem?_modify, eq_comm (a := index)]

end RuleGraph

namespace RuleBook

/-- **Registering is transparent.** Take any operations that leave the graph acyclic, in which rules may be nested
and sealed while the rules below them are open, and any rule. Registering it succeeds with the identifier that was
computed for it before, and stores this identifier in the rule; no other field of any rule changes. All rules, those
that contain it among them, keep their identifiers, their selectors and their blocks in every layout. Registering
the rule a second time changes nothing and gives the same identifier. -/
theorem register_transparent (operations : List Operation) (hacyclic : (assemble operations).graph.Acyclic)
    {handle : Handle} (hhandle : handle.index < (assemble operations).graph.size) :
    ∃ name next, (assemble operations).graph.identifier handle = .ok name ∧
      (assemble operations).register handle = .ok (name, next) ∧
      (∀ index, next.graph.rules[index]? = if index = handle.index then
        (assemble operations).graph.rules[index]?.map fun rule => { rule with identifier := some name }
        else (assemble operations).graph.rules[index]?) ∧
      (∀ other, next.graph.identifier other = (assemble operations).graph.identifier other ∧
        next.graph.selector other = (assemble operations).graph.selector other ∧
        ∀ layout, next.graph.blocks layout other = (assemble operations).graph.blocks layout other) ∧
      next.register handle = .ok (name, next) := by
  have h := ranked_assemble hacyclic
  obtain ⟨rule, hrule⟩ := RuleGraph.exists_rule_iff.mpr hhandle
  obtain ⟨name, hname⟩ := h.exists_identifier hrule
  have hregister := register_eq_ok_iff.mpr ⟨hname, rfl⟩
  refine ⟨name, _, hname, hregister, RuleGraph.getElem?_sealWith, fun other => ⟨?_, ?_, fun layout => ?_⟩,
    register_register hregister⟩
  · exact h.identifier_sealWith hname other
  · exact h.selector_sealWith hname other
  · exact h.blocks_sealWith hname layout other

/-- Three generations of open rules. -/
def openOperations : List Operation :=
  [.create, .attach ⟨0⟩ (.literal "box") .back, .create, .adopt ⟨1⟩ ⟨0⟩ .back, .create,
    .attach ⟨2⟩ (.literal ":hover") .back, .adopt ⟨2⟩ ⟨1⟩ .back]

/-- The rule in the middle is registered, above an open rule and below another one. -/
theorem register_transparent_middle :
    (assemble openOperations).graph.Acyclic ∧
      (⟨1⟩ : Handle).index < (assemble openOperations).graph.size ∧
      ∃ name next, (assemble openOperations).register ⟨1⟩ = .ok (name, next) ∧
        next.graph.identifier ⟨2⟩ = (assemble openOperations).graph.identifier ⟨2⟩ ∧
        (∀ layout, next.graph.blocks layout ⟨2⟩ = (assemble openOperations).graph.blocks layout ⟨2⟩) ∧
        next.register ⟨1⟩ = .ok (name, next) := by
  have hacyclic : (assemble openOperations).graph.Acyclic := RuleGraph.acyclic_of_index (by decide +kernel)
  have hhandle : (⟨1⟩ : Handle).index < (assemble openOperations).graph.size := by decide +kernel
  obtain ⟨name, next, -, hregister, -, hsame, hagain⟩ :=
    register_transparent openOperations hacyclic hhandle
  obtain ⟨hidentifier, -, hblocks⟩ := hsame ⟨2⟩
  exact ⟨hacyclic, hhandle, name, next, hregister, hidentifier, hblocks, hagain⟩

end RuleBook

end CssRules
