import CssRules.Layout
import CssRules.Proofs.Graph
import Mathlib.Data.List.Forall2
import Mathlib.Logic.Relation

/-! Recursion over the children of rules. In a graph whose handles have ranks that fall along every edge
the recursion ends on its own, identifiers and blocks follow their plain equations, and the blocks of a
rule are those of the rules on a walk through everything below it. -/

namespace CssRules

theorem exists_of_map_eq_ok {α β ε : Type} {f : α → β} {result : Except ε α} {y : β}
    (h : result.map f = .ok y) : ∃ x, result = .ok x ∧ f x = y := by
  cases result with
  | error error => cases h
  | ok x => exact ⟨x, rfl, Except.ok.inj h⟩

theorem mapM_eq_ok_iff {α β ε : Type} {f : α → Except ε β} {xs : List α} {ys : List β} :
    xs.mapM f = .ok ys ↔ List.Forall₂ (fun x y => f x = .ok y) xs ys := by
  induction xs generalizing ys with
  | nil => simp [pure, Except.pure, eq_comm]
  | cons x xs ih =>
      rw [List.mapM_cons, List.forall₂_cons_left_iff]
      cases hx : f x with
      | error error => simp [bind, Except.bind]
      | ok y =>
          cases hxs : xs.mapM f with
          | error error =>
              have hnone (rest : List β) : ¬ List.Forall₂ (fun x y => f x = .ok y) xs rest := by
                rw [← ih, hxs]
                rintro ⟨⟩
              simp [bind, Except.bind, hnone]
          | ok rest =>
              have hrest (rest' : List β) :
                  List.Forall₂ (fun x y => f x = .ok y) xs rest' ↔ rest = rest' := by
                rw [← ih, hxs, Except.ok.injEq]
              simp [bind, Except.bind, pure, Except.pure, hrest, eq_comm]

theorem mapM_congr {α β ε : Type} {f g : α → Except ε β} {xs : List α} (h : ∀ x ∈ xs, f x = g x) :
    xs.mapM f = xs.mapM g := by
  induction xs with
  | nil => rfl
  | cons x xs ih =>
      rw [List.mapM_cons, List.mapM_cons, h x List.mem_cons_self,
        ih fun y hy => h y (List.mem_cons_of_mem x hy)]

theorem mapM_congr_forall₂ {α β γ ε : Type} {f : α → Except ε γ} {g : β → Except ε γ} {xs : List α}
    {ys : List β} (h : List.Forall₂ (fun x y => f x = g y) xs ys) : xs.mapM f = ys.mapM g := by
  induction h with
  | nil => rfl
  | cons hhead _ ih => rw [List.mapM_cons, List.mapM_cons, hhead, ih]

theorem exists_mapM_eq_ok {α β ε : Type} {f : α → Except ε β} {xs : List α}
    (h : ∀ x ∈ xs, ∃ y, f x = .ok y) : ∃ ys, xs.mapM f = .ok ys := by
  induction xs with
  | nil => exact ⟨[], rfl⟩
  | cons x xs ih =>
      obtain ⟨y, hy⟩ := h x List.mem_cons_self
      obtain ⟨ys, hys⟩ := ih fun z hz => h z (List.mem_cons_of_mem x hz)
      exact ⟨y :: ys, mapM_eq_ok_iff.mpr (.cons hy (mapM_eq_ok_iff.mp hys))⟩

theorem mem_of_mapM_eq_ok {α β ε : Type} {f : α → Except ε β} {xs : List α} {ys : List β} {y : β}
    (h : xs.mapM f = .ok ys) : y ∈ ys ↔ ∃ x ∈ xs, f x = .ok y := by
  have hforall := mapM_eq_ok_iff.mp h
  clear h
  induction hforall with
  | nil => simp
  | cons hx _ ih => simp [hx, ih, eq_comm]

theorem mapM_flatMap {α β γ ε : Type} (f : α → List β) (g : β → Except ε γ) (xs : List α) :
    (xs.flatMap f).mapM g = (xs.mapM fun x => (f x).mapM g) >>= fun rows => pure rows.flatten := by
  induction xs with
  | nil => rfl
  | cons x xs ih => simp [List.mapM_append, ih]

theorem map_mapM {α β γ ε : Type} (f : α → Except ε β) (g : β → γ) (xs : List α) :
    (xs.mapM f).map (List.map g) = xs.mapM fun x => (f x).map g := by
  induction xs with
  | nil => rfl
  | cons x xs ih =>
      rw [List.mapM_cons, List.mapM_cons, ← ih]
      cases f x with
      | error error => rfl
      | ok y => cases xs.mapM f <;> rfl

/-- A second function succeeds where the first one does, with related results. -/
theorem exists_mapM_forall₂ {α β γ ε : Type} {f : α → Except ε β} {g : α → Except ε γ} {related : γ → β → Prop}
    {xs : List α} {ys : List β} (hys : xs.mapM f = .ok ys)
    (h : ∀ x ∈ xs, ∀ y, f x = .ok y → ∃ z, g x = .ok z ∧ related z y) :
    ∃ zs, xs.mapM g = .ok zs ∧ List.Forall₂ related zs ys := by
  have hforall := mapM_eq_ok_iff.mp hys
  clear hys
  induction hforall with
  | nil => exact ⟨[], rfl, .nil⟩
  | @cons x y xs ys hx _ ih =>
      obtain ⟨z, hz, hrelated⟩ := h x List.mem_cons_self y hx
      obtain ⟨zs, hzs, hrest⟩ := ih fun x hmem => h x (List.mem_cons_of_mem _ hmem)
      exact ⟨z :: zs, mapM_eq_ok_iff.mpr (.cons hz (mapM_eq_ok_iff.mp hzs)), .cons hrelated hrest⟩

namespace RuleGraph

/-- A rank of the handles falls along every edge and bounds the depth of the recursion. -/
structure Ranked (graph : RuleGraph) (rank : Handle → Nat) : Prop where
  le_size : ∀ handle, rank handle ≤ graph.size
  child_lt : ∀ {parent child}, child ∈ graph.childrenOf parent → rank child < rank parent
  child_exists : ∀ {parent child}, child ∈ graph.childrenOf parent →
    ∃ rule, graph.rule child = .ok rule

variable {graph : RuleGraph} {rank : Handle → Nat}

theorem mem_childrenOf {handle child : Handle} {rule : Rule} (hrule : graph.rule handle = .ok rule)
    (hchild : child ∈ rule.children) : child ∈ graph.childrenOf handle := by
  rw [childrenOf, handlesOf_eq hrule]
  exact hchild

theorem exists_rule_of_mem_childrenOf {handle child : Handle} (hchild : child ∈ graph.childrenOf handle) :
    ∃ rule, graph.rule handle = .ok rule ∧ child ∈ rule.children := by
  cases hrule : graph.rule handle with
  | error error => simp [childrenOf, handlesOf, hrule] at hchild
  | ok rule => exact ⟨rule, rfl, by rwa [childrenOf, handlesOf_eq hrule] at hchild⟩

section Congruence

variable {graph' : RuleGraph} {handle handle' : Handle} {rule rule' : Rule}

/-- A selector depends on the fragments and the identifier only, also between two graphs. -/
theorem selector_congr (hrule : graph.rule handle = .ok rule) (hrule' : graph'.rule handle' = .ok rule')
    (hfragments : rule.fragments = rule'.fragments)
    (hidentifier : graph.identifier handle = graph'.identifier handle') :
    graph.selector handle = graph'.selector handle' := by
  have hsubject : rule.hasSubject = rule'.hasSubject := by
    rw [Rule.hasSubject, Rule.hasSubject, hfragments]
  have htext : rule.fragmentText = rule'.fragmentText := by
    rw [Rule.fragmentText, Rule.fragmentText, hfragments]
  simp only [selector, hrule, hrule', hsubject, htext, hidentifier, bind, Except.bind]

theorem block_congr (hrule : graph.rule handle = .ok rule) (hrule' : graph'.rule handle' = .ok rule')
    (hfragments : rule.fragments = rule'.fragments)
    (hdeclarations : rule.declarations.map Declaration.render = rule'.declarations.map Declaration.render)
    (hidentifier : graph.identifier handle = graph'.identifier handle') (layout : Layout) :
    graph.block layout handle = graph'.block layout handle' := by
  have hselector := selector_congr hrule hrule' hfragments hidentifier
  simp only [block, hrule, hrule', hselector, hdeclarations, bind, Except.bind]

end Congruence

theorem Ranked.identifierWithin_congr (h : graph.Ranked rank) {depth depth' : Nat} {handle : Handle}
    (hdepth : rank handle < depth) (hdepth' : rank handle < depth') :
    graph.identifierWithin depth handle = graph.identifierWithin depth' handle := by
  induction depth generalizing depth' handle with
  | zero => omega
  | succ depth ih =>
      cases depth' with
      | zero => omega
      | succ depth' =>
          rw [identifierWithin, identifierWithin]
          cases hrule : graph.rule handle with
          | error error => rfl
          | ok rule =>
              have hchildren : rule.children.mapM (graph.identifierWithin depth) =
                  rule.children.mapM (graph.identifierWithin depth') := by
                apply mapM_congr
                intro child hchild
                have hlt := h.child_lt (mem_childrenOf hrule hchild)
                exact ih (by omega) (by omega)
              simp only [bind, Except.bind, hchildren]

/-- The identifier of a rule from the identifiers of its children. -/
theorem Ranked.identifier_eq (h : graph.Ranked rank) (handle : Handle) :
    graph.identifier handle = do
      let rule ← graph.rule handle
      match rule.identifier with
      | some identifier => return identifier
      | none =>
        let children ← rule.children.mapM graph.identifier
        return Identifier.ofContent
          (Identifier.content rule.fragments (rule.declarations.map Declaration.render) children) := by
  rw [RuleGraph.identifier, identifierWithin]
  cases hrule : graph.rule handle with
  | error error => rfl
  | ok rule =>
      have hchildren : rule.children.mapM (graph.identifierWithin graph.size) =
          rule.children.mapM graph.identifier := by
        apply mapM_congr
        intro child hchild
        have hlt := h.child_lt (mem_childrenOf hrule hchild)
        have hle := h.le_size handle
        exact h.identifierWithin_congr (by omega) (by omega)
      simp only [bind, Except.bind]
      cases rule.identifier with
      | some identifier => rfl
      | none => simp only [hchildren]

theorem Ranked.exists_identifier (h : graph.Ranked rank) {handle : Handle} {rule : Rule}
    (hrule : graph.rule handle = .ok rule) : ∃ identifier, graph.identifier handle = .ok identifier := by
  induction hrank : rank handle using Nat.strongRecOn generalizing handle rule with
  | ind n ih =>
      rw [h.identifier_eq, hrule]
      cases hidentifier : rule.identifier with
      | some identifier => exact ⟨identifier, by simp only [bind, Except.bind, hidentifier]; rfl⟩
      | none =>
          obtain ⟨children, hchildren⟩ :
              ∃ children, rule.children.mapM graph.identifier = .ok children := by
            apply exists_mapM_eq_ok
            intro child hchild
            have hmem := mem_childrenOf hrule hchild
            obtain ⟨childRule, hchildRule⟩ := h.child_exists hmem
            exact ih (rank child) (hrank ▸ h.child_lt hmem) hchildRule rfl
          exact ⟨_, by simp only [bind, Except.bind, hidentifier, hchildren]; rfl⟩

theorem Ranked.exists_selector (h : graph.Ranked rank) {handle : Handle} {rule : Rule}
    (hrule : graph.rule handle = .ok rule) : ∃ selector, graph.selector handle = .ok selector := by
  obtain ⟨identifier, hidentifier⟩ := h.exists_identifier hrule
  simp only [RuleGraph.selector, hrule, hidentifier, bind, Except.bind, pure, Except.pure]
  cases rule.hasSubject with
  | true => exact ⟨_, rfl⟩
  | false => exact ⟨_, rfl⟩

theorem Ranked.exists_block (h : graph.Ranked rank) (layout : Layout) {handle : Handle} {rule : Rule}
    (hrule : graph.rule handle = .ok rule) : ∃ block, graph.block layout handle = .ok block := by
  obtain ⟨selector, hselector⟩ := h.exists_selector hrule
  simp only [RuleGraph.block, hrule, hselector, bind, Except.bind]
  exact ⟨_, rfl⟩

theorem Ranked.blocksWithin_congr (h : graph.Ranked rank) (layout : Layout) {depth depth' : Nat}
    {handle : Handle} (hdepth : rank handle < depth) (hdepth' : rank handle < depth') :
    graph.blocksWithin layout depth handle = graph.blocksWithin layout depth' handle := by
  induction depth generalizing depth' handle with
  | zero => omega
  | succ depth ih =>
      cases depth' with
      | zero => omega
      | succ depth' =>
          rw [blocksWithin, blocksWithin]
          cases hrule : graph.rule handle with
          | error error => rfl
          | ok rule =>
              have hchildren : rule.children.mapM (graph.blocksWithin layout depth) =
                  rule.children.mapM (graph.blocksWithin layout depth') := by
                apply mapM_congr
                intro child hchild
                have hlt := h.child_lt (mem_childrenOf hrule hchild)
                exact ih (by omega) (by omega)
              simp only [bind, Except.bind, hchildren]

/-- The blocks of a rule are its own block and the blocks of its children. -/
theorem Ranked.blocks_eq (h : graph.Ranked rank) (layout : Layout) (handle : Handle) :
    graph.blocks layout handle = do
      let own ← graph.block layout handle
      let nested ← (graph.childrenOf handle).mapM (graph.blocks layout)
      return own :: nested.flatten := by
  rw [RuleGraph.blocks, blocksWithin]
  cases hrule : graph.rule handle with
  | error error => simp only [RuleGraph.block, hrule, bind, Except.bind]
  | ok rule =>
      have hchildren : rule.children.mapM (graph.blocksWithin layout graph.size) =
          (graph.childrenOf handle).mapM (graph.blocks layout) := by
        rw [childrenOf, handlesOf_eq hrule]
        apply mapM_congr
        intro child hchild
        have hlt := h.child_lt (mem_childrenOf hrule hchild)
        have hle := h.le_size handle
        exact h.blocksWithin_congr layout (by omega) (by omega)
      simp only [bind, Except.bind, hchildren]

/-- The handles of a rule and of everything below it, with at most `depth` generations. -/
def walkWithin (graph : RuleGraph) : Nat → Handle → List Handle
  | 0, _ => []
  | depth + 1, handle => handle :: (graph.childrenOf handle).flatMap (graph.walkWithin depth)

/-- The handles of a rule and of everything below it, in the order of their blocks. -/
def walk (graph : RuleGraph) (handle : Handle) : List Handle :=
  graph.walkWithin (graph.size + 1) handle

/-- The second rule is the first one or stands somewhere below it. -/
def Contains (graph : RuleGraph) : Handle → Handle → Prop :=
  Relation.ReflTransGen fun parent child => child ∈ graph.childrenOf parent

theorem Ranked.walkWithin_congr (h : graph.Ranked rank) {depth depth' : Nat} {handle : Handle}
    (hdepth : rank handle < depth) (hdepth' : rank handle < depth') :
    graph.walkWithin depth handle = graph.walkWithin depth' handle := by
  induction depth generalizing depth' handle with
  | zero => omega
  | succ depth ih =>
      cases depth' with
      | zero => omega
      | succ depth' =>
          rw [walkWithin, walkWithin]
          congr 1
          apply List.flatMap_congr
          intro child hchild
          have hlt := h.child_lt hchild
          exact ih (by omega) (by omega)

theorem Ranked.walk_eq (h : graph.Ranked rank) (handle : Handle) :
    graph.walk handle = handle :: (graph.childrenOf handle).flatMap graph.walk := by
  rw [walk, walkWithin]
  congr 1
  apply List.flatMap_congr
  intro child hchild
  have hlt := h.child_lt hchild
  have hle := h.le_size handle
  exact h.walkWithin_congr (by omega) (by omega)

theorem Ranked.mem_walk_iff (h : graph.Ranked rank) {handle other : Handle} :
    other ∈ graph.walk handle ↔ graph.Contains handle other := by
  constructor
  · intro hmem
    induction hrank : rank handle using Nat.strongRecOn generalizing handle with
    | ind n ih =>
        rw [h.walk_eq] at hmem
        rcases List.mem_cons.mp hmem with rfl | hmem
        · exact .refl
        · obtain ⟨child, hchild, hother⟩ := List.mem_flatMap.mp hmem
          exact .head hchild (ih (rank child) (hrank ▸ h.child_lt hchild) hother rfl)
  · intro hcontains
    induction hcontains using Relation.ReflTransGen.head_induction_on with
    | refl =>
        rw [h.walk_eq]
        exact List.mem_cons_self
    | head hchild _ ih =>
        rw [h.walk_eq]
        exact List.mem_cons_of_mem _ (List.mem_flatMap.mpr ⟨_, hchild, ih⟩)

/-- A rule below another one exists unless it is that rule itself. -/
theorem Ranked.exists_rule_of_contains (h : graph.Ranked rank) {handle other : Handle}
    (hrule : ∃ rule, graph.rule handle = .ok rule) (hcontains : graph.Contains handle other) :
    ∃ rule, graph.rule other = .ok rule := by
  cases hcontains with
  | refl => exact hrule
  | tail _ hchild => exact h.child_exists hchild

/-- The blocks of a rule are the own blocks of the rules on the walk below it. -/
theorem Ranked.blocks_eq_walk (h : graph.Ranked rank) (layout : Layout) (handle : Handle) :
    graph.blocks layout handle = (graph.walk handle).mapM (graph.block layout) := by
  induction hrank : rank handle using Nat.strongRecOn generalizing handle with
  | ind n ih =>
      have hchildren : (graph.childrenOf handle).mapM (graph.blocks layout) =
          (graph.childrenOf handle).mapM fun child => (graph.walk child).mapM (graph.block layout) := by
        apply mapM_congr
        intro child hchild
        exact ih (rank child) (hrank ▸ h.child_lt hchild) child rfl
      rw [h.blocks_eq, h.walk_eq, List.mapM_cons, mapM_flatMap, hchildren]
      simp only [bind_assoc, pure_bind]

theorem Ranked.exists_blocks (h : graph.Ranked rank) (layout : Layout) {handle : Handle}
    (hrule : ∃ rule, graph.rule handle = .ok rule) :
    ∃ lines, graph.blocks layout handle = .ok lines := by
  rw [h.blocks_eq_walk]
  apply exists_mapM_eq_ok
  intro inner hinner
  obtain ⟨innerRule, hinnerRule⟩ := h.exists_rule_of_contains hrule (h.mem_walk_iff.mp hinner)
  exact h.exists_block layout hinnerRule

/-- The blocks of a rule, taken apart. -/
theorem Ranked.exists_own_and_nested (h : graph.Ranked rank) (layout : Layout) {handle : Handle}
    (hrule : ∃ rule, graph.rule handle = .ok rule) :
    ∃ own nested, graph.block layout handle = .ok own ∧
      (graph.childrenOf handle).mapM (graph.blocks layout) = .ok nested ∧
      graph.blocks layout handle = .ok (own :: nested.flatten) := by
  obtain ⟨rule, hrule⟩ := hrule
  obtain ⟨own, hown⟩ := h.exists_block layout hrule
  obtain ⟨nested, hnested⟩ : ∃ nested, (graph.childrenOf handle).mapM (graph.blocks layout) = .ok nested :=
    exists_mapM_eq_ok fun child hchild => h.exists_blocks layout (h.child_exists hchild)
  refine ⟨own, nested, hown, hnested, ?_⟩
  rw [h.blocks_eq, hown, hnested]
  rfl

end RuleGraph

end CssRules
