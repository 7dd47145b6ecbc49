import CssRules.Proofs.Run

/-! Structure and text. Rules have the same structure if their fragments and the text of their declarations
agree, and so on for their children in pairs. In two books of any histories such rules have the same
identifier and the same blocks: the identifier that a sealed rule keeps is the one that its content makes. -/

namespace CssRules

/-- What the text of a rule is made of: fragments, the text of the declarations, and the children. -/
def Rule.shape (rule : Rule) : List String × List String × List Handle :=
  (rule.fragments, rule.declarations.map Declaration.render, rule.children)

namespace RuleGraph

/-- Two rules, each in a graph of its own, have the same structure. -/
inductive SameStructure (graph graph' : RuleGraph) : Handle → Handle → Prop
  | intro {handle handle' : Handle} {rule rule' : Rule}
      (hrule : graph.rule handle = .ok rule) (hrule' : graph'.rule handle' = .ok rule')
      (hfragments : rule.fragments = rule'.fragments)
      (hdeclarations :
        rule.declarations.map Declaration.render = rule'.declarations.map Declaration.render)
      (hchildren : List.Forall₂ (SameStructure graph graph') rule.children rule'.children) :
      SameStructure graph graph' handle handle'

variable {graph graph' : RuleGraph} {rank rank' : Handle → Nat} {handle handle' : Handle}

theorem SameStructure.of_shape {fragments declarations : List String} {children children' : List Handle}
    (hrule : (graph.rule handle).map Rule.shape = .ok (fragments, declarations, children))
    (hrule' : (graph'.rule handle').map Rule.shape = .ok (fragments, declarations, children'))
    (hchildren : List.Forall₂ (graph.SameStructure graph') children children') :
    graph.SameStructure graph' handle handle' := by
  obtain ⟨rule, hfound, heq⟩ := exists_of_map_eq_ok hrule
  obtain ⟨rule', hfound', heq'⟩ := exists_of_map_eq_ok hrule'
  obtain ⟨hfragments, hdeclarations, rfl⟩ := by simpa only [Rule.shape, Prod.mk.injEq] using heq
  obtain ⟨hfragments', hdeclarations', rfl⟩ := by simpa only [Rule.shape, Prod.mk.injEq] using heq'
  exact .intro hfound hfound' (hfragments.trans hfragments'.symm)
    (hdeclarations.trans hdeclarations'.symm) hchildren

/-- Children in pairs, each with its smaller rank. -/
theorem Ranked.forall₂_children (h : graph.Ranked rank) {rule : Rule} {related : Handle → Handle → Prop}
    {others : List Handle} (hrule : graph.rule handle = .ok rule)
    (hpairs : List.Forall₂ related rule.children others) :
    List.Forall₂ (fun child other => rank child < rank handle ∧ related child other)
      rule.children others :=
  (List.forall₂_and_left _ _).mpr ⟨fun _ hchild => h.child_lt (mem_childrenOf hrule hchild), hpairs⟩

theorem contentOf_congr {rule rule' : Rule} (hrule : graph.rule handle = .ok rule)
    (hrule' : graph'.rule handle' = .ok rule') (hfragments : rule.fragments = rule'.fragments)
    (hdeclarations : rule.declarations.map Declaration.render = rule'.declarations.map Declaration.render)
    (hnames : rule.children.mapM graph.identifier = rule'.children.mapM graph'.identifier) :
    graph.contentOf handle = graph'.contentOf handle' := by
  simp only [contentOf, hrule, hrule', hfragments, hdeclarations, hnames, bind, Except.bind]

/-- The identifier that the content of a rule makes is determined by the content. -/
theorem Current.identifier_eq (h : graph.Current handle) (h' : graph'.Current handle')
    (hcontent : graph.contentOf handle = graph'.contentOf handle') :
    graph.identifier handle = graph'.identifier handle' := by
  obtain ⟨content, heq, hname⟩ := h
  obtain ⟨content', heq', hname'⟩ := h'
  rw [heq, heq', Except.ok.injEq] at hcontent
  rw [hname, hname', hcontent]

theorem SameStructure.identifier_eq (h : graph.SameStructure graph' handle handle')
    (hranked : graph.Ranked rank)
    (hcurrent : ∀ {handle rule}, graph.rule handle = .ok rule → graph.Current handle)
    (hcurrent' : ∀ {handle rule}, graph'.rule handle = .ok rule → graph'.Current handle) :
    graph.identifier handle = graph'.identifier handle' := by
  induction hrank : rank handle using Nat.strongRecOn generalizing handle handle' with
  | ind n ih =>
      obtain ⟨hrule, hrule', hfragments, hdeclarations, hchildren⟩ := h
      apply (hcurrent hrule).identifier_eq (hcurrent' hrule')
      apply contentOf_congr hrule hrule' hfragments hdeclarations
      apply mapM_congr_forall₂
      exact (hranked.forall₂_children hrule hchildren).imp fun _ _ hchild =>
        ih _ (hrank ▸ hchild.1) hchild.2 rfl

theorem SameStructure.blocks_eq (h : graph.SameStructure graph' handle handle')
    (hranked : graph.Ranked rank) (hranked' : graph'.Ranked rank')
    (hcurrent : ∀ {handle rule}, graph.rule handle = .ok rule → graph.Current handle)
    (hcurrent' : ∀ {handle rule}, graph'.rule handle = .ok rule → graph'.Current handle)
    (layout : Layout) : graph.blocks layout handle = graph'.blocks layout handle' := by
  induction hrank : rank handle using Nat.strongRecOn generalizing handle handle' with
  | ind n ih =>
      have hidentifier := h.identifier_eq hranked hcurrent hcurrent'
      obtain ⟨hrule, hrule', hfragments, hdeclarations, hchildren⟩ := h
      have hown := block_congr hrule hrule' hfragments hdeclarations hidentifier layout
      have hnested : (graph.childrenOf handle).mapM (graph.blocks layout) =
          (graph'.childrenOf handle').mapM (graph'.blocks layout) := by
        rw [childrenOf, childrenOf, handlesOf_eq hrule, handlesOf_eq hrule']
        apply mapM_congr_forall₂
        exact (hranked.forall₂_children hrule hchildren).imp fun _ _ hchild =>
          ih _ (hrank ▸ hchild.1) hchild.2 rfl
      rw [hranked.blocks_eq, hranked'.blocks_eq, hown, hnested]

end RuleGraph

/-- The identifier of each rule of a consistent book is the one that its content makes. -/
theorem RuleBook.Consistent.current {book : RuleBook} (h : book.Consistent) {handle : Handle} {rule : Rule}
    (hrule : book.graph.rule handle = .ok rule) : book.graph.Current handle := by
  cases hidentifier : rule.identifier with
  | none => exact h.ranked.current_of_open hrule hidentifier
  | some name =>
      have hsealed : book.graph.SealedAs handle name := ⟨rule, hrule, hidentifier⟩
      obtain ⟨content, hcontent, rfl⟩ := h.exists_content hsealed
      exact ⟨content, hcontent, hsealed.identifier_eq⟩

namespace Publisher

/-- **Structure alone determines identifiers and texts.** Take two publishers with sheets of any kinds after
any calls. Rules of the same structure have the same identifier in both, and the same blocks in every
layout, whether they are sealed or open. -/
theorem text_eq_of_sameStructure {σ τ : Type} [Sheet σ] [Sheet τ] {sheet : σ} {sheet' : τ}
    {start : Publisher σ} {start' : Publisher τ} (hstart : withSheet sheet = .ok start)
    (hstart' : withSheet sheet' = .ok start') (calls calls' : List Call) {handle handle' : Handle}
    (hsame : (start.run calls).book.graph.SameStructure (start'.run calls').book.graph handle handle') :
    (∃ name, (start.run calls).identifier handle = .ok name ∧
      (start'.run calls').identifier handle' = .ok name) ∧
    ∀ layout, ∃ lines, (start.run calls).blocks layout handle = .ok lines ∧
      (start'.run calls').blocks layout handle' = .ok lines := by
  have h := consistent_run hstart calls
  have h' := consistent_run hstart' calls'
  have hidentifier := hsame.identifier_eq h.ranked h.current h'.current
  have hblocks := hsame.blocks_eq h.ranked h'.ranked h.current h'.current
  obtain ⟨hrule, -, -, -, -⟩ := hsame
  constructor
  · obtain ⟨name, hname⟩ := h.ranked.exists_identifier hrule
    exact ⟨name, hname, hidentifier.symm.trans hname⟩
  · intro layout
    obtain ⟨lines, hlines⟩ := h.ranked.exists_blocks layout ⟨_, hrule⟩
    exact ⟨lines, hlines, (hblocks layout).symm.trans hlines⟩

/-- A rule inside another one, both finished. -/
def finishedCalls : List Call :=
  [.create, .attach ⟨0⟩ (.literal "box") .back, .finish ⟨0⟩, .create,
    .attach ⟨1⟩ (.literal "card") .back,
    .attach ⟨1⟩ (.declaration { name := "margin", values := [.text "1px", .text "2px"] }) .back,
    .attach ⟨1⟩ (.nested (Identifier.ofContent "f:box\x00")) .back, .finish ⟨1⟩]

/-- The same two rules after a third one and from back to front. The outer one stays open, and its
declaration has one value that reads like two. -/
def reversedCalls : List Call :=
  [.create, .attach ⟨0⟩ (.literal "note") .back, .finish ⟨0⟩, .create,
    .attach ⟨1⟩ (.literal "box") .back, .finish ⟨1⟩, .create,
    .attach ⟨2⟩ (.nested (Identifier.ofContent "f:box\x00")) .front,
    .attach ⟨2⟩ (.declaration { name := "margin", values := [.text "1px 2px"] }) .front,
    .attach ⟨2⟩ (.literal "card") .front]

theorem text_eq_of_sameStructure_reversed :
    withSheet ({} : AbsentSheet) = .ok offline ∧ withSheet ({} : MemorySheet) = .ok live ∧
      (offline.run finishedCalls).book.graph.SameStructure (live.run reversedCalls).book.graph ⟨1⟩ ⟨2⟩ ∧
      ((offline.run finishedCalls).rule ⟨1⟩).map Rule.isSealed = .ok true ∧
      ((live.run reversedCalls).rule ⟨2⟩).map Rule.isSealed = .ok false ∧
      (∃ name, (offline.run finishedCalls).identifier ⟨1⟩ = .ok name ∧
        (live.run reversedCalls).identifier ⟨2⟩ = .ok name) ∧
      ∀ layout, ∃ lines, (offline.run finishedCalls).blocks layout ⟨1⟩ = .ok lines ∧
        (live.run reversedCalls).blocks layout ⟨2⟩ = .ok lines := by
  have hstart : withSheet ({} : AbsentSheet) = .ok offline := rfl
  have hstart' : withSheet ({} : MemorySheet) = .ok live := rfl
  have hbox : ((offline.run finishedCalls).rule ⟨0⟩).map Rule.shape = .ok (["box"], [], []) := by
    decide +kernel
  have hbox' : ((live.run reversedCalls).rule ⟨1⟩).map Rule.shape = .ok (["box"], [], []) := by
    decide +kernel
  have hcard : ((offline.run finishedCalls).rule ⟨1⟩).map Rule.shape =
      .ok (["card"], ["margin: 1px 2px;"], [⟨0⟩]) := by decide +kernel
  have hcard' : ((live.run reversedCalls).rule ⟨2⟩).map Rule.shape =
      .ok (["card"], ["margin: 1px 2px;"], [⟨1⟩]) := by decide +kernel
  have houter : (offline.run finishedCalls).book.graph.SameStructure
      (live.run reversedCalls).book.graph ⟨1⟩ ⟨2⟩ :=
    .of_shape hcard hcard' (.cons (.of_shape hbox hbox' .nil) .nil)
  exact ⟨hstart, hstart', houter, by decide +kernel, by decide +kernel,
    text_eq_of_sameStructure hstart hstart' finishedCalls reversedCalls houter⟩

end Publisher

end CssRules
