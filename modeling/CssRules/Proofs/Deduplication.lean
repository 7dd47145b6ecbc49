import CssRules.Proofs.Base36
import CssRules.Proofs.Content
import CssRules.Proofs.Run

/-! Deduplication. A sealed rule and the rule that is registered under its identifier are twins: they have
the same fragments, the same text of declarations and the same children, so that they are written alike.
The identifiers of the children are read back from the content, and there is one registered rule for each
of them. -/

namespace CssRules

namespace Identifier

theorem ofFingerprint_injective {fingerprint other : Fingerprint}
    (h : ofFingerprint fingerprint = ofFingerprint other) : fingerprint = other := by
  apply Number.base36_injective
  have hletters := congrArg String.toList h
  simp only [ofFingerprint, String.toList_append, List.append_cancel_left_eq] at hletters
  exact String.toList_injective hletters

theorem zeroFree_ofFingerprint (fingerprint : Fingerprint) : ZeroFree (ofFingerprint fingerprint) := by
  refine zeroFree_append.mpr ⟨by decide, ?_⟩
  rw [ZeroFree, Number.toList_base36]
  exact Number.zero_not_mem_base36Digits _ _

end Identifier

instance (texts : List String) : Decidable (CollisionFree texts) :=
  inferInstanceAs (Decidable (∀ text ∈ texts, ∀ other ∈ texts, _ → _))

namespace RuleGraph

/-- Two rules that are written alike: they differ in their handles and containers only, and in
declarations with the same text. -/
structure Twins (graph : RuleGraph) (handle other : Handle) (rule twin : Rule) : Prop where
  rule_eq : graph.rule handle = .ok rule
  twin_eq : graph.rule other = .ok twin
  fragments : rule.fragments = twin.fragments
  declarations : rule.declarations.map Declaration.render = twin.declarations.map Declaration.render
  children : rule.children = twin.children
  identifier : rule.identifier = twin.identifier

variable {graph : RuleGraph} {rank : Handle → Nat} {handle other : Handle} {rule twin : Rule}

theorem Twins.identifier_eq (h : graph.Twins handle other rule twin) (hsealed : rule.identifier ≠ none) :
    graph.identifier handle = graph.identifier other := by
  obtain ⟨name, hname⟩ := Option.ne_none_iff_exists'.mp hsealed
  rw [identifier_of_sealed h.rule_eq hname, identifier_of_sealed h.twin_eq (h.identifier ▸ hname)]

theorem Twins.block_eq (h : graph.Twins handle other rule twin) (hsealed : rule.identifier ≠ none)
    (layout : Layout) : graph.block layout handle = graph.block layout other :=
  block_congr h.rule_eq h.twin_eq h.fragments h.declarations (h.identifier_eq hsealed) layout

theorem Twins.blocks_eq (h : graph.Twins handle other rule twin) (hranked : graph.Ranked rank)
    (hsealed : rule.identifier ≠ none) (layout : Layout) :
    graph.blocks layout handle = graph.blocks layout other := by
  have hchildren : graph.childrenOf handle = graph.childrenOf other := by
    rw [childrenOf, childrenOf, handlesOf_eq h.rule_eq, handlesOf_eq h.twin_eq, h.children]
  rw [hranked.blocks_eq, hranked.blocks_eq, h.block_eq hsealed, hchildren]

theorem contentOf_eq_ok_iff {content : String} (hrule : graph.rule handle = .ok rule) :
    graph.contentOf handle = .ok content ↔ ∃ names, rule.children.mapM graph.identifier = .ok names ∧
      content = Identifier.content rule.fragments (rule.declarations.map Declaration.render) names := by
  simp only [contentOf, hrule, bind, Except.bind]
  cases rule.children.mapM graph.identifier with
  | error error => simp
  | ok names => simp [pure, Except.pure, eq_comm]

end RuleGraph

namespace RuleBook.Consistent

variable {book : RuleBook} {handle : Handle} {identifier : String}

theorem map_lookup_eq (h : book.Consistent) {children : List Handle} {names : List String}
    (hchildren : ∀ child ∈ children, child ∈ book.catalog.handles)
    (hnames : children.mapM book.graph.identifier = .ok names) :
    names.map book.catalog.lookup = children.map some := by
  have hforall := mapM_eq_ok_iff.mp hnames
  clear hnames
  induction hforall with
  | nil => rfl
  | @cons child name rest others hname _ ih =>
      obtain ⟨found, hsealed, hlookup⟩ := h.exists_sealedAs (hchildren child List.mem_cons_self)
      rw [hsealed.identifier_eq] at hname
      cases hname
      rw [List.map_cons, List.map_cons, hlookup,
        ih fun other hother => hchildren other (List.mem_cons_of_mem _ hother)]

/-- There is one registered rule for each identifier. -/
theorem children_eq (h : book.Consistent) {children children' : List Handle} {names : List String}
    (hchildren : ∀ child ∈ children, child ∈ book.catalog.handles)
    (hchildren' : ∀ child ∈ children', child ∈ book.catalog.handles)
    (hnames : children.mapM book.graph.identifier = .ok names)
    (hnames' : children'.mapM book.graph.identifier = .ok names) : children = children' := by
  apply List.map_injective_iff.mpr fun _ _ => Option.some.inj
  calc children.map some = names.map book.catalog.lookup := (h.map_lookup_eq hchildren hnames).symm
    _ = children'.map some := h.map_lookup_eq hchildren' hnames'

theorem unforged (h : book.Consistent) (hzero : book.graph.ZeroFreeTexts) {rule : Rule} {names : List String}
    (hrule : book.graph.rule handle = .ok rule)
    (hnames : rule.children.mapM book.graph.identifier = .ok names) :
    Identifier.Unforged rule.fragments (rule.declarations.map Declaration.render) names := by
  obtain ⟨hfragments, hdeclarations⟩ := hzero handle rule hrule
  apply Identifier.unforged_of_zeroFree
  intro text htext
  rw [List.mem_append, List.mem_append] at htext
  rcases htext with (htext | htext) | htext
  · exact hfragments text htext
  · obtain ⟨declaration, hmem, rfl⟩ := List.mem_map.mp htext
    exact hdeclarations declaration hmem
  · obtain ⟨child, hchild, hname⟩ := (mem_of_mapM_eq_ok hnames).mp htext
    obtain ⟨name, hsealed⟩ := h.child_sealed (RuleGraph.mem_childrenOf hrule hchild)
    obtain ⟨content, -, rfl⟩ := h.exists_content hsealed
    rw [hsealed.identifier_eq] at hname
    cases hname
    exact Identifier.zeroFree_ofFingerprint _

/-- A sealed rule is a twin of the rule registered under its identifier, unless two contents collide. -/
theorem exists_twin (h : book.Consistent) (hzero : book.graph.ZeroFreeTexts) {contents : List String}
    (hcollision : CollisionFree contents)
    (hcontents : ∀ {handle identifier content}, book.graph.SealedAs handle identifier →
      book.graph.contentOf handle = .ok content → content ∈ contents) {rule : Rule}
    (hrule : book.graph.rule handle = .ok rule) (hidentifier : rule.identifier = some identifier) :
    ∃ first twin, book.catalog.lookup identifier = some first ∧
      book.graph.Twins handle first rule twin := by
  have hsealed : book.graph.SealedAs handle identifier := ⟨rule, hrule, hidentifier⟩
  obtain ⟨first, hlookup⟩ := h.exists_lookup hsealed
  have hfirst := h.sealedAs_of_lookup hlookup
  obtain ⟨twin, htwin, htwinIdentifier⟩ := h.sealedAs_of_lookup hlookup
  obtain ⟨content, hcontent, hname⟩ := h.exists_content hsealed
  obtain ⟨content', hcontent', hname'⟩ := h.exists_content hfirst
  -- Both contents have the fingerprint that the identifier shows, so they are equal and can be read back.
  have hfingerprint : Fingerprint.ofText content = Fingerprint.ofText content' := by
    apply Identifier.ofFingerprint_injective
    exact hname.symm.trans hname'
  have heq := hcollision content (hcontents hsealed hcontent) content' (hcontents hfirst hcontent')
    hfingerprint
  obtain ⟨names, hnames, rfl⟩ := (RuleGraph.contentOf_eq_ok_iff hrule).mp hcontent
  obtain ⟨names', hnames', rfl⟩ := (RuleGraph.contentOf_eq_ok_iff htwin).mp hcontent'
  obtain ⟨hfragments, hdeclarations, rfl⟩ :=
    Identifier.content_injective (h.unforged hzero hrule hnames) (h.unforged hzero htwin hnames') heq
  have hchildren : rule.children = twin.children :=
    h.children_eq (fun _ hchild => h.child_mem_handles (RuleGraph.mem_childrenOf hrule hchild))
      (fun _ hchild => h.child_mem_handles (RuleGraph.mem_childrenOf htwin hchild)) hnames hnames'
  exact ⟨first, twin, hlookup, hrule, htwin, hfragments, hdeclarations, hchildren,
    hidentifier.trans htwinIdentifier.symm⟩

end RuleBook.Consistent

namespace Publisher

variable {σ : Type} [Sheet σ]

theorem exists_twin_run {sheet : σ} {start : Publisher σ} (hstart : withSheet sheet = .ok start)
    {calls : List Call} (hstrings : ∀ text ∈ start.attachedStrings calls, ZeroFree text)
    (hcollision : CollisionFree (start.hashedContents calls)) {handle : Handle} {identifier : String}
    {rule : Rule} (hrule : (start.run calls).rule handle = .ok rule)
    (hidentifier : rule.identifier = some identifier) :
    ∃ first twin, (start.run calls).lookup identifier = some first ∧
      (start.run calls).book.graph.Twins handle first rule twin :=
  (consistent_run hstart calls).exists_twin (zeroFreeTexts_run hstart hstrings) hcollision
    (content_mem_hashedContents hstart) hrule hidentifier

/-- **Deduplication keeps every text.** In every run without zero characters and without collisions the
rule registered under the identifier of a sealed rule has its fragments, its declarations and its children,
and it is written the same in every layout. -/
theorem registered_rule_eq {sheet : σ} {start : Publisher σ} (hstart : withSheet sheet = .ok start)
    (calls : List Call) (hstrings : ∀ text ∈ start.attachedStrings calls, ZeroFree text)
    (hcollision : CollisionFree (start.hashedContents calls)) {handle : Handle} {rule : Rule}
    (hrule : (start.run calls).rule handle = .ok rule) (hsealed : rule.isSealed = true) :
    ∃ identifier first twin,
      (start.run calls).identifier handle = .ok identifier ∧
      (start.run calls).lookup identifier = some first ∧
      (start.run calls).rule first = .ok twin ∧
      rule.fragments = twin.fragments ∧
      rule.declarations.map Declaration.render = twin.declarations.map Declaration.render ∧
      rule.children = twin.children ∧
      ∀ layout, ∃ lines, (start.run calls).blocks layout handle = .ok lines ∧
        (start.run calls).blocks layout first = .ok lines := by
  have h := consistent_run hstart calls
  obtain ⟨identifier, hidentifier⟩ := Option.isSome_iff_exists.mp hsealed
  obtain ⟨first, twin, hlookup, htwins⟩ := exists_twin_run hstart hstrings hcollision hrule hidentifier
  refine ⟨identifier, first, twin, RuleGraph.identifier_of_sealed hrule hidentifier, hlookup,
    htwins.twin_eq, htwins.fragments, htwins.declarations, htwins.children, fun layout => ?_⟩
  obtain ⟨lines, hlines⟩ := h.ranked.exists_blocks layout ⟨rule, hrule⟩
  have hblocks := htwins.blocks_eq h.ranked (by simp [hidentifier]) layout
  exact ⟨lines, hlines, hblocks.symm.trans hlines⟩

/-- Two rules with the same fragment, the same declaration and the same child. -/
def twinCalls : List Call :=
  let twin (handle : Handle) : List Call :=
    [.create, .attach handle (.literal "card") .back,
      .attach handle (.declaration { name := "color", values := [.text "red"] }) .back,
      .attach handle (.nested (Identifier.ofContent "f:box\x00")) .back, .finish handle]
  [.create, .attach ⟨0⟩ (.literal "box") .back, .finish ⟨0⟩] ++ twin ⟨1⟩ ++ twin ⟨2⟩

theorem registered_rule_eq_twin :
    withSheet ({} : AbsentSheet) = .ok offline ∧
      (∀ text ∈ offline.attachedStrings twinCalls, ZeroFree text) ∧
      CollisionFree (offline.hashedContents twinCalls) ∧
      ∃ rule, (offline.run twinCalls).rule ⟨2⟩ = .ok rule ∧ rule.isSealed = true ∧
        ∃ identifier first twin,
          (offline.run twinCalls).identifier ⟨2⟩ = .ok identifier ∧
          (offline.run twinCalls).lookup identifier = some first ∧ first = ⟨1⟩ ∧
          (offline.run twinCalls).rule first = .ok twin ∧ rule.children = twin.children ∧
          ∀ layout, ∃ lines, (offline.run twinCalls).blocks layout ⟨2⟩ = .ok lines ∧
            (offline.run twinCalls).blocks layout first = .ok lines := by
  have hstart : withSheet ({} : AbsentSheet) = .ok offline := rfl
  have hstrings : ∀ text ∈ offline.attachedStrings twinCalls, ZeroFree text := by decide +kernel
  have hcollision : CollisionFree (offline.hashedContents twinCalls) := by decide +kernel
  have hsealed : ((offline.run twinCalls).rule ⟨2⟩).map Rule.isSealed = .ok true := by decide +kernel
  have hfirst : ((offline.run twinCalls).identifier ⟨2⟩).map (offline.run twinCalls).lookup =
      .ok (some ⟨1⟩) := by decide +kernel
  obtain ⟨rule, hrule, hrule'⟩ := exists_of_map_eq_ok hsealed
  obtain ⟨identifier, first, twin, hidentifier, hlookup, htwin, -, -, hchildren, hblocks⟩ :=
    registered_rule_eq hstart twinCalls hstrings hcollision hrule hrule'
  rw [hidentifier, Except.map, hlookup] at hfirst
  exact ⟨hstart, hstrings, hcollision, rule, hrule, hrule', identifier, first, twin, hidentifier, hlookup,
    Option.some.inj (Except.ok.inj hfirst), htwin, hchildren, hblocks⟩

end Publisher

end CssRules
