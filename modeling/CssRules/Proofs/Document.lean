import CssRules.Proofs.Run

/-! The document of all registered rules. Its blocks are the own blocks of the registered rules that no rule
contains and of everything below them. A registered rule that only open or discarded rules contain has no
block in the document, so that the document is complete exactly if a registered container stands above
every rule that has containers at all. -/

namespace CssRules

namespace RuleGraph

theorem Paired.mem_containersOf_iff {graph : RuleGraph} (h : graph.Paired) {parent child : Handle} :
    parent ∈ graph.containersOf child ↔ child ∈ graph.childrenOf parent := by
  rw [← List.count_pos_iff, ← List.count_pos_iff, h parent child]

end RuleGraph

namespace RuleBook

/-- A rule stands in the catalog. -/
def Registered (book : RuleBook) (handle : Handle) : Prop :=
  ∃ identifier, book.catalog.lookup identifier = some handle

/-- The rules whose own blocks make up the document, in their order. -/
def documentOrder (book : RuleBook) : List Handle :=
  book.catalog.handles.flatMap fun handle =>
    if (book.graph.containersOf handle).isEmpty then book.graph.walk handle else []

/-- A rule stands in the document: a registered rule at top level is it or contains it. -/
def InDocument (book : RuleBook) (handle : Handle) : Prop :=
  ∃ root, book.Registered root ∧ book.graph.containersOf root = [] ∧ book.graph.Contains root handle

variable {book : RuleBook} {layout : Layout} {handle : Handle}

theorem InDocument.child {parent child : Handle} (hparent : book.InDocument parent)
    (hchild : child ∈ book.graph.childrenOf parent) : book.InDocument child := by
  obtain ⟨root, hroot, htop, hcontains⟩ := hparent
  exact ⟨root, hroot, htop, hcontains.tail hchild⟩

namespace Consistent

theorem registered_iff (h : book.Consistent) :
    book.Registered handle ↔ handle ∈ book.catalog.handles := by
  constructor
  · intro hregistered
    obtain ⟨identifier, hlookup⟩ := hregistered
    exact Catalog.mem_handles_of_lookup hlookup
  · intro hmem
    obtain ⟨identifier, -, hlookup⟩ := h.exists_sealedAs hmem
    exact ⟨identifier, hlookup⟩

theorem exists_rule_of_registered (h : book.Consistent) (hregistered : book.Registered handle) :
    ∃ rule, book.graph.rule handle = .ok rule := by
  obtain ⟨identifier, hlookup⟩ := hregistered
  exact (h.sealedAs_of_lookup hlookup).exists_rule

theorem entryBlocks_eq (h : book.Consistent) (hregistered : book.Registered handle) :
    book.entryBlocks layout handle =
      (if (book.graph.containersOf handle).isEmpty then book.graph.walk handle else []).mapM
        (book.graph.block layout) := by
  obtain ⟨rule, hrule⟩ := h.exists_rule_of_registered hregistered
  have htop : (book.graph.containersOf handle).isEmpty = rule.isTopLevel := by
    rw [RuleGraph.containersOf, RuleGraph.handlesOf_eq hrule]
    rfl
  rw [htop]
  simp only [entryBlocks, hrule, bind, Except.bind]
  cases rule.isTopLevel with
  | true => exact h.ranked.blocks_eq_walk layout handle
  | false => rfl

/-- The blocks of the document are the own blocks of the rules in it. -/
theorem documentBlocks_eq (h : book.Consistent) (layout : Layout) :
    book.documentBlocks layout = book.documentOrder.mapM (book.graph.block layout) := by
  have hgroups : book.catalog.entries.mapM (fun entry => book.entryBlocks layout entry.2) =
      book.catalog.handles.mapM fun handle =>
        (if (book.graph.containersOf handle).isEmpty then book.graph.walk handle else []).mapM
          (book.graph.block layout) := by
    rw [Catalog.handles, List.mapM_map]
    apply mapM_congr
    intro entry hentry
    exact h.entryBlocks_eq (h.registered_iff.mpr (List.mem_map_of_mem hentry))
  rw [documentBlocks, hgroups, documentOrder, mapM_flatMap]

theorem mem_documentOrder_iff (h : book.Consistent) :
    handle ∈ book.documentOrder ↔ book.InDocument handle := by
  unfold documentOrder InDocument
  rw [List.mem_flatMap]
  constructor
  · intro h'
    obtain ⟨root, hroot, hmem⟩ := h'
    split at hmem
    · rename_i htop
      exact ⟨root, h.registered_iff.mpr hroot, List.isEmpty_iff.mp htop, h.ranked.mem_walk_iff.mp hmem⟩
    · cases hmem
  · intro h'
    obtain ⟨root, hroot, htop, hcontains⟩ := h'
    refine ⟨root, h.registered_iff.mp hroot, ?_⟩
    rw [if_pos (List.isEmpty_iff.mpr htop)]
    exact h.ranked.mem_walk_iff.mpr hcontains

theorem registered_of_inDocument (h : book.Consistent) (hmem : book.InDocument handle) :
    book.Registered handle := by
  obtain ⟨root, hroot, -, hcontains⟩ := hmem
  rcases Relation.ReflTransGen.cases_tail hcontains with rfl | ⟨_, -, hchild⟩
  · exact hroot
  · exact h.registered_iff.mpr (h.child_mem_handles hchild)

theorem exists_documentBlocks (h : book.Consistent) (layout : Layout) :
    ∃ blocks, book.documentBlocks layout = .ok blocks := by
  rw [h.documentBlocks_eq]
  apply exists_mapM_eq_ok
  intro handle hmem
  have hregistered := h.registered_of_inDocument (h.mem_documentOrder_iff.mp hmem)
  obtain ⟨rule, hrule⟩ := h.exists_rule_of_registered hregistered
  exact h.ranked.exists_block layout hrule

/-- If every contained rule has a registered container, the registered containers lead up to a rule at top
level: they are registered later and later. -/
theorem inDocument_of_containers (h : book.Consistent)
    (hcontainers : ∀ handle, book.Registered handle → book.graph.containersOf handle ≠ [] →
      ∃ container ∈ book.graph.containersOf handle, book.Registered container)
    (hregistered : book.Registered handle) : book.InDocument handle := by
  -- Induction on the number of rules registered after this one.
  induction hheight : book.catalog.handles.length - book.catalog.position handle
    using Nat.strongRecOn generalizing handle with
  | ind n ih =>
      by_cases htop : book.graph.containersOf handle = []
      · exact ⟨handle, hregistered, htop, .refl⟩
      · obtain ⟨container, hmem, hcontainer⟩ := hcontainers handle hregistered htop
        have hchild := h.paired.mem_containersOf_iff.mp hmem
        have hlt := h.child_before hchild
        have hbound := Catalog.mem_handles_iff_position_lt.mp (h.registered_iff.mp hcontainer)
        exact (ih _ (by omega) hcontainer rfl).child hchild

/-- A rule in the document that has containers has a registered one. -/
theorem exists_container_of_inDocument (h : book.Consistent) (hmem : book.InDocument handle)
    (hcontainers : book.graph.containersOf handle ≠ []) :
    ∃ container ∈ book.graph.containersOf handle, book.Registered container := by
  obtain ⟨root, hroot, htop, hcontains⟩ := hmem
  rcases Relation.ReflTransGen.cases_tail hcontains with rfl | ⟨container, habove, hchild⟩
  · exact absurd htop hcontainers
  · have hcontainer : book.InDocument container := ⟨root, hroot, htop, habove⟩
    exact ⟨container, h.paired.mem_containersOf_iff.mpr hchild, h.registered_of_inDocument hcontainer⟩

theorem forall_inDocument_iff (h : book.Consistent) :
    (∀ handle, book.Registered handle → book.InDocument handle) ↔
      ∀ handle, book.Registered handle → book.graph.containersOf handle ≠ [] →
        ∃ container ∈ book.graph.containersOf handle, book.Registered container :=
  ⟨fun hall handle hregistered => h.exists_container_of_inDocument (hall handle hregistered),
    fun hcontainers _ hregistered => h.inDocument_of_containers hcontainers hregistered⟩

end Consistent

theorem document_eq_join {blocks : List String} (hblocks : book.documentBlocks layout = .ok blocks)
    (hminify : layout.minify = false) : book.document layout = .ok (layout.join blocks) := by
  simp only [document, documentWith, hblocks, bind, Except.bind, hminify]
  rfl

end RuleBook

namespace Publisher

variable {σ : Type} [Sheet σ]

/-- **The blocks of the document and what they leave out.** In every run the document joins the own blocks
of the rules that a registered rule at top level contains, in this order. It has the block of every
registered rule exactly if every registered rule that has containers has a registered one. -/
theorem document_complete_iff {sheet : σ} {start : Publisher σ} (hstart : withSheet sheet = .ok start)
    (calls : List Call) {layout : Layout} (hminify : layout.minify = false) :
    ∃ (order : List Handle) (blocks : List String),
      (start.run calls).book.documentBlocks layout = .ok blocks ∧
      (start.run calls).document layout = .ok (layout.join blocks) ∧
      order.mapM ((start.run calls).book.graph.block layout) = .ok blocks ∧
      (∀ handle, handle ∈ order ↔ (start.run calls).book.InDocument handle) ∧
      ((∀ handle, (start.run calls).book.Registered handle → handle ∈ order) ↔
        ∀ handle, (start.run calls).book.Registered handle →
          (start.run calls).book.graph.containersOf handle ≠ [] →
            ∃ container ∈ (start.run calls).book.graph.containersOf handle,
              (start.run calls).book.Registered container) := by
  have h := consistent_run hstart calls
  obtain ⟨blocks, hblocks⟩ := h.exists_documentBlocks layout
  refine ⟨(start.run calls).book.documentOrder, blocks, hblocks, RuleBook.document_eq_join hblocks hminify,
    ?_, fun _ => h.mem_documentOrder_iff, ?_⟩
  · rw [← h.documentBlocks_eq]
    exact hblocks
  · rw [← h.forall_inDocument_iff]
    exact forall_congr' fun _ => imp_congr_right fun _ => h.mem_documentOrder_iff

/-- A registered rule is nested in another one. -/
def nestingCalls : List Call :=
  [.create, .attach ⟨0⟩ (.literal "box") .back, .finish ⟨0⟩, .create,
    .attach ⟨1⟩ (.nested (Identifier.ofContent "f:box\x00")) .back]

theorem document_complete_nested :
    withSheet ({} : AbsentSheet) = .ok offline ∧ ({} : Layout).minify = false ∧
      ∃ (order : List Handle) (blocks : List String),
        (offline.run (nestingCalls ++ [.finish ⟨1⟩])).document {} = .ok (Layout.join {} blocks) ∧
        order.mapM ((offline.run (nestingCalls ++ [.finish ⟨1⟩])).book.graph.block {}) = .ok blocks ∧
        ∀ handle, (offline.run (nestingCalls ++ [.finish ⟨1⟩])).book.Registered handle →
          handle ∈ order := by
  have hstart : withSheet ({} : AbsentSheet) = .ok offline := rfl
  have hminify : ({} : Layout).minify = false := rfl
  obtain ⟨order, blocks, -, hdocument, horder, -, hcomplete⟩ :=
    document_complete_iff hstart (nestingCalls ++ [.finish ⟨1⟩]) hminify
  refine ⟨hstart, hminify, order, blocks, hdocument, horder, hcomplete.mpr ?_⟩
  intro handle hregistered htop
  have hentries :
      (offline.run (nestingCalls ++ [.finish ⟨1⟩])).book.catalog.handles = [⟨0⟩, ⟨1⟩] := by
    decide +kernel
  have hcontainers :
      (offline.run (nestingCalls ++ [.finish ⟨1⟩])).book.graph.containersOf ⟨0⟩ = [⟨1⟩] ∧
      (offline.run (nestingCalls ++ [.finish ⟨1⟩])).book.graph.containersOf ⟨1⟩ = [] := by
    decide +kernel
  have h := consistent_run hstart (nestingCalls ++ [.finish ⟨1⟩])
  rw [h.registered_iff, hentries] at hregistered
  rcases List.mem_pair.mp hregistered with rfl | rfl
  · rw [hcontainers.1]
    exact ⟨⟨1⟩, List.mem_cons_self, h.registered_iff.mpr (by simp [hentries])⟩
  · exact absurd hcontainers.2 htop

/-- The registered rule is lost as long as the rule around it is open. -/
theorem document_of_open_container :
    withSheet ({} : AbsentSheet) = .ok offline ∧
      (offline.run nestingCalls).lookup (Identifier.ofContent "f:box\x00") = some ⟨0⟩ ∧
      (offline.run nestingCalls).book.documentBlocks {} = .ok [] ∧
      ¬ (offline.run nestingCalls).book.InDocument ⟨0⟩ := by
  refine ⟨rfl, by decide +kernel, by decide +kernel, ?_⟩
  intro hmem
  obtain ⟨root, ⟨name, hlookup⟩, htop, -⟩ := hmem
  have hhandles : (offline.run nestingCalls).book.catalog.handles = [⟨0⟩] := by decide +kernel
  have hcontainers : (offline.run nestingCalls).book.graph.containersOf ⟨0⟩ = [⟨1⟩] := by decide +kernel
  have hroot := Catalog.mem_handles_of_lookup hlookup
  rw [hhandles] at hroot
  rw [List.mem_singleton.mp hroot, hcontainers] at htop
  cases htop

end Publisher

end CssRules
