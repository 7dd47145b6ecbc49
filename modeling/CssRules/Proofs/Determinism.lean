import CssRules.Proofs.Assembly
import CssRules.Proofs.Structure

/-! When the identifier of a rule stands for its content. In a book that is assembled by hand a rule may be sealed
while its children are open, and then it keeps its identifier when they change. A rule whose children were
sealed first has the identifier that its content makes, and so have all open rules. -/

namespace CssRules

namespace RuleGraph

variable {graph next : RuleGraph} {handle : Handle} {identifier : String}

/-- The children of a rule that are not sealed. -/
def openChildren (graph : RuleGraph) (handle : Handle) : List Handle :=
  (graph.childrenOf handle).filter fun child =>
    match graph.rule child with
    | .ok rule => !rule.isSealed
    | .error _ => true

theorem sealed_of_openChildren (h : graph.openChildren handle = []) {child : Handle}
    (hchild : child ∈ graph.childrenOf handle) : ∃ name, graph.SealedAs child name := by
  have hkept := List.filter_eq_nil_iff.mp h child hchild
  cases hrule : graph.rule child with
  | error error => simp [hrule] at hkept
  | ok rule =>
      have hsealed : rule.identifier ≠ none := by simpa [hrule, Rule.isSealed] using hkept
      obtain ⟨name, hname⟩ := Option.ne_none_iff_exists'.mp hsealed
      exact ⟨name, rule, hrule, hname⟩

/-- Everything that the identifier of a rule stands for is fixed. -/
structure Settled (graph : RuleGraph) (handle : Handle) : Prop where
  child_sealed : ∀ {child}, child ∈ graph.childrenOf handle → ∃ name, graph.SealedAs child name
  current : graph.Current handle

theorem Extends.settled (h : graph.Extends next) (hsealed : graph.SealedAs handle identifier)
    (hsettled : graph.Settled handle) : next.Settled handle := by
  have hcontent := h.contentOf_eq hsealed fun _ => hsettled.child_sealed
  have hidentifier := h.identifier_eq hsealed
  refine ⟨fun {child} hchild => ?_, ?_⟩
  · obtain ⟨rule, hrule, hname⟩ := hsealed
    obtain ⟨more, hnext⟩ := h.frozen hrule hname
    rw [childrenOf, handlesOf_eq hnext] at hchild
    obtain ⟨name, hname⟩ := hsettled.child_sealed (mem_childrenOf hrule hchild)
    exact ⟨name, h.sealedAs hname⟩
  · obtain ⟨content, heq, hname⟩ := hsettled.current
    exact ⟨content, hcontent.trans heq, hidentifier.trans hname⟩

end RuleGraph

namespace RuleBook

variable {book : RuleBook} {handle : Handle} {name : String} {operations : List Operation}

/-- The open children of a rule when an operation seals it. -/
def leftOpen (book : RuleBook) (handle : Handle) : Operation → List Handle
  | .register other =>
      match book.graph.openRule handle with
      | .ok _ => if other = handle then book.graph.openChildren handle else []
      | .error _ => []
  | _ => []

/-- The children of a rule that were open when it was sealed in the course of several operations. -/
def openAtSealing (handle : Handle) : RuleBook → List Operation → List Handle
  | _, [] => []
  | book, operation :: rest =>
      book.leftOpen handle operation ++ openAtSealing handle (book.perform operation) rest

theorem openAtSealing_concat (operations : List Operation) (operation : Operation) :
    openAtSealing handle book (operations ++ [operation]) =
      openAtSealing handle book operations ++ (operations.foldl perform book).leftOpen handle operation := by
  induction operations generalizing book with
  | nil => simp [openAtSealing]
  | cons first rest ih => simp [openAtSealing, ih]

/-- Sealing a rule whose children are sealed settles it. -/
theorem settled_of_register {next : RuleBook} (hranked : ∃ rank, book.graph.Ranked rank)
    (hregister : book.register handle = .ok (name, next))
    (hopen : ∀ other, ¬ book.graph.SealedAs handle other)
    (hleft : book.leftOpen handle (.register handle) = []) : next.graph.Settled handle := by
  have hgrows := extends_register hregister
  obtain ⟨hidentifier, rfl⟩ := register_eq_ok_iff.mp hregister
  obtain ⟨rule, hrule⟩ := RuleGraph.exists_rule_of_identifier hidentifier
  have hnone : rule.identifier = none :=
    Option.eq_none_iff_forall_ne_some.mpr fun other hother => hopen other ⟨rule, hrule, hother⟩
  have hchildren : book.graph.openChildren handle = [] := by
    simpa [leftOpen, RuleGraph.openRule_eq_ok_iff.mpr ⟨hrule, hnone⟩] using hleft
  have hsealed : (book.graph.sealWith handle name).SealedAs handle name :=
    RuleGraph.sealedAs_sealWith_self ⟨rule, hrule⟩
  refine ⟨fun {child} hchild => ?_, ?_⟩
  · rw [RuleGraph.childrenOf_sealWith] at hchild
    obtain ⟨other, hother⟩ := RuleGraph.sealed_of_openChildren hchildren hchild
    exact ⟨other, hgrows.sealedAs hother⟩
  · obtain ⟨rank, hranked⟩ := hranked
    obtain ⟨content, hcontent, hname⟩ := hranked.current_of_open hrule hnone
    refine ⟨content, ?_, ?_⟩
    · rw [hgrows.contentOf_sealWith fun _ => RuleGraph.sealed_of_openChildren hchildren, hcontent]
    · rw [hsealed.identifier_eq, ← hname, hidentifier]

/-- A sealed rule is settled if no child was open when it was sealed: what is sealed below it does not change. -/
theorem settled_of_sealed (hacyclic : (assemble operations).graph.Acyclic)
    (hsealed : (assemble operations).graph.SealedAs handle name)
    (hleft : openAtSealing handle {} operations = []) : (assemble operations).graph.Settled handle := by
  induction operations using List.reverseRecOn generalizing name with
  | nil =>
      obtain ⟨rule, hrule, -⟩ := hsealed
      cases hrule
  | append_singleton operations operation ih =>
      have h := intact_assemble operations
      have hbefore := acyclic_of_concat hacyclic
      rw [openAtSealing_concat, List.append_eq_nil_iff] at hleft
      rw [assemble_concat] at hsealed ⊢
      -- A rule that was sealed before stays settled, and otherwise it is this operation that seals it.
      by_cases hold : ∃ other, (assemble operations).graph.SealedAs handle other
      · obtain ⟨other, hother⟩ := hold
        exact (h.extends_perform operation).settled hother (ih hbefore hother hleft.1)
      · rcases h.perform_cases operation with ⟨hgentle, -⟩ | ⟨other, identifier, rfl, hregister⟩
        · exact absurd ⟨name, hgentle.sealedAs_iff.mp hsealed⟩ hold
        · obtain ⟨hidentifier, hnext⟩ := register_eq_ok_iff.mp hregister
          rw [hnext, RuleGraph.sealedAs_sealWith (RuleGraph.exists_rule_of_identifier hidentifier)] at hsealed
          split at hsealed
          · rename_i heq
            subst heq
            exact settled_of_register ⟨_, ranked_assemble hbefore⟩ hregister
              (fun other hother => hold ⟨other, hother⟩) hleft.2
          · exact absurd ⟨name, hsealed⟩ hold

theorem current_of_openAtSealing (hacyclic : (assemble operations).graph.Acyclic)
    (hleft : openAtSealing handle {} operations = []) {rule : Rule}
    (hrule : (assemble operations).graph.rule handle = .ok rule) :
    (assemble operations).graph.Current handle := by
  cases hidentifier : rule.identifier with
  | none => exact (ranked_assemble hacyclic).current_of_open hrule hidentifier
  | some name => exact (settled_of_sealed hacyclic ⟨rule, hrule, hidentifier⟩ hleft).current

/-- **Like rules have like identifiers unless one of them was sealed too early.** Take any operations that
leave the graph acyclic, and two rules with the same fragments, the same text of their declarations and the
same children, of which the first one was not sealed above an open child. The second one has the same
identifier exactly if that is the identifier its content makes, and it is so if it was not sealed above an
open child either. -/
theorem identifier_eq_iff_current (operations : List Operation)
    (hacyclic : (assemble operations).graph.Acyclic) {handle handle' : Handle}
    {shape : List String × List String × List Handle}
    (hshape : ((assemble operations).graph.rule handle).map Rule.shape = .ok shape)
    (hshape' : ((assemble operations).graph.rule handle').map Rule.shape = .ok shape)
    (hleft : openAtSealing handle {} operations = []) :
    ∃ name, (assemble operations).graph.identifier handle = .ok name ∧
      ((assemble operations).graph.identifier handle' = .ok name ↔
        (assemble operations).graph.Current handle') ∧
      (openAtSealing handle' {} operations = [] →
        (assemble operations).graph.identifier handle' = .ok name) := by
  obtain ⟨rule, hrule, rfl⟩ := exists_of_map_eq_ok hshape
  obtain ⟨rule', hrule', hsame⟩ := exists_of_map_eq_ok hshape'
  obtain ⟨hfragments, hdeclarations, hchildren⟩ := by simpa only [Rule.shape, Prod.mk.injEq] using hsame
  have hcontents : (assemble operations).graph.contentOf handle =
      (assemble operations).graph.contentOf handle' :=
    RuleGraph.contentOf_congr hrule hrule' hfragments.symm hdeclarations.symm (by rw [hchildren])
  obtain ⟨content, hcontent, hname⟩ := current_of_openAtSealing hacyclic hleft hrule
  -- Both rules have the same content now, whatever the second one was sealed with.
  have hiff : (assemble operations).graph.identifier handle' = .ok (Identifier.ofContent content) ↔
      (assemble operations).graph.Current handle' := by
    constructor
    · intro hname'
      exact ⟨content, hcontents.symm.trans hcontent, hname'⟩
    · intro hcurrent
      obtain ⟨content', hcontent', hname'⟩ := hcurrent
      rw [hcontents, hcontent', Except.ok.injEq] at hcontent
      rw [hname', hcontent]
  exact ⟨_, hname, hiff, fun hleft' => hiff.mpr (current_of_openAtSealing hacyclic hleft' hrule')⟩

/-- Two rules around the same one, which is sealed first; the second of them stays open. -/
def lateOperations : List Operation :=
  [.create, .attach ⟨0⟩ (.literal "box") .back, .register ⟨0⟩, .create, .adopt ⟨1⟩ ⟨0⟩ .back, .register ⟨1⟩,
    .create, .adopt ⟨2⟩ ⟨0⟩ .back]

theorem identifier_eq_iff_current_late :
    (assemble lateOperations).graph.Acyclic ∧
      ((assemble lateOperations).graph.rule ⟨1⟩).map Rule.shape = .ok ([], [], [⟨0⟩]) ∧
      ((assemble lateOperations).graph.rule ⟨2⟩).map Rule.shape = .ok ([], [], [⟨0⟩]) ∧
      openAtSealing ⟨1⟩ {} lateOperations = [] ∧ openAtSealing ⟨2⟩ {} lateOperations = [] ∧
      ∃ name, (assemble lateOperations).graph.identifier ⟨1⟩ = .ok name ∧
        (assemble lateOperations).graph.identifier ⟨2⟩ = .ok name := by
  have hacyclic : (assemble lateOperations).graph.Acyclic :=
    RuleGraph.acyclic_of_index (by decide +kernel)
  have hshape : ((assemble lateOperations).graph.rule ⟨1⟩).map Rule.shape = .ok ([], [], [⟨0⟩]) := by
    decide +kernel
  have hshape' : ((assemble lateOperations).graph.rule ⟨2⟩).map Rule.shape = .ok ([], [], [⟨0⟩]) := by
    decide +kernel
  have hleft : openAtSealing ⟨1⟩ {} lateOperations = [] := by decide +kernel
  have hleft' : openAtSealing ⟨2⟩ {} lateOperations = [] := by decide +kernel
  obtain ⟨name, hname, -, hsame⟩ := identifier_eq_iff_current lateOperations hacyclic hshape hshape' hleft
  exact ⟨hacyclic, hshape, hshape', hleft, hleft', name, hname, hsame hleft'⟩

/-- The first of two rules around the same one is sealed before that one gets its fragment. -/
def earlyOperations : List Operation :=
  [.create, .create, .adopt ⟨1⟩ ⟨0⟩ .back, .register ⟨1⟩, .attach ⟨0⟩ (.literal "box") .back, .create,
    .adopt ⟨2⟩ ⟨0⟩ .back]

/-- The two rules are alike, and their identifiers differ. -/
theorem identifier_ne_of_early_sealing :
    (assemble earlyOperations).graph.Acyclic ∧
      ((assemble earlyOperations).graph.rule ⟨1⟩).map Rule.shape = .ok ([], [], [⟨0⟩]) ∧
      ((assemble earlyOperations).graph.rule ⟨2⟩).map Rule.shape = .ok ([], [], [⟨0⟩]) ∧
      openAtSealing ⟨1⟩ {} earlyOperations = [⟨0⟩] ∧
      (assemble earlyOperations).graph.identifier ⟨1⟩ ≠ (assemble earlyOperations).graph.identifier ⟨2⟩ := by
  refine ⟨RuleGraph.acyclic_of_index ?_, ?_, ?_, ?_, ?_⟩
  all_goals decide +kernel

end RuleBook

end CssRules
