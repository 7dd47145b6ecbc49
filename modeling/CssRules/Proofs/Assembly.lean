import CssRules.Proofs.Acyclic
import CssRules.Proofs.Steps
import Mathlib.Data.List.Induction

/-! Rule books that are assembled by hand. Rules are created, pieces are attached, rules are nested in one
another and registered, in any order, and other than in a publisher a rule may be nested while it is open.
An operation seals no rule and keeps every edge, or else it registers a rule. -/

namespace CssRules

/-- The operations on a rule book. -/
inductive Operation where
  | create
  | attach (owner : Handle) (piece : Piece) (place : Place)
  | adopt (parent child : Handle) (place : Place)
  | register (handle : Handle)

namespace RuleGraph

/-- A change of the rules that seals none of them, keeps every edge and adds edges to rules that exist. -/
structure Gentle (graph next : RuleGraph) : Prop where
  grows : graph.Extends next
  sealedAs_iff : ∀ {handle identifier},
    next.SealedAs handle identifier ↔ graph.SealedAs handle identifier
  keeps_child : ∀ {parent child}, child ∈ graph.childrenOf parent → child ∈ next.childrenOf parent
  new_child : ∀ {parent child}, child ∈ next.childrenOf parent →
    child ∈ graph.childrenOf parent ∨ child.index < graph.size

namespace Gentle

variable {graph : RuleGraph} {owner child : Handle} {rule : Rule}

theorem refl (graph : RuleGraph) : graph.Gentle graph := ⟨.refl graph, Iff.rfl, id, Or.inl⟩

theorem create (graph : RuleGraph) : graph.Gentle graph.create.2 := by
  have hchildren (handle : Handle) : graph.create.2.childrenOf handle = graph.childrenOf handle :=
    handlesOf_create rfl handle
  refine ⟨.create graph, sealedAs_create, fun hchild => ?_, fun hchild => ?_⟩
  · rwa [hchildren]
  · rw [hchildren] at hchild
    exact Or.inl hchild

theorem update {change : Rule → Rule} (hrule : graph.rule owner = .ok rule) (hopen : rule.identifier = none)
    (hchildren : ∀ rule, (change rule).children = rule.children)
    (hidentifier : ∀ rule, (change rule).identifier = rule.identifier) :
    graph.Gentle (graph.update owner change) := by
  have hsame (handle : Handle) : (graph.update owner change).childrenOf handle = graph.childrenOf handle :=
    handlesOf_update handle fun _ => hchildren
  refine ⟨.update_open hrule hopen, sealedAs_update _ fun _ => hidentifier, fun hchild => ?_,
    fun hchild => ?_⟩
  · rwa [hsame]
  · rw [hsame] at hchild
    exact Or.inl hchild

theorem nest (hrule : graph.rule owner = .ok rule) (hopen : rule.identifier = none)
    (hexists : child.index < graph.size) (place : Place) :
    graph.Gentle (graph.nest owner child place) := by
  refine ⟨.nest hrule hopen place, sealedAs_nest, fun {parent other} hother => ?_,
    fun {parent other} hother => ?_⟩
  · rw [childrenOf_nest ⟨rule, hrule⟩]
    split
    · rename_i hparent
      exact Place.mem_insert.mpr (Or.inr (hparent ▸ hother))
    · exact hother
  · rw [childrenOf_nest ⟨rule, hrule⟩] at hother
    split at hother
    · rename_i hparent
      rcases Place.mem_insert.mp hother with rfl | hold
      · exact Or.inr hexists
      · exact Or.inl (hparent ▸ hold)
    · exact Or.inl hother

end Gentle

theorem Acyclic.of_keeps_child {graph next : RuleGraph} (h : next.Acyclic)
    (hkeeps : ∀ {parent child}, child ∈ graph.childrenOf parent → child ∈ next.childrenOf parent) :
    graph.Acyclic :=
  fun handle hbelow => h handle (Relation.TransGen.mono (fun _ _ => hkeeps) handle handle hbelow)

end RuleGraph

namespace RuleBook

/-- Every child and every registered handle leads to a rule. -/
structure Intact (book : RuleBook) : Prop where
  child_exists : book.graph.ChildrenExist
  registered_exists : ∀ {name handle}, (name, handle) ∈ book.catalog.entries →
    handle.index < book.graph.size

/-- The book after an operation. One that fails changes nothing. -/
def perform (book : RuleBook) : Operation → RuleBook
  | .create => book.create.2
  | .attach owner piece place =>
      match book.attach owner piece place with
      | .ok next => next
      | .error _ => book
  | .adopt parent child place =>
      match book.adopt parent child place with
      | .ok next => next
      | .error _ => book
  | .register handle =>
      match book.register handle with
      | .ok (_, next) => next
      | .error _ => book

/-- The book after several operations. -/
def assemble (operations : List Operation) : RuleBook := operations.foldl perform {}

variable {book next : RuleBook} {operation : Operation} {handle : Handle} {name : String}

theorem assemble_concat (operations : List Operation) (operation : Operation) :
    assemble (operations ++ [operation]) = (assemble operations).perform operation := by
  simp [assemble]

theorem Attached.gentle (h : book.Intact) {owner : Handle} {piece : Piece} {place : Place} {rule : Rule}
    {graph : RuleGraph} (hrule : book.graph.rule owner = .ok rule) (hopen : rule.identifier = none)
    (hattached : book.Attached owner piece place graph) : book.graph.Gentle graph := by
  cases hattached with
  | fragment htext => exact .update hrule hopen (fun _ => rfl) fun _ => rfl
  | declaration hpiece => exact .update hrule hopen (fun _ => rfl) fun _ => rfl
  | child hlookup =>
      exact .nest hrule hopen (h.registered_exists (Catalog.mem_entries_of_lookup hlookup)) place

/-- What an operation can do to a book. -/
theorem Intact.perform_cases (h : book.Intact) (operation : Operation) :
    (book.graph.Gentle (book.perform operation).graph ∧
      (book.perform operation).catalog = book.catalog) ∨
    ∃ handle name, operation = .register handle ∧
      book.register handle = .ok (name, book.perform operation) := by
  cases operation with
  | create => exact Or.inl ⟨.create book.graph, rfl⟩
  | attach owner piece place =>
      rw [perform]
      cases hattach : book.attach owner piece place with
      | error error => exact Or.inl ⟨.refl book.graph, rfl⟩
      | ok next =>
          obtain ⟨⟨rule, hrule, hopen⟩, hcatalog, hattached⟩ := attaches_of_attach hattach
          exact Or.inl ⟨hattached.gentle h hrule hopen, hcatalog⟩
  | adopt parent child place =>
      rw [perform]
      cases hadopt : book.adopt parent child place with
      | error error => exact Or.inl ⟨.refl book.graph, rfl⟩
      | ok next =>
          obtain ⟨hchild, ⟨rule, hrule, hopen⟩, rfl⟩ := adopt_eq_ok_iff.mp hadopt
          exact Or.inl ⟨.nest hrule hopen (RuleGraph.exists_rule_iff.mp hchild) place, rfl⟩
  | register handle =>
      rw [perform]
      cases hregister : book.register handle with
      | error error => exact Or.inl ⟨.refl book.graph, rfl⟩
      | ok result =>
          obtain ⟨name, next⟩ := result
          exact Or.inr ⟨handle, name, rfl, hregister⟩

theorem Intact.extends_perform (h : book.Intact) (operation : Operation) :
    book.graph.Extends (book.perform operation).graph := by
  rcases h.perform_cases operation with ⟨hgentle, -⟩ | ⟨handle, name, -, hregister⟩
  · exact hgentle.grows
  · exact extends_register hregister

theorem Intact.child_perform (h : book.Intact) (operation : Operation) {parent child : Handle}
    (hchild : child ∈ book.graph.childrenOf parent) :
    child ∈ (book.perform operation).graph.childrenOf parent := by
  rcases h.perform_cases operation with ⟨hgentle, -⟩ | ⟨handle, name, -, hregister⟩
  · exact hgentle.keeps_child hchild
  · obtain ⟨-, hnext⟩ := register_eq_ok_iff.mp hregister
    rwa [hnext, RuleGraph.childrenOf_sealWith]

theorem Intact.perform (h : book.Intact) (operation : Operation) : (book.perform operation).Intact := by
  have hsize := (h.extends_perform operation).size_le
  rcases h.perform_cases operation with ⟨hgentle, hcatalog⟩ | ⟨handle, name, -, hregister⟩
  · refine ⟨fun hchild => ?_, fun hentry => ?_⟩
    · rcases hgentle.new_child hchild with hold | hlt
      · exact Nat.lt_of_lt_of_le (h.child_exists hold) hsize
      · exact Nat.lt_of_lt_of_le hlt hsize
    · rw [hcatalog] at hentry
      exact Nat.lt_of_lt_of_le (h.registered_exists hentry) hsize
  · obtain ⟨hidentifier, hnext⟩ := register_eq_ok_iff.mp hregister
    rw [hnext] at hsize ⊢
    refine ⟨fun hchild => ?_, fun hentry => ?_⟩
    · rw [RuleGraph.childrenOf_sealWith] at hchild
      exact Nat.lt_of_lt_of_le (h.child_exists hchild) hsize
    · apply Nat.lt_of_lt_of_le _ hsize
      rcases Catalog.mem_entries_insert hentry with hold | hnew
      · exact h.registered_exists hold
      · cases hnew
        exact RuleGraph.exists_rule_iff.mp (RuleGraph.exists_rule_of_identifier hidentifier)

theorem intact_assemble (operations : List Operation) : (assemble operations).Intact := by
  induction operations using List.reverseRecOn with
  | nil => exact ⟨fun hchild => absurd hchild List.not_mem_nil, fun hentry => absurd hentry List.not_mem_nil⟩
  | append_singleton operations operation ih =>
      rw [assemble_concat]
      exact ih.perform operation

/-- An acyclic graph was acyclic at each earlier moment, since edges are never removed. -/
theorem acyclic_of_concat {operations : List Operation} {operation : Operation}
    (h : (assemble (operations ++ [operation])).graph.Acyclic) : (assemble operations).graph.Acyclic := by
  rw [assemble_concat] at h
  exact h.of_keeps_child ((intact_assemble operations).child_perform operation)

theorem ranked_assemble {operations : List Operation} (h : (assemble operations).graph.Acyclic) :
    (assemble operations).graph.Ranked (assemble operations).graph.countBelow :=
  h.ranked (intact_assemble operations).child_exists

end RuleBook

end CssRules
