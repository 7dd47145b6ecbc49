import CssRules.Proofs.Assembly
import CssRules.Proofs.Attachment

/-! The edges of a book that is assembled by hand. Each of them was made by one successful adoption, which wrote it
at both of its ends. So the containers of a rule are the parents that adopted it, in the order of time, and its
children are those that it adopted itself, whatever else happened in between. -/

namespace CssRules

/-- The rule that adopts and the one that is adopted. -/
structure Edge where
  parent : Handle
  child : Handle
  deriving DecidableEq

/-- Those that adopted a rule. -/
def Edge.parentsIn (edges : List Edge) (child : Handle) : List Handle :=
  (edges.filter fun edge => edge.child = child).map Edge.parent

/-- Those that a rule adopted. -/
def Edge.childrenIn (edges : List Edge) (parent : Handle) : List Handle :=
  (edges.filter fun edge => edge.parent = parent).map Edge.child

namespace Edge

variable {edges more : List Edge} {parent child : Handle}

@[simp] theorem parentsIn_append :
    parentsIn (edges ++ more) child = parentsIn edges child ++ parentsIn more child := by
  simp [parentsIn]

@[simp] theorem childrenIn_append :
    childrenIn (edges ++ more) parent = childrenIn edges parent ++ childrenIn more parent := by
  simp [childrenIn]

theorem count_parentsIn : (parentsIn edges child).count parent = edges.count ⟨parent, child⟩ := by
  induction edges with
  | nil => rfl
  | cons edge rest ih =>
      obtain ⟨first, second⟩ := edge
      rw [← List.singleton_append, parentsIn_append, List.count_append, List.count_append, ih]
      by_cases hsecond : second = child <;> simp [parentsIn, List.count_singleton, hsecond]

theorem count_childrenIn : (childrenIn edges parent).count child = edges.count ⟨parent, child⟩ := by
  induction edges with
  | nil => rfl
  | cons edge rest ih =>
      obtain ⟨first, second⟩ := edge
      rw [← List.singleton_append, childrenIn_append, List.count_append, List.count_append, ih]
      by_cases hfirst : first = parent <;> simp [childrenIn, List.count_singleton, hfirst]

end Edge

namespace RuleBook

/-- The edge that an operation makes: a rule is adopted at once or by a piece that means it, and nothing fails. -/
def adoption (book : RuleBook) : Operation → List Edge
  | .create | .register _ => []
  | .attach owner piece place =>
      match book.attach owner piece place, book.catalog.meaning piece with
      | .ok _, .ok (.child child) => [⟨owner, child⟩]
      | _, _ => []
  | .adopt parent child place =>
      match book.adopt parent child place with
      | .ok _ => [⟨parent, child⟩]
      | .error _ => []

/-- The edges that several operations make, one after the other. -/
def adoptions : RuleBook → List Operation → List Edge
  | _, [] => []
  | book, operation :: rest => book.adoption operation ++ adoptions (book.perform operation) rest

variable (book : RuleBook)

/-- What an operation can do to the edges: it makes the one of its adoption, or none. -/
theorem edges_perform_cases (operation : Operation) :
    (∃ parent child place, book.adoption operation = [⟨parent, child⟩] ∧
      (∃ rule, book.graph.rule parent = .ok rule) ∧ (∃ rule, book.graph.rule child = .ok rule) ∧
      (book.perform operation).graph = book.graph.nest parent child place) ∨
    (book.adoption operation = [] ∧ ∀ handle,
      (book.perform operation).graph.childrenOf handle = book.graph.childrenOf handle ∧
      (book.perform operation).graph.containersOf handle = book.graph.containersOf handle) := by
  cases operation with
  | create =>
      exact Or.inr ⟨rfl, fun handle => ⟨RuleGraph.handlesOf_create rfl handle,
        RuleGraph.handlesOf_create rfl handle⟩⟩
  | attach owner piece place =>
      rw [adoption, perform]
      cases hattach : book.attach owner piece place with
      | error error => exact Or.inr ⟨rfl, fun _ => ⟨rfl, rfl⟩⟩
      | ok next =>
          obtain ⟨addition, hverdict, rfl⟩ := attach_eq_ok_iff.mp hattach
          obtain ⟨hmeaning, htakes⟩ := verdict_eq_ok_iff.mp hverdict
          obtain ⟨hchild, rule, hrule, -⟩ := RuleGraph.takes_eq_ok_iff.mp htakes
          rw [hmeaning]
          cases addition with
          | fragment text =>
              exact Or.inr ⟨rfl, fun handle => ⟨RuleGraph.handlesOf_update handle fun _ _ => rfl,
                RuleGraph.handlesOf_update handle fun _ _ => rfl⟩⟩
          | declaration declaration =>
              exact Or.inr ⟨rfl, fun handle => ⟨RuleGraph.handlesOf_update handle fun _ _ => rfl,
                RuleGraph.handlesOf_update handle fun _ _ => rfl⟩⟩
          | child child => exact Or.inl ⟨owner, child, place, rfl, ⟨rule, hrule⟩, hchild child rfl, rfl⟩
  | adopt parent child place =>
      rw [adoption, perform]
      cases hadopt : book.adopt parent child place with
      | error error => exact Or.inr ⟨rfl, fun _ => ⟨rfl, rfl⟩⟩
      | ok next =>
          obtain ⟨hchild, ⟨rule, hrule, -⟩, rfl⟩ := adopt_eq_ok_iff.mp hadopt
          exact Or.inl ⟨parent, child, place, rfl, ⟨rule, hrule⟩, hchild, rfl⟩
  | register handle =>
      rw [adoption, perform]
      cases hregister : book.register handle with
      | error error => exact Or.inr ⟨rfl, fun _ => ⟨rfl, rfl⟩⟩
      | ok result =>
          obtain ⟨name, next⟩ := result
          obtain ⟨-, rfl⟩ := register_eq_ok_iff.mp hregister
          exact Or.inr ⟨rfl, fun other => ⟨RuleGraph.childrenOf_sealWith other,
            RuleGraph.handlesOf_update other fun _ _ => rfl⟩⟩

theorem containersOf_perform (operation : Operation) (child : Handle) :
    (book.perform operation).graph.containersOf child =
      book.graph.containersOf child ++ Edge.parentsIn (book.adoption operation) child := by
  rcases edges_perform_cases book operation with
    ⟨parent, other, place, hadoption, -, hchild, hnest⟩ | ⟨hnone, hsame⟩
  · rw [hadoption, hnest, RuleGraph.containersOf_nest hchild]
    by_cases hother : child = other
    · simp [hother, Edge.parentsIn]
    · simp [hother, Ne.symm hother, Edge.parentsIn]
  · rw [hnone, (hsame child).2]
    exact (List.append_nil _).symm

theorem childrenOf_perform (operation : Operation) (parent : Handle) :
    ((book.perform operation).graph.childrenOf parent).Perm
      (book.graph.childrenOf parent ++ Edge.childrenIn (book.adoption operation) parent) := by
  rcases edges_perform_cases book operation with
    ⟨other, child, place, hadoption, hparent, -, hnest⟩ | ⟨hnone, hsame⟩
  · rw [hadoption, hnest, RuleGraph.childrenOf_nest hparent]
    by_cases hother : parent = other
    · subst hother
      cases place with
      | front => simpa [Edge.childrenIn] using (List.perm_append_singleton child _).symm
      | back => simp [Edge.childrenIn]
    · simp [hother, Ne.symm hother, Edge.childrenIn]
  · rw [hnone, (hsame parent).1]
    simp [Edge.childrenIn]

theorem containersOf_foldl (operations : List Operation) (child : Handle) :
    (operations.foldl perform book).graph.containersOf child =
      book.graph.containersOf child ++ Edge.parentsIn (adoptions book operations) child := by
  induction operations generalizing book with
  | nil => simp [adoptions, Edge.parentsIn]
  | cons operation rest ih =>
      rw [List.foldl_cons, ih, containersOf_perform, adoptions, Edge.parentsIn_append, List.append_assoc]

theorem childrenOf_foldl (operations : List Operation) (parent : Handle) :
    ((operations.foldl perform book).graph.childrenOf parent).Perm
      (book.graph.childrenOf parent ++ Edge.childrenIn (adoptions book operations) parent) := by
  induction operations generalizing book with
  | nil => simp [adoptions, Edge.childrenIn]
  | cons operation rest ih =>
      rw [List.foldl_cons, adoptions, Edge.childrenIn_append, ← List.append_assoc]
      exact (ih _).trans ((childrenOf_perform book operation parent).append_right _)

/-- **The edges are the adoptions.** After any operations, successful or not, a rule stands as often among the
children of another one as that one among its containers. All these handles lead to rules. The containers of a
rule are those that adopted it, in this order, and its children are those that it adopted, in some order. -/
theorem edges_of_adoptions (operations : List Operation) :
    (∀ parent child, ((assemble operations).graph.childrenOf parent).count child =
      ((assemble operations).graph.containersOf child).count parent) ∧
    (∀ handle other, other ∈ (assemble operations).graph.childrenOf handle ∨
      other ∈ (assemble operations).graph.containersOf handle →
        other.index < (assemble operations).graph.size) ∧
    (∀ child, (assemble operations).graph.containersOf child =
      Edge.parentsIn (adoptions {} operations) child) ∧
    ∀ parent, ((assemble operations).graph.childrenOf parent).Perm
      (Edge.childrenIn (adoptions {} operations) parent) := by
  have hcontainers (child : Handle) : (assemble operations).graph.containersOf child =
      Edge.parentsIn (adoptions {} operations) child := containersOf_foldl {} operations child
  have hchildren (parent : Handle) : ((assemble operations).graph.childrenOf parent).Perm
      (Edge.childrenIn (adoptions {} operations) parent) := childrenOf_foldl {} operations parent
  have hpaired : (assemble operations).graph.Paired := fun parent child =>
    calc ((assemble operations).graph.childrenOf parent).count child
        = (Edge.childrenIn (adoptions {} operations) parent).count child := (hchildren parent).count_eq child
      _ = (adoptions {} operations).count ⟨parent, child⟩ := Edge.count_childrenIn
      _ = (Edge.parentsIn (adoptions {} operations) child).count parent := Edge.count_parentsIn.symm
      _ = ((assemble operations).graph.containersOf child).count parent := by rw [hcontainers]
  refine ⟨hpaired, fun handle other hother => ?_, hcontainers, hchildren⟩
  rcases hother with hchild | hcontainer
  · exact (intact_assemble operations).child_exists hchild
  · have hedge : handle ∈ (assemble operations).graph.childrenOf other := by
      rw [← List.count_pos_iff, hpaired other handle]
      exact List.count_pos_iff.mpr hcontainer
    obtain ⟨rule, hrule, -⟩ := RuleGraph.exists_rule_of_mem_childrenOf hedge
    exact RuleGraph.exists_rule_iff.mp ⟨rule, hrule⟩

/-- A rule that adopts itself, as often as it likes, and nothing that does not exist. -/
example : (assemble [.create, .adopt ⟨0⟩ ⟨0⟩ .back, .adopt ⟨0⟩ ⟨7⟩ .back, .adopt ⟨0⟩ ⟨0⟩ .front]).graph.rule ⟨0⟩ =
    .ok { children := [⟨0⟩, ⟨0⟩], containers := [⟨0⟩, ⟨0⟩] } := rfl

end RuleBook

end CssRules
