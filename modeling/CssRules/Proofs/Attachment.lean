import CssRules.Proofs.Graph
import CssRules.RuleBook

/-! What attaching a piece does, exactly. The catalog alone decides whether a piece means a fragment, a declaration
or a child. The owner takes it if it is open and the child exists, and then the list of its kind has one more
entry at the given end, and a child has one more container. -/

namespace CssRules

/-- What a piece adds to its owner. -/
inductive Addition where
  | fragment (text : String)
  | declaration (declaration : Declaration)
  | child (handle : Handle)

/-- The rule that an addition nests. -/
def Addition.child? : Addition → Option Handle
  | .child handle => some handle
  | _ => none

namespace Rule

/-- The owner with one more entry in the list of its kind. -/
def add (addition : Addition) (place : Place) (rule : Rule) : Rule :=
  match addition with
  | .fragment text => { rule with fragments := place.insert text rule.fragments }
  | .declaration declaration => { rule with declarations := place.insert declaration rule.declarations }
  | .child handle => { rule with children := place.insert handle rule.children }

/-- A child with one more container. -/
def addContainer (owner : Handle) (rule : Rule) : Rule :=
  { rule with containers := rule.containers ++ [owner] }

/-- What an addition to the owner does to the rule at an index, which may be the owner, the child, both or
neither. -/
def undergo (index : Nat) (owner : Handle) (addition : Addition) (place : Place) (rule : Rule) : Rule :=
  let received := if index = owner.index then rule.add addition place else rule
  if addition.child?.map Handle.index = some index then received.addContainer owner else received

variable (rule : Rule) (index : Nat) (owner : Handle) (addition : Addition) (place : Place)

@[simp] theorem identifier_add : (rule.add addition place).identifier = rule.identifier := by
  cases addition <;> rfl

@[simp] theorem identifier_undergo :
    (rule.undergo index owner addition place).identifier = rule.identifier := by
  unfold undergo
  split <;> split <;> simp [addContainer]

end Rule

namespace Catalog

/-- A text means the rule that is registered under it, or else itself. -/
def readText (catalog : Catalog) (text : String) : Addition :=
  match catalog.lookup text with
  | some registered => .child registered
  | none => .fragment text

/-- What a piece means while the registered rules are these. -/
def meaning (catalog : Catalog) : Piece → Except Error Addition
  | .index n => .ok (.fragment (Piece.indexFragment n))
  | .literal text => .ok (catalog.readText text)
  | .nested identifier =>
      match catalog.lookup identifier with
      | some registered => .ok (.child registered)
      | none => .error (.unknownRule identifier)
  | .declaration declaration => .ok (.declaration declaration)
  | .function name => .ok (catalog.readText (Piece.functionFragment name))

end Catalog

namespace RuleGraph

/-- The graph after its owner has taken an addition. -/
def extend (graph : RuleGraph) (owner : Handle) (addition : Addition) (place : Place) : RuleGraph :=
  let received := graph.update owner (Rule.add addition place)
  match addition.child? with
  | some child => received.update child (Rule.addContainer owner)
  | none => received

/-- Whether the owner can take an addition. That a child exists is looked at first. -/
def takes (graph : RuleGraph) (owner : Handle) (addition : Addition) : Except Error Unit :=
  match addition.child? with
  | some child => (graph.rule child).bind fun _ => (graph.openRule owner).map fun _ => ()
  | none => (graph.openRule owner).map fun _ => ()

variable {graph graph' : RuleGraph} {owner : Handle} {addition : Addition} {place : Place}

theorem extend_child (parent child : Handle) :
    graph.extend parent (.child child) place = graph.nest parent child place := rfl

@[simp] theorem size_extend : (graph.extend owner addition place).size = graph.size := by
  unfold extend
  cases addition.child? <;> simp

theorem getElem?_extend (index : Nat) :
    (graph.extend owner addition place).rules[index]? =
      graph.rules[index]?.map (Rule.undergo index owner addition place) := by
  unfold extend Rule.undergo
  cases addition.child? with
  | none =>
      simp only [update, Array.getElem?_modify, eq_comm (a := index)]
      split <;> cases graph.rules[index]? <;> rfl
  | some child =>
      simp only [update, Array.getElem?_modify, Option.map_some, Option.some.injEq, eq_comm (a := index)]
      split <;> split <;> cases graph.rules[index]? <;> rfl

theorem rule_extend (handle : Handle) :
    (graph.extend owner addition place).rule handle =
      (graph.rule handle).map (Rule.undergo handle.index owner addition place) := by
  unfold RuleGraph.rule
  rw [getElem?_extend]
  cases graph.rules[handle.index]? <;> rfl

theorem takes_of_child {child : Handle} (h : addition.child? = some child) :
    graph.takes owner addition =
      (graph.rule child).bind fun _ => (graph.openRule owner).map fun _ => () := by
  rw [takes, h]

theorem takes_of_no_child (h : addition.child? = none) :
    graph.takes owner addition = (graph.openRule owner).map fun _ => () := by
  rw [takes, h]

theorem edit_eq (change : Rule → Rule) :
    graph.edit owner change = (graph.openRule owner).map fun _ => graph.update owner change := by
  unfold edit
  cases graph.openRule owner <;> rfl

theorem addFragment_eq (owner : Handle) (text : String) (place : Place) :
    graph.addFragment owner text place =
      (graph.takes owner (.fragment text)).map fun _ => graph.extend owner (.fragment text) place := by
  rw [addFragment, edit_eq, takes_of_no_child rfl]
  cases graph.openRule owner <;> rfl

theorem addDeclaration_eq (owner : Handle) (declaration : Declaration) (place : Place) :
    graph.addDeclaration owner declaration place =
      (graph.takes owner (.declaration declaration)).map fun _ =>
        graph.extend owner (.declaration declaration) place := by
  rw [addDeclaration, edit_eq, takes_of_no_child rfl]
  cases graph.openRule owner <;> rfl

theorem adopt_eq (parent child : Handle) (place : Place) :
    graph.adopt parent child place =
      (graph.takes parent (.child child)).map fun _ => graph.extend parent (.child child) place := by
  rw [adopt, edit_eq, takes_of_child rfl]
  cases hchild : graph.rule child with
  | error error => rfl
  | ok rule =>
      cases hopen : graph.openRule parent with
      | error error => rfl
      | ok found => rfl

theorem takes_eq_ok_iff : graph.takes owner addition = .ok () ↔
    (∀ child, addition.child? = some child → ∃ rule, graph.rule child = .ok rule) ∧
      ∃ rule, graph.rule owner = .ok rule ∧ rule.identifier = none := by
  have hopen : (graph.openRule owner).map (fun _ => ()) = .ok () ↔
      ∃ rule, graph.rule owner = .ok rule ∧ rule.identifier = none := by
    simp only [← openRule_eq_ok_iff]
    cases graph.openRule owner <;> simp [Except.map]
  cases hnested : addition.child? with
  | none => simp [takes_of_no_child hnested, hopen]
  | some child =>
      rw [takes_of_child hnested]
      cases hrule : graph.rule child with
      | error error => simp [Except.bind, hrule]
      | ok rule => simp [Except.bind, hrule, hopen]

/-- Whether a rule is open or exists at all can be read off its identifier. -/
theorem takes_congr
    (h : ∀ handle, (graph.rule handle).map Rule.identifier = (graph'.rule handle).map Rule.identifier)
    (owner : Handle) (addition : Addition) : graph.takes owner addition = graph'.takes owner addition := by
  have hopen : (graph.openRule owner).map (fun _ => ()) = (graph'.openRule owner).map fun _ => () := by
    have howner := h owner
    unfold openRule Rule.isSealed
    cases hrule : graph.rule owner <;> cases hrule' : graph'.rule owner <;>
      simp only [hrule, hrule', Except.map, Except.error.injEq, Except.ok.injEq, reduceCtorEq] at howner
    · rw [howner]
    · simp only [howner]
      split <;> rfl
  cases hnested : addition.child? with
  | none => rw [takes_of_no_child hnested, takes_of_no_child hnested, hopen]
  | some child =>
      have hchild := h child
      rw [takes_of_child hnested, takes_of_child hnested, hopen]
      cases hrule : graph.rule child <;> cases hrule' : graph'.rule child <;>
        simp only [hrule, hrule', Except.map, Except.error.injEq, reduceCtorEq] at hchild
      · rw [hchild]
      · rfl

/-- An addition changes no answer to the question what a rule can take. -/
theorem takes_extend (other : Handle) (more : Addition) :
    (graph.extend owner addition place).takes other more = graph.takes other more := by
  apply takes_congr
  intro handle
  rw [rule_extend]
  cases graph.rule handle <;> simp [Except.map]

end RuleGraph

namespace RuleBook

/-- What a piece adds to its owner, unless it cannot be attached. -/
def verdict (book : RuleBook) (owner : Handle) (piece : Piece) : Except Error Addition :=
  (book.catalog.meaning piece).bind fun addition =>
    (book.graph.takes owner addition).map fun _ => addition

/-- The book after its owner has taken an addition. -/
def extend (book : RuleBook) (owner : Handle) (addition : Addition) (place : Place) : RuleBook :=
  { book with graph := book.graph.extend owner addition place }

variable {book : RuleBook}

theorem withGraph_takes (owner : Handle) (addition : Addition) (place : Place) :
    (book.withGraph ((book.graph.takes owner addition).map fun _ =>
      book.graph.extend owner addition place)) =
      (book.graph.takes owner addition).map fun _ => book.extend owner addition place := by
  cases book.graph.takes owner addition <;> rfl

theorem adopt_eq (parent child : Handle) (place : Place) :
    book.adopt parent child place =
      (book.graph.takes parent (.child child)).map fun _ => book.extend parent (.child child) place := by
  rw [adopt, RuleGraph.adopt_eq, withGraph_takes]

theorem adopt_eq_ok_iff {next : RuleBook} {parent child : Handle} {place : Place} :
    book.adopt parent child place = .ok next ↔ (∃ rule, book.graph.rule child = .ok rule) ∧
      (∃ rule, book.graph.rule parent = .ok rule ∧ rule.identifier = none) ∧
        next = { book with graph := book.graph.nest parent child place } := by
  have htakes : book.graph.takes parent (.child child) = .ok () ↔ (∃ rule, book.graph.rule child = .ok rule) ∧
      ∃ rule, book.graph.rule parent = .ok rule ∧ rule.identifier = none := by
    simp [RuleGraph.takes_eq_ok_iff, Addition.child?]
  rw [adopt_eq, ← and_assoc, ← htakes]
  cases book.graph.takes parent (.child child) with
  | error error => simp [Except.map]
  | ok _ => simp [Except.map, extend, RuleGraph.extend_child, eq_comm]

theorem attachText_eq (owner : Handle) (text : String) (place : Place) :
    book.attachText owner text place = (book.graph.takes owner (book.catalog.readText text)).map fun _ =>
      book.extend owner (book.catalog.readText text) place := by
  unfold attachText Catalog.readText
  cases book.catalog.lookup text with
  | some registered => exact adopt_eq owner registered place
  | none =>
      simp only
      rw [RuleGraph.addFragment_eq, withGraph_takes]

theorem verdict_of_meaning {piece : Piece} {addition : Addition}
    (h : book.catalog.meaning piece = .ok addition) (owner : Handle) :
    book.verdict owner piece = (book.graph.takes owner addition).map fun _ => addition := by
  rw [verdict, h]
  rfl

theorem verdict_eq_ok_iff {owner : Handle} {piece : Piece} {addition : Addition} :
    book.verdict owner piece = .ok addition ↔
      book.catalog.meaning piece = .ok addition ∧ book.graph.takes owner addition = .ok () := by
  cases hmeaning : book.catalog.meaning piece with
  | error error => simp [verdict, hmeaning, Except.bind]
  | ok meant =>
      rw [verdict_of_meaning hmeaning]
      cases htakes : book.graph.takes owner meant with
      | error error =>
          simp only [Except.map, reduceCtorEq, Except.ok.injEq, false_iff]
          rintro ⟨rfl, hok⟩
          rw [htakes] at hok
          cases hok
      | ok _ =>
          simp only [Except.map, Except.ok.injEq]
          constructor
          · rintro rfl
            exact ⟨rfl, htakes⟩
          · exact And.left

/-- Attaching a piece is adding what it means. -/
theorem attach_eq (owner : Handle) (piece : Piece) (place : Place) :
    book.attach owner piece place =
      (book.verdict owner piece).map fun addition => book.extend owner addition place := by
  have hmeant {addition : Addition} (hmeaning : book.catalog.meaning piece = .ok addition)
      (hattach : book.attach owner piece place =
        (book.graph.takes owner addition).map fun _ => book.extend owner addition place) :
      book.attach owner piece place =
        (book.verdict owner piece).map fun addition => book.extend owner addition place := by
    rw [hattach, verdict_of_meaning hmeaning]
    cases book.graph.takes owner addition <;> rfl
  cases piece with
  | index n =>
      refine hmeant rfl ?_
      rw [attach, RuleGraph.addFragment_eq, withGraph_takes]
  | literal text => exact hmeant rfl (attachText_eq owner text place)
  | nested identifier =>
      cases hlookup : book.catalog.lookup identifier with
      | none => simp only [attach, verdict, Catalog.meaning, hlookup, Except.bind, Except.map]
      | some registered =>
          have hmeaning : book.catalog.meaning (.nested identifier) = .ok (.child registered) := by
            simp only [Catalog.meaning, hlookup]
          refine hmeant hmeaning ?_
          simp only [attach, hlookup, adopt_eq]
  | declaration declaration =>
      refine hmeant rfl ?_
      rw [attach, RuleGraph.addDeclaration_eq, withGraph_takes]
  | function name => exact hmeant rfl (attachText_eq owner (Piece.functionFragment name) place)

theorem attach_eq_ok_iff {next : RuleBook} {owner : Handle} {piece : Piece} {place : Place} :
    book.attach owner piece place = .ok next ↔
      ∃ addition, book.verdict owner piece = .ok addition ∧ next = book.extend owner addition place := by
  rw [attach_eq]
  cases book.verdict owner piece with
  | error error => simp [Except.map]
  | ok addition => simp [Except.map, eq_comm]

/-- No addition changes what other pieces add. -/
theorem verdict_extend (owner other : Handle) (addition : Addition) (place : Place) (piece : Piece) :
    (book.extend owner addition place).verdict other piece = book.verdict other piece := by
  unfold verdict extend
  simp only [RuleGraph.takes_extend]

end RuleBook

end CssRules
