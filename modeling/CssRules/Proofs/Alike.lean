import CssRules.Proofs.Attachment
import CssRules.Proofs.Replies

/-! Publishers that differ in nothing but the order in which rules list their containers. Nobody reads this order
but a host that looks at a rule. So such publishers answer alike and stay alike, whatever they are asked and told:
they have the same catalog, the same texts and the same sheet. -/

namespace CssRules

/-- A rule that differs at most in the order of its containers. -/
inductive Rule.Alike (rule : Rule) : Rule → Prop
  | intro {containers : List Handle} (hcontainers : rule.containers.Perm containers) :
      rule.Alike { rule with containers }

namespace Rule

variable {rule rule' : Rule}

theorem Alike.refl (rule : Rule) : rule.Alike rule := .intro (.refl rule.containers)

theorem Alike.trans {last : Rule} (h : rule.Alike rule') (h' : rule'.Alike last) : rule.Alike last := by
  obtain ⟨hfirst⟩ := h
  obtain ⟨hsecond⟩ := h'
  exact .intro (hfirst.trans hsecond)

theorem Alike.identifier_eq (h : rule.Alike rule') : rule.identifier = rule'.identifier := by
  obtain ⟨-⟩ := h
  rfl

theorem Alike.isTopLevel_eq (h : rule.Alike rule') : rule.isTopLevel = rule'.isTopLevel := by
  obtain ⟨hcontainers⟩ := h
  exact hcontainers.isEmpty_eq

theorem Alike.add (h : rule.Alike rule') (addition : Addition) (place : Place) :
    (rule.add addition place).Alike (rule'.add addition place) := by
  obtain ⟨hcontainers⟩ := h
  cases addition <;> exact .intro hcontainers

theorem Alike.addContainer (h : rule.Alike rule') (owner : Handle) :
    (rule.addContainer owner).Alike (rule'.addContainer owner) := by
  obtain ⟨hcontainers⟩ := h
  exact .intro (hcontainers.append_right [owner])

end Rule

namespace RuleGraph

/-- The same number of rules, which are alike in pairs. -/
def Alike (graph graph' : RuleGraph) : Prop :=
  ∀ index : Nat, Option.Rel Rule.Alike graph.rules[index]? graph'.rules[index]?

namespace Alike

variable {graph graph' : RuleGraph}

theorem refl (graph : RuleGraph) : graph.Alike graph := by
  intro index
  cases graph.rules[index]? with
  | none => exact .none
  | some rule => exact .some (.refl rule)

theorem trans {last : RuleGraph} (h : graph.Alike graph') (h' : graph'.Alike last) : graph.Alike last := by
  intro index
  have hfirst := h index
  have hsecond := h' index
  generalize graph.rules[index]? = entry, graph'.rules[index]? = entry', last.rules[index]? = entry''
    at hfirst hsecond ⊢
  cases hfirst with
  | none => exact hsecond
  | some halike =>
      cases hsecond with
      | some halike' => exact .some (halike.trans halike')

variable (h : graph.Alike graph')
include h

theorem size_eq : graph.size = graph'.size := by
  have hmissing (index : Nat) : graph.size ≤ index ↔ graph'.size ≤ index := by
    rw [size, size, ← Array.getElem?_eq_none_iff, ← Array.getElem?_eq_none_iff]
    have hpair := h index
    generalize graph.rules[index]? = entry, graph'.rules[index]? = entry' at hpair ⊢
    cases hpair <;> simp
  exact Nat.le_antisymm ((hmissing _).mpr (Nat.le_refl _)) ((hmissing _).mp (Nat.le_refl _))

/-- Under a handle both graphs have no rule, or they have rules that are alike. -/
theorem rule_cases (handle : Handle) :
    (graph.rule handle = .error (.invalidRule handle) ∧ graph'.rule handle = .error (.invalidRule handle)) ∨
      ∃ rule rule', graph.rule handle = .ok rule ∧ graph'.rule handle = .ok rule' ∧ rule.Alike rule' := by
  have hpair := h handle.index
  unfold RuleGraph.rule
  generalize graph.rules[handle.index]? = entry, graph'.rules[handle.index]? = entry' at hpair ⊢
  cases hpair with
  | none => exact Or.inl ⟨rfl, rfl⟩
  | some halike => exact Or.inr ⟨_, _, rfl, rfl, halike⟩

theorem takes_eq (owner : Handle) (addition : Addition) :
    graph.takes owner addition = graph'.takes owner addition := by
  apply takes_congr
  intro handle
  rcases h.rule_cases handle with ⟨hrule, hrule'⟩ | ⟨rule, rule', hrule, hrule', halike⟩
  · rw [hrule, hrule']
  · rw [hrule, hrule', Except.map, Except.map, halike.identifier_eq]

theorem identifierWithin_eq (depth : Nat) : graph.identifierWithin depth = graph'.identifierWithin depth := by
  induction depth with
  | zero => rfl
  | succ depth ih =>
      funext handle
      unfold identifierWithin
      rcases h.rule_cases handle with ⟨hrule, hrule'⟩ | ⟨rule, rule', hrule, hrule', halike⟩
      · rw [hrule, hrule']
        rfl
      · obtain ⟨-⟩ := halike
        rw [hrule, hrule', ih]
        rfl

theorem identifier_eq (handle : Handle) : graph.identifier handle = graph'.identifier handle := by
  rw [identifier, identifier, h.size_eq, h.identifierWithin_eq]

theorem block_eq (layout : Layout) (handle : Handle) :
    graph.block layout handle = graph'.block layout handle := by
  rcases h.rule_cases handle with ⟨hrule, hrule'⟩ | ⟨rule, rule', hrule, hrule', halike⟩
  · simp only [block, hrule, hrule', bind, Except.bind]
  · obtain ⟨-⟩ := halike
    exact block_congr hrule hrule' rfl rfl (h.identifier_eq handle) layout

theorem blocksWithin_eq (layout : Layout) (depth : Nat) :
    graph.blocksWithin layout depth = graph'.blocksWithin layout depth := by
  induction depth with
  | zero => rfl
  | succ depth ih =>
      funext handle
      unfold blocksWithin
      rw [ih, h.block_eq]
      rcases h.rule_cases handle with ⟨hrule, hrule'⟩ | ⟨rule, rule', hrule, hrule', halike⟩
      · rw [hrule, hrule']
      · obtain ⟨-⟩ := halike
        rw [hrule, hrule']
        rfl

theorem blocks_eq (layout : Layout) (handle : Handle) :
    graph.blocks layout handle = graph'.blocks layout handle := by
  rw [blocks, blocks, h.size_eq, h.blocksWithin_eq]

theorem create : graph.create.2.Alike graph'.create.2 := by
  intro index
  have hsize : graph.rules.size = graph'.rules.size := h.size_eq
  simp only [RuleGraph.create, Array.getElem?_push, hsize]
  split
  · exact .some (.refl {})
  · exact h index

theorem update {change : Rule → Rule}
    (hchange : ∀ {rule rule'}, rule.Alike rule' → (change rule).Alike (change rule')) (handle : Handle) :
    (graph.update handle change).Alike (graph'.update handle change) := by
  intro index
  simp only [RuleGraph.update, Array.getElem?_modify]
  have hpair := h index
  split
  · generalize graph.rules[index]? = entry, graph'.rules[index]? = entry' at hpair ⊢
    cases hpair with
    | none => exact .none
    | some halike => exact .some (hchange halike)
  · exact hpair

theorem sealWith (handle : Handle) (identifier : String) :
    (graph.sealWith handle identifier).Alike (graph'.sealWith handle identifier) := by
  apply h.update
  rintro rule _ ⟨hcontainers⟩
  exact .intro hcontainers

theorem extend (owner : Handle) (addition : Addition) (place : Place) :
    (graph.extend owner addition place).Alike (graph'.extend owner addition place) := by
  have hadded : (graph.update owner (Rule.add addition place)).Alike
      (graph'.update owner (Rule.add addition place)) :=
    h.update (fun halike => halike.add addition place) owner
  unfold RuleGraph.extend
  cases addition.child? with
  | none => exact hadded
  | some child => exact hadded.update (fun halike => halike.addContainer owner) child

end Alike

end RuleGraph

namespace RuleBook

/-- The same catalog of rules that are alike. -/
structure Alike (book book' : RuleBook) : Prop where
  graph : book.graph.Alike book'.graph
  catalog_eq : book.catalog = book'.catalog

namespace Alike

variable {book book' : RuleBook}

theorem refl (book : RuleBook) : book.Alike book := ⟨.refl book.graph, rfl⟩

theorem trans {last : RuleBook} (h : book.Alike book') (h' : book'.Alike last) : book.Alike last :=
  ⟨h.graph.trans h'.graph, h.catalog_eq.trans h'.catalog_eq⟩

variable (h : book.Alike book')
include h

theorem create : book.create.2.Alike book'.create.2 := ⟨h.graph.create, h.catalog_eq⟩

theorem verdict_eq (owner : Handle) (piece : Piece) : book.verdict owner piece = book'.verdict owner piece := by
  unfold verdict
  simp only [h.catalog_eq, h.graph.takes_eq]

theorem extend (owner : Handle) (addition : Addition) (place : Place) :
    (book.extend owner addition place).Alike (book'.extend owner addition place) :=
  ⟨h.graph.extend owner addition place, h.catalog_eq⟩

/-- Registering a rule fails in both books with the same error, or gives the same identifier in both. -/
theorem register_cases (handle : Handle) :
    (∃ error, book.register handle = .error error ∧ book'.register handle = .error error) ∨
      ∃ name next next', book.register handle = .ok (name, next) ∧
        book'.register handle = .ok (name, next') ∧ next.Alike next' := by
  have hsame := h.graph.identifier_eq handle
  cases hname : book.graph.identifier handle with
  | error error =>
      rw [hname] at hsame
      exact Or.inl ⟨error, by rw [register, hname], by rw [register, ← hsame]⟩
  | ok name =>
      rw [hname] at hsame
      refine Or.inr ⟨name, _, _, register_eq_ok_iff.mpr ⟨hname, rfl⟩,
        register_eq_ok_iff.mpr ⟨hsame.symm, rfl⟩, h.graph.sealWith handle name, ?_⟩
      rw [h.catalog_eq]

theorem entryBlocks_eq (layout : Layout) (handle : Handle) :
    book.entryBlocks layout handle = book'.entryBlocks layout handle := by
  unfold entryBlocks
  rw [h.graph.blocks_eq]
  rcases h.graph.rule_cases handle with ⟨hrule, hrule'⟩ | ⟨rule, rule', hrule, hrule', halike⟩
  · rw [hrule, hrule']
  · simp only [hrule, hrule', bind, Except.bind, halike.isTopLevel_eq]

theorem documentBlocks_eq (layout : Layout) : book.documentBlocks layout = book'.documentBlocks layout := by
  simp only [documentBlocks, h.catalog_eq, h.entryBlocks_eq]

theorem documentWith_eq (minifier : String → Except Error String) (layout : Layout) :
    book.documentWith minifier layout = book'.documentWith minifier layout := by
  rw [documentWith, documentWith, h.documentBlocks_eq]

end Alike

end RuleBook

/-- The same answer, except that a rule may list its containers in another order. -/
inductive Response.Alike : Response → Response → Prop
  | same (response : Response) : Alike response response
  | rule {rule rule' : Rule} (halike : rule.Alike rule') : Alike (.rule (.ok rule)) (.rule (.ok rule'))

namespace Publisher

variable {σ : Type}

/-- The same feed into the same sheet, and books that are alike. -/
structure Alike (publisher publisher' : Publisher σ) : Prop where
  book : publisher.book.Alike publisher'.book
  feed_eq : publisher.feed = publisher'.feed

theorem attach_eq (publisher : Publisher σ) (owner : Handle) (piece : Piece) (place : Place) :
    publisher.attach owner piece place = (publisher.book.verdict owner piece).map fun addition =>
      { publisher with book := publisher.book.extend owner addition place } := by
  rw [attach, RuleBook.attach_eq]
  cases publisher.book.verdict owner piece <;> rfl

/-- Attaching a piece is answered by what it adds or by the reason why it adds nothing. -/
theorem map_attach (publisher : Publisher σ) (owner : Handle) (piece : Piece) (place : Place) :
    (publisher.attach owner piece place).map (fun _ => ()) =
      (publisher.book.verdict owner piece).map fun _ => () := by
  rw [attach_eq]
  cases publisher.book.verdict owner piece <;> rfl

namespace Alike

variable {publisher publisher' : Publisher σ}

theorem refl (publisher : Publisher σ) : publisher.Alike publisher := ⟨.refl publisher.book, rfl⟩

theorem trans {last : Publisher σ} (h : publisher.Alike publisher') (h' : publisher'.Alike last) :
    publisher.Alike last := ⟨h.book.trans h'.book, h.feed_eq.trans h'.feed_eq⟩

variable (h : publisher.Alike publisher')
include h

theorem blocks_eq (layout : Layout) (handle : Handle) :
    publisher.blocks layout handle = publisher'.blocks layout handle := h.book.graph.blocks_eq layout handle

theorem documentWith_eq (minifier : String → Except Error String) (layout : Layout) :
    publisher.documentWith minifier layout = publisher'.documentWith minifier layout :=
  h.book.documentWith_eq minifier layout

theorem inquire (inquiry : Inquiry) : (publisher.inquire inquiry).Alike (publisher'.inquire inquiry) := by
  have hsame (hequal : publisher.inquire inquiry = publisher'.inquire inquiry) :
      (publisher.inquire inquiry).Alike (publisher'.inquire inquiry) := by
    rw [hequal]
    exact .same _
  cases inquiry with
  | rule handle =>
      simp only [Publisher.inquire, Publisher.rule]
      rcases h.book.graph.rule_cases handle with ⟨hrule, hrule'⟩ | ⟨rule, rule', hrule, hrule', halike⟩
      · rw [hrule, hrule']
        exact .same _
      · rw [hrule, hrule']
        exact .rule halike
  | lookup name => exact hsame (by simp only [Publisher.inquire, Publisher.lookup, h.book.catalog_eq])
  | identifier handle => exact hsame (congrArg Response.text (h.book.graph.identifier_eq handle))
  | blocks layout handle => exact hsame (congrArg Response.lines (h.blocks_eq layout handle))
  | document minifier layout => exact hsame (congrArg Response.text (h.documentWith_eq minifier layout))
  | contents handle =>
      apply hsame
      simp only [Publisher.inquire, Publisher.contents, Publisher.rule]
      rcases h.book.graph.rule_cases handle with ⟨hrule, hrule'⟩ | ⟨rule, rule', hrule, hrule', halike⟩
      · rw [hrule, hrule']
      · obtain ⟨-⟩ := halike
        rw [hrule, hrule']
        rfl
  | catalog => exact hsame (by simp only [Publisher.inquire, h.book.catalog_eq])
  | isStreaming => exact hsame (by simp only [Publisher.inquire, Publisher.isStreaming, h.feed_eq])
  | isDisposed handle => exact .same _

theorem map_attach_eq (owner : Handle) (piece : Piece) (place : Place) :
    (publisher.attach owner piece place).map (fun _ => ()) =
      (publisher'.attach owner piece place).map fun _ => () := by
  rw [map_attach, map_attach, h.book.verdict_eq]

theorem attach (owner : Handle) (piece : Piece) (place : Place) :
    (match publisher.attach owner piece place with
      | .ok next => next
      | .error _ => publisher).Alike
    (match publisher'.attach owner piece place with
      | .ok next => next
      | .error _ => publisher') := by
  rw [attach_eq, attach_eq, ← h.book.verdict_eq]
  cases publisher.book.verdict owner piece with
  | error error => exact h
  | ok addition => exact ⟨h.book.extend owner addition place, h.feed_eq⟩

variable [Sheet σ]

theorem publish (handle : Handle) : (publisher.publish handle).1 = (publisher'.publish handle).1 ∧
    (publisher.publish handle).2.Alike (publisher'.publish handle).2 := by
  have hstreaming : publisher.isStreaming = publisher'.isStreaming := by
    rw [Publisher.isStreaming, Publisher.isStreaming, h.feed_eq]
  unfold Publisher.publish
  rw [hstreaming, h.blocks_eq, h.feed_eq]
  split
  · split
    · exact ⟨rfl, h⟩
    · exact ⟨rfl, h.book, rfl⟩
  · exact ⟨rfl, h⟩

theorem finish (handle : Handle) : (publisher.finish handle).1 = (publisher'.finish handle).1 ∧
    (publisher.finish handle).2.Alike (publisher'.finish handle).2 := by
  unfold Publisher.finish
  rcases h.book.register_cases handle with ⟨error, hregister, hregister'⟩ |
    ⟨name, next, next', hregister, hregister', halike⟩
  · rw [hregister, hregister']
    exact ⟨rfl, h⟩
  · have hnext : ({ publisher with book := next } : Publisher σ).Alike { publisher' with book := next' } :=
      ⟨halike, h.feed_eq⟩
    simp only [hregister, hregister', Publisher.lookup, halike.catalog_eq]
    cases next'.catalog.lookup name with
    | none => exact ⟨rfl, hnext⟩
    | some first =>
        obtain ⟨hresult, hlast⟩ := hnext.publish first
        exact ⟨congrArg (Except.map fun _ => name) hresult, hlast⟩

theorem answer_eq (call : Call) : publisher.answer call = publisher'.answer call := by
  cases call with
  | create => simp only [answer, Publisher.create, RuleBook.create, RuleGraph.create, h.book.graph.size_eq]
  | attach owner piece place => exact congrArg Response.done (h.map_attach_eq owner piece place)
  | attachFunction owner name => exact congrArg Response.done (h.map_attach_eq owner (.function name) .back)
  | finish handle => exact congrArg Response.text (h.finish handle).1
  | stream enabled => simp only [answer, Publisher.stream, h.feed_eq]
  | publish handle => exact congrArg Response.count (h.publish handle).1

theorem perform (call : Call) : (publisher.perform call).Alike (publisher'.perform call) := by
  cases call with
  | create => exact ⟨h.book.create, h.feed_eq⟩
  | attach owner piece place => exact h.attach owner piece place
  | attachFunction owner name => exact h.attach owner (.function name) .back
  | finish handle => exact (h.finish handle).2
  | stream enabled =>
      refine ⟨h.book, ?_⟩
      simp only [Publisher.perform, Publisher.stream, h.feed_eq]
  | publish handle => exact (h.publish handle).2

theorem respond (message : Message) : (publisher.respond message).1.Alike (publisher'.respond message).1 ∧
    (publisher.respond message).2.Alike (publisher'.respond message).2 := by
  cases message with
  | inquiry inquiry => exact ⟨h.inquire inquiry, h⟩
  | request request =>
      cases request with
      | call call =>
          simp only [Publisher.respond, reply, h.answer_eq call]
          exact ⟨.same _, h.perform call⟩
      | detach owner piece => exact ⟨.same _, h⟩
      | swap left right => exact ⟨.same _, h⟩
      | replace existing replacement => exact ⟨.same _, h⟩
      | attachAttribute owner key value => exact ⟨.same _, h⟩
      | detachAttribute owner key => exact ⟨.same _, h⟩

end Alike

variable [Sheet σ] {publisher publisher' : Publisher σ}

theorem Alike.run (h : publisher.Alike publisher') (calls : List Call) :
    (publisher.run calls).Alike (publisher'.run calls) := by
  induction calls generalizing publisher publisher' with
  | nil => exact h
  | cons call rest ih => exact ih (h.perform call)

/-- Publishers that are alike answer every message alike and are alike after it. -/
theorem Alike.converse (h : publisher.Alike publisher') (messages : List Message) :
    List.Forall₂ Response.Alike (publisher.converse messages).1 (publisher'.converse messages).1 ∧
      (publisher.converse messages).2.Alike (publisher'.converse messages).2 := by
  induction messages generalizing publisher publisher' with
  | nil => exact ⟨.nil, h⟩
  | cons message rest ih =>
      obtain ⟨hanswer, hnext⟩ := h.respond message
      obtain ⟨hanswers, hlast⟩ := ih hnext
      exact ⟨.cons hanswer hanswers, hlast⟩

end Publisher

end CssRules
