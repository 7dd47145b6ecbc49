import CssRules.Proofs.Alike

/-! Several rules that are built at the same time. Steps on different rules can change places: each of them has the
answer that it had before, and only a rule that both of them nest can tell, by the order of its containers. So the
steps on each rule may be mixed with those on all others in any way. -/

namespace CssRules

/-- One step in building a rule: a piece is attached at one of its ends. -/
structure Attachment where
  owner : Handle
  piece : Piece
  place : Place

def Attachment.call (step : Attachment) : Call := .attach step.owner step.piece step.place

/-- The same steps in another order, in which the steps with the same owner follow each other as before. -/
structure Reordered (steps steps' : List Attachment) : Prop where
  perm : steps.Perm steps'
  filter_eq : ∀ owner, steps.filter (·.owner = owner) = steps'.filter (·.owner = owner)

section Commutation

variable {owner owner' : Handle} {addition addition' : Addition} {place place' : Place}

namespace Rule

variable (rule : Rule)

theorem add_addContainer : (rule.addContainer owner').add addition place =
    (rule.add addition place).addContainer owner' := by
  cases addition <;> rfl

theorem addContainer_comm : ((rule.addContainer owner).addContainer owner').Alike
    ((rule.addContainer owner').addContainer owner) := by
  have hswap : (rule.containers ++ [owner] ++ [owner']).Perm (rule.containers ++ [owner'] ++ [owner]) := by
    rw [List.append_assoc, List.append_assoc]
    exact (List.Perm.swap owner' owner []).append_left rule.containers
  exact .intro hswap

/-- Additions to different owners commute: at most one of them adds to the rule, and if both nest the rule,
their owners become its containers in one order or the other. -/
theorem undergo_comm (howner : owner ≠ owner') (index : Nat) :
    ((rule.undergo index owner addition place).undergo index owner' addition' place').Alike
      ((rule.undergo index owner' addition' place').undergo index owner addition place) := by
  unfold undergo
  by_cases hfirst : index = owner.index
  · have hsecond : index ≠ owner'.index := fun h => howner (Handle.index_inj.mp (hfirst.symm.trans h))
    simp only [if_pos hfirst, if_neg hsecond]
    split <;> split <;> simp only [add_addContainer, addContainer_comm, Alike.refl]
  · by_cases hsecond : index = owner'.index
    · simp only [if_neg hfirst, if_pos hsecond]
      split <;> split <;> simp only [add_addContainer, addContainer_comm, Alike.refl]
    · simp only [if_neg hfirst, if_neg hsecond]
      split <;> split <;> simp only [addContainer_comm, Alike.refl]

end Rule

theorem RuleGraph.extend_comm (graph : RuleGraph) (howner : owner ≠ owner') :
    ((graph.extend owner addition place).extend owner' addition' place').Alike
      ((graph.extend owner' addition' place').extend owner addition place) := by
  intro index
  rw [getElem?_extend, getElem?_extend, getElem?_extend, getElem?_extend]
  cases graph.rules[index]? with
  | none => exact .none
  | some rule => exact .some (rule.undergo_comm howner index)

theorem RuleBook.extend_comm (book : RuleBook) (howner : owner ≠ owner') :
    ((book.extend owner addition place).extend owner' addition' place').Alike
      ((book.extend owner' addition' place').extend owner addition place) :=
  ⟨book.graph.extend_comm howner, rfl⟩

end Commutation

namespace Publisher

variable {σ : Type} [Sheet σ] (publisher : Publisher σ)

/-- Several steps, each with its answer. -/
def outcomes : Publisher σ → List Attachment → List (Attachment × Response)
  | _, [] => []
  | publisher, step :: rest =>
      (step, publisher.answer step.call) :: outcomes (publisher.perform step.call) rest

theorem answer_attachment (step : Attachment) : publisher.answer step.call =
    .done ((publisher.book.verdict step.owner step.piece).map fun _ => ()) :=
  congrArg Response.done (map_attach publisher step.owner step.piece step.place)

theorem perform_of_error {step : Attachment} {error : Error}
    (h : publisher.book.verdict step.owner step.piece = .error error) :
    publisher.perform step.call = publisher := by
  simp only [Attachment.call, perform, attach_eq, h, Except.map]

theorem perform_of_ok {step : Attachment} {addition : Addition}
    (h : publisher.book.verdict step.owner step.piece = .ok addition) : publisher.perform step.call =
      { publisher with book := publisher.book.extend step.owner addition step.place } := by
  simp only [Attachment.call, perform, attach_eq, h, Except.map]

/-- No step changes what other steps add. -/
theorem verdict_perform (step : Attachment) (owner : Handle) (piece : Piece) :
    (publisher.perform step.call).book.verdict owner piece = publisher.book.verdict owner piece := by
  cases hverdict : publisher.book.verdict step.owner step.piece with
  | error error => rw [perform_of_error publisher hverdict]
  | ok addition =>
      rw [perform_of_ok publisher hverdict]
      exact RuleBook.verdict_extend step.owner owner addition step.place piece

/-- The answer to a step does not depend on the steps before it. -/
theorem outcomes_eq_map (steps : List Attachment) :
    publisher.outcomes steps = steps.map fun step => (step, publisher.answer step.call) := by
  induction steps generalizing publisher with
  | nil => rfl
  | cons step rest ih =>
      rw [outcomes, ih, List.map_cons]
      simp only [answer_attachment, verdict_perform]

/-- Two steps may change places as far as their additions may. -/
theorem perform_swap {Same : Publisher σ → Publisher σ → Prop} (hrefl : ∀ publisher, Same publisher publisher)
    {step other : Attachment}
    (hboth : ∀ {addition addition'}, publisher.book.verdict step.owner step.piece = .ok addition →
      publisher.book.verdict other.owner other.piece = .ok addition' →
      Same
        { publisher with
          book := (publisher.book.extend step.owner addition step.place).extend other.owner addition' other.place }
        { publisher with
          book := (publisher.book.extend other.owner addition' other.place).extend step.owner addition
            step.place }) :
    Same ((publisher.perform step.call).perform other.call)
      ((publisher.perform other.call).perform step.call) := by
  have hother := verdict_perform publisher step other.owner other.piece
  have hstep := verdict_perform publisher other step.owner step.piece
  cases hverdict : publisher.book.verdict step.owner step.piece with
  | error error =>
      rw [hverdict] at hstep
      rw [perform_of_error publisher hverdict, perform_of_error _ hstep]
      exact hrefl _
  | ok addition =>
      rw [hverdict] at hstep
      cases hverdict' : publisher.book.verdict other.owner other.piece with
      | error error =>
          rw [hverdict'] at hother
          rw [perform_of_error publisher hverdict', perform_of_error _ hother]
          exact hrefl _
      | ok addition' =>
          rw [hverdict'] at hother
          rw [perform_of_ok _ hother, perform_of_ok _ hstep, perform_of_ok publisher hverdict,
            perform_of_ok publisher hverdict']
          exact hboth hverdict hverdict'

theorem perform_comm {step other : Attachment} (h : step.owner ≠ other.owner) :
    ((publisher.perform step.call).perform other.call).Alike
      ((publisher.perform other.call).perform step.call) :=
  publisher.perform_swap .refl fun _ _ => ⟨publisher.book.extend_comm h, rfl⟩

/-- A step may be put off until after any steps on other rules. -/
theorem run_put_off {step : Attachment} {before : List Attachment} (after : List Attachment)
    (h : ∀ other ∈ before, step.owner ≠ other.owner) :
    (publisher.run ((step :: (before ++ after)).map Attachment.call)).Alike
      (publisher.run ((before ++ step :: after).map Attachment.call)) := by
  induction before generalizing publisher with
  | nil => exact .refl _
  | cons other before ih =>
      have hswap := publisher.perform_comm (h other List.mem_cons_self)
      have hlater : ∀ another ∈ before, step.owner ≠ another.owner := fun another hmem =>
        h another (List.mem_cons_of_mem other hmem)
      exact (hswap.run ((before ++ after).map Attachment.call)).trans
        (ih (publisher.perform other.call) hlater)

/-- The steps on each rule decide by themselves what all steps together lead to. -/
theorem run_alike {steps steps' : List Attachment}
    (h : ∀ owner, steps.filter (·.owner = owner) = steps'.filter (·.owner = owner)) :
    (publisher.run (steps.map Attachment.call)).Alike (publisher.run (steps'.map Attachment.call)) := by
  induction steps generalizing publisher steps' with
  | nil =>
      cases steps' with
      | nil => exact .refl _
      | cons step rest =>
          have hnone := h step.owner
          simp at hnone
  | cons step rest ih =>
      -- The first step is also the first one on its rule in the other list, where only steps on other rules
      -- come before it.
      have hown := (h step.owner).symm
      rw [List.filter_cons_of_pos (by simp), List.filter_eq_cons_iff] at hown
      obtain ⟨before, after, rfl, hbefore, -, hafter⟩ := hown
      have hothers : ∀ other ∈ before, step.owner ≠ other.owner := fun other hmem heq =>
        hbefore other hmem (by simp [heq])
      have hrest (owner : Handle) : rest.filter (·.owner = owner) =
          (before ++ after).filter (·.owner = owner) := by
        rw [List.filter_append]
        by_cases howner : step.owner = owner
        · subst howner
          have hnone : before.filter (·.owner = step.owner) = [] := List.filter_eq_nil_iff.mpr hbefore
          rw [hafter, hnone, List.nil_append]
        · simpa [List.filter_append, List.filter_cons, howner] using h owner
      exact (ih (publisher.perform step.call) hrest).trans (publisher.run_put_off after hothers)

/-- **Rules are built independently of one another.** Take any publisher and any steps, of which some may fail, and
put them into another order in which the steps on each single rule follow each other as before. Each step then has
the same answer, and the publishers in the end differ at most in the order in which rules list their containers.
Whatever a host asks and tells them from then on, they answer alike, with no more difference than this order in a
rule that is read, and they have the same catalog, the same sheet, and in every layout the same blocks of rules and
of the document, from which the document is made, whatever minifies it. -/
theorem building_interleaves {steps steps' : List Attachment} (h : Reordered steps steps') :
    (∀ owner, (publisher.outcomes steps).filter (·.1.owner = owner) =
      (publisher.outcomes steps').filter (·.1.owner = owner)) ∧
    (publisher.run (steps.map Attachment.call)).Alike (publisher.run (steps'.map Attachment.call)) ∧
    ∀ messages, ∃ answers answers' last last',
      (publisher.run (steps.map Attachment.call)).converse messages = (answers, last) ∧
      (publisher.run (steps'.map Attachment.call)).converse messages = (answers', last') ∧
      List.Forall₂ Response.Alike answers answers' ∧ last.Alike last' ∧
      last.book.catalog = last'.book.catalog ∧ last.feed.sheet = last'.feed.sheet ∧
      ∀ layout, (∀ handle, last.blocks layout handle = last'.blocks layout handle) ∧
        last.book.documentBlocks layout = last'.book.documentBlocks layout ∧
        ∀ minifier, last.documentWith minifier layout = last'.documentWith minifier layout := by
  have halike := publisher.run_alike h.filter_eq
  refine ⟨fun owner => ?_, halike, fun messages => ?_⟩
  · rw [outcomes_eq_map, outcomes_eq_map, List.filter_map, List.filter_map]
    exact congrArg _ (h.filter_eq owner)
  · obtain ⟨hanswers, hlast⟩ := halike.converse messages
    exact ⟨_, _, _, _, rfl, rfl, hanswers, hlast, hlast.book.catalog_eq, congrArg Feed.sheet hlast.feed_eq,
      fun layout => ⟨hlast.blocks_eq layout, hlast.book.documentBlocks_eq layout,
        fun minifier => hlast.documentWith_eq minifier layout⟩⟩

/-- A finished rule and two open ones. -/
def openCalls : List Call :=
  [.create, .attach ⟨0⟩ (.literal "box") .back, .finish ⟨0⟩, .create, .create]

/-- The rule under the handle nests the finished one. -/
def nestingStep (owner : Handle) : Attachment := ⟨owner, .nested (Identifier.ofContent "f:box\x00"), .back⟩

/-- A step on the finished rule, which fails. -/
def lateStep : Attachment := ⟨⟨0⟩, .literal "late", .front⟩

theorem building_interleaves_nested :
    Reordered [nestingStep ⟨1⟩, lateStep, nestingStep ⟨2⟩] [nestingStep ⟨2⟩, nestingStep ⟨1⟩, lateStep] ∧
      ∃ first second,
        (offline.run openCalls).run ([nestingStep ⟨1⟩, lateStep, nestingStep ⟨2⟩].map Attachment.call) = first ∧
        (offline.run openCalls).run ([nestingStep ⟨2⟩, nestingStep ⟨1⟩, lateStep].map Attachment.call) = second ∧
        first.book.graph.containersOf ⟨0⟩ = [⟨1⟩, ⟨2⟩] ∧ second.book.graph.containersOf ⟨0⟩ = [⟨2⟩, ⟨1⟩] ∧
        first.Alike second ∧
        List.Forall₂ Response.Alike
          (first.converse [.inquiry (.rule ⟨0⟩), .request (.call (.finish ⟨1⟩))]).1
          (second.converse [.inquiry (.rule ⟨0⟩), .request (.call (.finish ⟨1⟩))]).1 := by
  have hreordered : Reordered [nestingStep ⟨1⟩, lateStep, nestingStep ⟨2⟩]
      [nestingStep ⟨2⟩, nestingStep ⟨1⟩, lateStep] := by
    have hswap : ([nestingStep ⟨1⟩, lateStep] ++ [nestingStep ⟨2⟩]).Perm
        ([nestingStep ⟨2⟩] ++ [nestingStep ⟨1⟩, lateStep]) := List.perm_append_comm
    refine ⟨hswap, fun owner => ?_⟩
    by_cases howner : owner = ⟨2⟩
    · subst howner
      rfl
    · simp [nestingStep, List.filter_cons, Ne.symm howner]
  obtain ⟨-, halike, hmessages⟩ := (offline.run openCalls).building_interleaves hreordered
  obtain ⟨answers, answers', last, last', hfirst, hsecond, hanswers, -⟩ :=
    hmessages [.inquiry (.rule ⟨0⟩), .request (.call (.finish ⟨1⟩))]
  refine ⟨hreordered, _, _, rfl, rfl, by decide +kernel, by decide +kernel, halike, ?_⟩
  rw [hfirst, hsecond]
  exact hanswers

end Publisher

end CssRules
