import CssRules.Proofs.Deduplication
import CssRules.Proofs.Delivery
import CssRules.Proofs.Document

/-! A live sheet and the document. While the feed is on, the sheet has the own block of every registered rule
and no other line, whenever each rule was finished. The document has the same blocks as soon as every rule
with children is finished: the container of a registered rule is then registered or has a registered twin. -/

namespace CssRules

namespace RuleGraph

/-- The lines of a rule in a sheet; without blocks there are none. -/
def linesOf (graph : RuleGraph) (handle : Handle) : List String :=
  match graph.blocks {} handle with
  | .ok lines => lines
  | .error _ => []

end RuleGraph

namespace RuleBook

variable {book next : RuleBook} {call : Call} {handle : Handle} {identifier line : String}

/-- A rule that is registered after a call was registered before or is finished by the call. -/
theorem Registered.step (hstep : book.Step call next) (hregistered : next.Registered handle) :
    book.Registered handle ∨ ∃ identifier, call = .finish handle ∧
      book.register handle = .ok (identifier, next) ∧ next.catalog.lookup identifier = some handle := by
  cases hstep with
  | same => exact Or.inl hregistered
  | create => exact Or.inl hregistered
  | attach hattach hstrings =>
      obtain ⟨name, hlookup⟩ := hregistered
      exact Or.inl ⟨name, (attaches_of_attach hattach).catalog_eq ▸ hlookup⟩
  | @register other identifier _ hregister hcall =>
      obtain ⟨-, rfl⟩ := register_eq_ok_iff.mp hregister
      obtain ⟨name, hlookup⟩ := hregistered
      by_cases hname : name = identifier
      · subst hname
        have hself := hlookup
        rw [Catalog.lookup_insert_self, Option.some.injEq] at hself
        cases hbefore : book.catalog.lookup name with
        | some first =>
            rw [hbefore] at hself
            exact Or.inl ⟨name, hbefore.trans (congrArg some hself)⟩
        | none =>
            rw [hbefore] at hself
            obtain rfl : other = handle := hself
            exact Or.inr ⟨name, hcall, hregister, hlookup⟩
      · exact Or.inl ⟨name, (Catalog.lookup_insert_other _ _ hname).symm.trans hlookup⟩

namespace Consistent

/-- Each line of a sealed rule is the own block of a sealed rule. -/
theorem sealed_of_mem_linesOf (h : book.Consistent) (hsealed : book.graph.SealedAs handle identifier)
    (hline : line ∈ book.graph.linesOf handle) :
    ∃ inner name, book.graph.SealedAs inner name ∧ book.graph.block {} inner = .ok line := by
  obtain ⟨lines, hlines⟩ := h.ranked.exists_blocks {} hsealed.exists_rule
  rw [RuleGraph.linesOf, hlines] at hline
  rw [h.ranked.blocks_eq_walk] at hlines
  obtain ⟨inner, hinner, hblock⟩ := (mem_of_mapM_eq_ok hlines).mp hline
  rcases Relation.ReflTransGen.cases_tail (h.ranked.mem_walk_iff.mp hinner) with rfl | ⟨_, -, hchild⟩
  · exact ⟨inner, identifier, hsealed, hblock⟩
  · obtain ⟨name, hname⟩ := h.child_sealed hchild
    exact ⟨inner, name, hname, hblock⟩

/-- The own block of a rule is one of its lines. -/
theorem exists_block_mem_linesOf (h : book.Consistent)
    (hrule : ∃ rule, book.graph.rule handle = .ok rule) :
    ∃ line ∈ book.graph.linesOf handle, book.graph.block {} handle = .ok line := by
  obtain ⟨rule, hrule⟩ := hrule
  obtain ⟨line, hblock⟩ := h.ranked.exists_block {} hrule
  obtain ⟨lines, hlines⟩ := h.ranked.exists_blocks {} ⟨rule, hrule⟩
  refine ⟨line, ?_, hblock⟩
  rw [RuleGraph.linesOf, hlines]
  rw [h.ranked.blocks_eq_walk] at hlines
  exact (mem_of_mapM_eq_ok hlines).mpr ⟨handle, h.ranked.mem_walk_iff.mpr .refl, hblock⟩

/-- If every rule with children is sealed and has a registered twin, the document has all registered
rules: the twin of a container is a container, too. -/
theorem inDocument_of_twins (h : book.Consistent)
    (htwins : ∀ {handle rule identifier}, book.graph.rule handle = .ok rule →
      rule.identifier = some identifier → ∃ first twin,
        book.catalog.lookup identifier = some first ∧ book.graph.Twins handle first rule twin)
    (hfinished : ∀ handle rule, book.graph.rule handle = .ok rule → rule.children ≠ [] →
      rule.isSealed = true)
    (hregistered : book.Registered handle) : book.InDocument handle := by
  refine h.inDocument_of_containers (fun other _ hcontainers => ?_) hregistered
  obtain ⟨container, hmem⟩ := List.exists_mem_of_ne_nil _ hcontainers
  obtain ⟨rule, hrule, hchild⟩ :=
    RuleGraph.exists_rule_of_mem_childrenOf (h.paired.mem_containersOf_iff.mp hmem)
  have hsealed := hfinished container rule hrule (List.ne_nil_of_mem hchild)
  obtain ⟨name, hname⟩ := Option.isSome_iff_exists.mp hsealed
  obtain ⟨first, twin, hlookup, htwin⟩ := htwins hrule hname
  have hbelow : other ∈ book.graph.childrenOf first :=
    RuleGraph.mem_childrenOf htwin.twin_eq (htwin.children ▸ hchild)
  exact ⟨first, h.paired.mem_containersOf_iff.mpr hbelow, name, hlookup⟩

end Consistent

end RuleBook

/-- Without collisions a sheet has exactly the lines that were delivered. -/
theorem Feed.Delivered.mem_lines_iff {σ : Type} [Sheet σ] {feed : Feed σ} {transcript : Transcript σ}
    {texts : List String} {line : String} (h : feed.Delivered transcript texts)
    (hcollision : CollisionFree texts) : line ∈ transcript.lines feed.sheet ↔ line ∈ texts := by
  refine ⟨h.mem_of_mem_lines, fun hline => ?_⟩
  obtain ⟨other, hother, hfingerprint⟩ := (h.in_step _).mp (h.seen hline)
  rwa [← hcollision other (h.mem_of_mem_lines hother) line hline hfingerprint]

namespace Publisher

variable {σ : Type}

theorem feed_attach {publisher : Publisher σ} {owner : Handle} {piece : Piece} {place : Place} :
    (match publisher.attach owner piece place with
      | .ok next => next
      | .error _ => publisher).feed = publisher.feed := by
  unfold attach
  cases publisher.book.attach owner piece place <;> rfl

variable [Sheet σ] {publisher start : Publisher σ} {sheet : σ}

/-- The lines that a call hands to the feed while it is on. -/
def deliveredLines (publisher : Publisher σ) (call : Call) : List String :=
  if publisher.isStreaming then
    match call with
    | .finish handle =>
        match publisher.book.register handle with
        | .ok (identifier, book) =>
            match book.catalog.lookup identifier with
            | some first => book.graph.linesOf first
            | none => []
        | .error _ => []
    | .publish handle => publisher.book.graph.linesOf handle
    | _ => []
  else []

/-- The lines that are hashed in a run. -/
def hashedLines (publisher : Publisher σ) (calls : List Call) : List String :=
  gather deliveredLines publisher calls

/-- Only rules that are sealed already are published. -/
def PublishesSealed (publisher : Publisher σ) (calls : List Call) : Prop :=
  ∀ before handle after, calls = before ++ .publish handle :: after →
    ∃ rule, (publisher.run before).rule handle = .ok rule ∧ rule.isSealed = true

theorem publishesSealed_concat_iff {calls : List Call} {call : Call} :
    publisher.PublishesSealed (calls ++ [call]) ↔ publisher.PublishesSealed calls ∧
      ∀ handle, call = .publish handle →
        ∃ rule, (publisher.run calls).rule handle = .ok rule ∧ rule.isSealed = true := by
  constructor
  · intro h
    refine ⟨?_, ?_⟩
    · rintro before handle after rfl
      exact h before handle (after ++ [call]) (by simp)
    · rintro handle rfl
      exact h calls handle [] rfl
  · intro h before handle after heq
    obtain ⟨hcalls, hcall⟩ := h
    rcases List.eq_nil_or_concat after with rfl | ⟨rest, last, rfl⟩
    · obtain ⟨rfl, hlast⟩ := List.append_inj' heq rfl
      exact hcall handle (List.cons.inj hlast).1
    · rw [List.concat_eq_append, ← List.cons_append, ← List.append_assoc] at heq
      obtain ⟨hbefore, -⟩ := List.append_inj' heq rfl
      exact hcalls before handle rest hbefore

theorem feed_publish (hstreaming : publisher.isStreaming = true) (handle : Handle) :
    (publisher.publish handle).2.feed =
      (publisher.feed.deliver (publisher.book.graph.linesOf handle)).2 := by
  unfold publish
  rw [if_pos hstreaming, RuleGraph.linesOf, blocks]
  cases publisher.book.graph.blocks {} handle with
  | error error => rfl
  | ok lines =>
      have henabled : publisher.feed.isEnabled = true := hstreaming
      simp only [Feed.publish, henabled, ↓reduceIte]

/-- While the feed is on, each call delivers its lines. -/
theorem feed_perform (hstreaming : publisher.isStreaming = true) {call : Call}
    (hcall : call ≠ .stream false) :
    (publisher.perform call).feed = (publisher.feed.deliver (publisher.deliveredLines call)).2 := by
  unfold deliveredLines
  rw [if_pos hstreaming]
  cases call with
  | create => rfl
  | attach owner piece place => exact feed_attach
  | attachFunction owner name => exact feed_attach
  | finish handle =>
      simp only [perform, finish]
      cases publisher.book.register handle with
      | error error => rfl
      | ok result =>
          obtain ⟨identifier, book⟩ := result
          simp only [lookup]
          cases book.catalog.lookup identifier with
          | none => rfl
          | some first =>
              have hregistered :
                  ({ publisher with book := book } : Publisher σ).isStreaming = true := hstreaming
              exact feed_publish hregistered first
  | stream enabled =>
      cases enabled with
      | true => exact congrArg Prod.snd (Feed.setEnabled_of_isEnabled hstreaming)
      | false => exact absurd rfl hcall
  | publish handle => exact feed_publish hstreaming handle

theorem isStreaming_perform (hstreaming : publisher.isStreaming = true) {call : Call}
    (hcall : call ≠ .stream false) : (publisher.perform call).isStreaming = true := by
  rw [isStreaming, feed_perform hstreaming hcall, Feed.isEnabled_deliver]
  exact hstreaming

/-- Each line that a call delivers is the own block of a sealed rule. -/
theorem sealed_of_mem_deliveredLines {call : Call} (h : publisher.book.Consistent)
    (hpublish : ∀ handle, call = .publish handle →
      ∃ rule, publisher.rule handle = .ok rule ∧ rule.isSealed = true)
    {line : String} (hline : line ∈ publisher.deliveredLines call) :
    ∃ handle identifier, (publisher.perform call).book.graph.SealedAs handle identifier ∧
      (publisher.perform call).book.graph.block {} handle = .ok line := by
  have hnext := h.step (step_perform publisher call)
  unfold deliveredLines at hline
  split at hline
  · cases call with
    | finish handle =>
        simp only at hline
        split at hline
        · rename_i identifier book hregister
          have hbook : (publisher.perform (.finish handle)).book = book := by
            rw [perform, book_finish, hregister]
          rw [hbook] at hnext ⊢
          split at hline
          · rename_i first hlookup
            exact hnext.sealed_of_mem_linesOf (hnext.sealedAs_of_lookup hlookup) hline
          · cases hline
        · cases hline
    | publish handle =>
        obtain ⟨rule, hrule, hsealed⟩ := hpublish handle rfl
        obtain ⟨identifier, hidentifier⟩ := Option.isSome_iff_exists.mp hsealed
        rw [perform, book_publish]
        exact h.sealed_of_mem_linesOf ⟨rule, hrule, hidentifier⟩ hline
    | create => cases hline
    | attach owner piece place => cases hline
    | attachFunction owner name => cases hline
    | stream enabled => cases hline
  · cases hline

/-- Each line that was hashed is the own block of a sealed rule, and stays so. -/
theorem sealed_of_mem_hashedLines (hstart : withSheet sheet = .ok start) {calls : List Call}
    (hpublish : start.PublishesSealed calls) {line : String} (hline : line ∈ start.hashedLines calls) :
    ∃ handle identifier, (start.run calls).book.graph.SealedAs handle identifier ∧
      (start.run calls).book.graph.block {} handle = .ok line := by
  induction calls using List.reverseRecOn with
  | nil => cases hline
  | append_singleton calls call ih =>
      have h := consistent_run hstart calls
      have hgrows := h.extends_step (step_perform (start.run calls) call)
      obtain ⟨hpublishBefore, hpublishLast⟩ := publishesSealed_concat_iff.mp hpublish
      rw [hashedLines, gather_concat] at hline
      rw [run_concat]
      rcases List.mem_append.mp hline with hbefore | hnew
      · obtain ⟨handle, identifier, hsealed, hblock⟩ := ih hpublishBefore hbefore
        exact ⟨handle, identifier, hgrows.sealedAs hsealed, (hgrows.block_eq hsealed {}).trans hblock⟩
      · exact sealed_of_mem_deliveredLines h hpublishLast hnew

section Live

variable {start : Publisher MemorySheet} {calls : List Call}

theorem isStreaming_run (hstart : withSheet ({} : MemorySheet) = .ok start)
    (hstream : ∀ call ∈ calls, call ≠ .stream false) : (start.run calls).isStreaming = true := by
  induction calls using List.reverseRecOn with
  | nil =>
      cases hstart
      rfl
  | append_singleton calls call ih =>
      rw [run_concat]
      exact isStreaming_perform (ih fun other hother => hstream other (List.mem_append_left _ hother))
        (hstream call (List.mem_append_right _ List.mem_cons_self))

theorem delivered_run (hstart : withSheet ({} : MemorySheet) = .ok start)
    (hstream : ∀ call ∈ calls, call ≠ .stream false) :
    (start.run calls).feed.Delivered MemorySheet.transcript (start.hashedLines calls) := by
  induction calls using List.reverseRecOn with
  | nil =>
      have hempty (fingerprint : Fingerprint) : fingerprint ∈ [] ↔
          ∃ line ∈ [], Fingerprint.ofText line = fingerprint := by simp
      cases hstart
      exact ⟨hempty, fun hline => hline, fun hline => absurd hline List.not_mem_nil⟩
  | append_singleton calls call ih =>
      have hbefore : ∀ other ∈ calls, other ≠ .stream false := fun other hother =>
        hstream other (List.mem_append_left _ hother)
      have hcall := hstream call (List.mem_append_right _ List.mem_cons_self)
      obtain ⟨count, hcount⟩ := Feed.deliver_memorySheet (start.run calls).feed
        ((start.run calls).deliveredLines call)
      rw [run_concat, feed_perform (isStreaming_run hstart hbefore) hcall, hashedLines, gather_concat]
      exact (ih hbefore).deliver hcount

/-- The own block of each registered rule was hashed when the rule was finished. -/
theorem exists_hashedLine_of_registered (hstart : withSheet ({} : MemorySheet) = .ok start)
    (hstream : ∀ call ∈ calls, call ≠ .stream false) {handle : Handle}
    (hregistered : (start.run calls).book.Registered handle) :
    ∃ line ∈ start.hashedLines calls, (start.run calls).book.graph.block {} handle = .ok line := by
  induction calls using List.reverseRecOn with
  | nil =>
      rw [run, List.foldl_nil, book_withSheet hstart] at hregistered
      obtain ⟨identifier, hlookup⟩ := hregistered
      cases hlookup
  | append_singleton calls call ih =>
      have h := consistent_run hstart calls
      have hnext := consistent_run hstart (calls ++ [call])
      have hbefore : ∀ other ∈ calls, other ≠ .stream false := fun other hother =>
        hstream other (List.mem_append_left _ hother)
      have hstep := step_perform (start.run calls) call
      rw [run_concat] at hregistered hnext ⊢
      rw [hashedLines, gather_concat]
      rcases hregistered.step hstep with hold | ⟨identifier, rfl, hregister, hlookup⟩
      · obtain ⟨line, hline, hblock⟩ := ih hbefore hold
        obtain ⟨name, hname⟩ := hold
        exact ⟨line, List.mem_append_left _ hline,
          ((h.extends_step hstep).block_eq (h.sealedAs_of_lookup hname) {}).trans hblock⟩
      · obtain ⟨line, hline, hblock⟩ :=
          hnext.exists_block_mem_linesOf (hnext.exists_rule_of_registered hregistered)
        refine ⟨line, List.mem_append_right _ ?_, hblock⟩
        rw [deliveredLines, if_pos (isStreaming_run hstart hbefore)]
        simp only [hregister, hlookup]
        exact hline

/-- **The live sheet and the document agree.** In every run that never switches the feed off and publishes
sealed rules only, the sheet and the document have the same blocks in each state in which every rule with
children is sealed. -/
theorem sheet_eq_document (hstart : withSheet ({} : MemorySheet) = .ok start)
    (hstream : ∀ call ∈ calls, call ≠ .stream false) (hpublish : start.PublishesSealed calls)
    (hfinished : ∀ handle rule, (start.run calls).rule handle = .ok rule → rule.children ≠ [] →
      rule.isSealed = true)
    (hstrings : ∀ text ∈ start.attachedStrings calls, ZeroFree text)
    (hcontents : CollisionFree (start.hashedContents calls))
    (hlines : CollisionFree (start.hashedLines calls)) :
    ∃ blocks, (start.run calls).book.documentBlocks {} = .ok blocks ∧
      (start.run calls).document {} = .ok (Layout.join {} blocks) ∧
      ∀ line, line ∈ (start.run calls).feed.sheet.lines ↔ line ∈ blocks := by
  have h := consistent_run hstart calls
  have htwins {handle : Handle} {rule : Rule} {identifier : String}
      (hrule : (start.run calls).rule handle = .ok rule) (hidentifier : rule.identifier = some identifier) :=
    exists_twin_run hstart hstrings hcontents hrule hidentifier
  obtain ⟨blocks, hblocks⟩ := h.exists_documentBlocks {}
  refine ⟨blocks, hblocks, RuleBook.document_eq_join hblocks rfl, fun line => ?_⟩
  rw [h.documentBlocks_eq] at hblocks
  rw [mem_of_mapM_eq_ok hblocks]
  refine ((delivered_run hstart hstream).mem_lines_iff hlines).trans ?_
  constructor
  · intro hline
    obtain ⟨handle, identifier, ⟨rule, hrule, hidentifier⟩, hblock⟩ :=
      sealed_of_mem_hashedLines hstart hpublish hline
    obtain ⟨first, twin, hlookup, htwin⟩ := htwins hrule hidentifier
    have hdocument := h.inDocument_of_twins htwins hfinished ⟨identifier, hlookup⟩
    rw [htwin.block_eq (by simp [hidentifier])] at hblock
    exact ⟨first, h.mem_documentOrder_iff.mpr hdocument, hblock⟩
  · intro hemitted
    obtain ⟨handle, hmem, hblock⟩ := hemitted
    have hregistered := h.registered_of_inDocument (h.mem_documentOrder_iff.mp hmem)
    obtain ⟨other, hother, hown⟩ := exists_hashedLine_of_registered hstart hstream hregistered
    rw [hblock] at hown
    cases hown
    exact hother

/-- A rule and the rule around it are finished, and the inner one is published again. -/
def liveCalls : List Call := nestingCalls ++ [.finish ⟨1⟩] ++ [.publish ⟨0⟩]

theorem sheet_eq_document_nested :
    withSheet ({} : MemorySheet) = .ok live ∧
      (∀ call ∈ liveCalls, call ≠ .stream false) ∧ live.PublishesSealed liveCalls ∧
      (∀ handle rule, (live.run liveCalls).rule handle = .ok rule → rule.children ≠ [] →
        rule.isSealed = true) ∧
      (∀ text ∈ live.attachedStrings liveCalls, ZeroFree text) ∧
      CollisionFree (live.hashedContents liveCalls) ∧ CollisionFree (live.hashedLines liveCalls) ∧
      (live.run liveCalls).feed.sheet.lines = [".box \x7b \x7d", ".r1bdonijvwyunu \x7b \x7d"] ∧
      ∃ blocks, (live.run liveCalls).book.documentBlocks {} = .ok blocks ∧
        (live.run liveCalls).document {} = .ok (Layout.join {} blocks) ∧
        ∀ line, line ∈ (live.run liveCalls).feed.sheet.lines ↔ line ∈ blocks := by
  have hstart : withSheet ({} : MemorySheet) = .ok live := rfl
  have hstream : ∀ call ∈ liveCalls, call ≠ .stream false := by simp [liveCalls, nestingCalls]
  have hpublish : live.PublishesSealed liveCalls := by
    refine publishesSealed_concat_iff.mpr ⟨?_, fun handle hcall => ?_⟩
    · intro before handle after heq
      have hmem : Call.publish handle ∈ nestingCalls ++ [.finish ⟨1⟩] := by simp [heq]
      simp [nestingCalls] at hmem
    · cases hcall
      have hsealed :
          ((live.run (nestingCalls ++ [.finish ⟨1⟩])).rule ⟨0⟩).map Rule.isSealed = .ok true := by
        decide +kernel
      exact exists_of_map_eq_ok hsealed
  have hfinished : ∀ handle rule, (live.run liveCalls).rule handle = .ok rule → rule.children ≠ [] →
      rule.isSealed = true := by
    have hall : (live.run liveCalls).book.graph.rules.all Rule.isSealed = true := by decide +kernel
    intro handle rule hrule _
    exact Array.all_eq_true'.mp hall rule (Array.mem_of_getElem? (RuleGraph.rule_eq_ok_iff.mp hrule))
  have hstrings : ∀ text ∈ live.attachedStrings liveCalls, ZeroFree text := by decide +kernel
  have hcontents : CollisionFree (live.hashedContents liveCalls) := by decide +kernel
  have hlines : CollisionFree (live.hashedLines liveCalls) := by decide +kernel
  exact ⟨hstart, hstream, hpublish, hfinished, hstrings, hcontents, hlines, by decide +kernel,
    sheet_eq_document hstart hstream hpublish hfinished hstrings hcontents hlines⟩

end Live

end Publisher

end CssRules
