import CssRules.Proofs.FeedRun
import CssRules.Proofs.Frozen
import CssRules.Proofs.LiveSheet

/-! Any sheet, switched on and off at will and failing as it likes. Whatever comes into it is the own block of a
sealed rule, so that it is never out of date; and when a rule was finished with success while the feed was on,
all its lines are in the sheet and stay there. -/

namespace CssRules

/-- Opening a sheet and appending to it keep a property, with success or without. -/
structure Sheet.Keeps {σ : Type} [Sheet σ] (property : σ → Prop) : Prop where
  start : ∀ sheet, property sheet → property (Sheet.start sheet).2
  append : ∀ sheet line, property sheet → property (Sheet.append sheet line).2

/-- Lines at the beginning of a sheet stay there. -/
theorem Transcript.keeps_lines {σ : Type} [Sheet σ] (transcript : Transcript σ) (lines : List String) :
    Sheet.Keeps fun sheet => lines <+: transcript.lines sheet where
  start sheet h := (transcript.lines_start sheet).symm ▸ h
  append sheet line h := by
    cases happend : Sheet.append sheet line with
    | mk result next =>
        cases result with
        | error cause => exact (transcript.lines_of_refusal happend).symm ▸ h
        | ok _ =>
            rw [transcript.lines_of_append happend]
            exact h.trans (List.prefix_append _ _)

namespace Feed

variable {σ : Type} [Sheet σ] {feed : Feed σ} {transcript : Transcript σ} {property : σ → Prop}

theorem keeps_deliver (hkeeps : Sheet.Keeps property) (h : property feed.sheet) (lines : List String) :
    property (feed.deliver lines).2.sheet := by
  induction lines generalizing feed with
  | nil => exact h
  | cons line rest ih =>
      have hnext := hkeeps.append feed.sheet line h
      rcases deliver_cons_cases feed line rest with
        ⟨-, hdeliver⟩ | ⟨cause, sheet, happend, hdeliver⟩ | ⟨sheet, happend, hdeliver⟩
      · rw [hdeliver]
        exact ih h
      · rw [hdeliver]
        rwa [happend] at hnext
      · rw [hdeliver]
        rw [happend] at hnext
        exact ih hnext

theorem keeps_switch (hkeeps : Sheet.Keeps property) (h : property feed.sheet) (enabled : Bool) :
    property (feed.setEnabled enabled).2.sheet := by
  have hopen := hkeeps.start feed.sheet h
  rcases setEnabled_cases feed enabled with ⟨-, hswitch⟩ | ⟨-, ⟨-, hswitch⟩ | ⟨-, hopened⟩⟩
  · rwa [hswitch]
  · rwa [hswitch]
  · rcases hopened with ⟨cause, sheet, hstart, hswitch⟩ | ⟨sheet, hstart, hswitch⟩
    · rw [hstart] at hopen
      rwa [hswitch]
    · rw [hstart] at hopen
      rwa [hswitch]

/-- Behind the lines that the sheet had before it has some more. They are the recorded ones, and each of them
was delivered. -/
structure Shows (feed : Feed σ) (transcript : Transcript σ) (before shown delivered : List String) :
    Prop where
  lines_eq : transcript.lines feed.sheet = before ++ shown
  recorded_eq : feed.seen.recorded = shown.map Fingerprint.ofText
  mem_delivered : ∀ line ∈ shown, line ∈ delivered

variable {before shown delivered lines : List String}

theorem Shows.setEnabled (h : feed.Shows transcript before shown delivered) (enabled : Bool) :
    (feed.setEnabled enabled).2.Shows transcript before shown delivered := by
  obtain ⟨hlines, hseen⟩ := keeps_setEnabled transcript feed enabled
  exact ⟨hlines.trans h.lines_eq, hseen ▸ h.recorded_eq, h.mem_delivered⟩

theorem Shows.deliver (h : feed.Shows transcript before shown delivered) (lines : List String) :
    (feed.deliver lines).2.Shows transcript before (shown ++ feed.seen.missing (feed.passed lines))
      (delivered ++ lines) where
  lines_eq := by rw [lines_deliver, h.lines_eq, List.append_assoc]
  recorded_eq := by rw [seen_deliver_eq, Fingerprints.completed, h.recorded_eq, List.map_append]
  mem_delivered := by
    intro line hline
    rcases List.mem_append.mp hline with hold | hnew
    · exact List.mem_append_left _ (h.mem_delivered line hold)
    · have hpassed := Fingerprints.mem_of_mem_missing hnew
      exact List.mem_append_right _ ((passed_prefix_self feed lines).subset hpassed)

/-- When a delivery succeeds, and no line collides with another one, all lines are in the sheet. -/
theorem Shows.mem_lines_of_deliver (h : feed.Shows transcript before shown delivered)
    (hcollision : CollisionFree (delivered ++ lines)) {count : Nat}
    (hok : (feed.deliver lines).1 = .ok count) {line : String} (hline : line ∈ lines) :
    line ∈ transcript.lines (feed.deliver lines).2.sheet := by
  have hnext := h.deliver lines
  have hrecorded := seen_deliver hok line hline
  rw [hnext.recorded_eq] at hrecorded
  obtain ⟨other, hother, hfingerprint⟩ := List.mem_map.mp hrecorded
  have hsame : other = line :=
    hcollision other (hnext.mem_delivered other hother) line (List.mem_append_right _ hline) hfingerprint
  rw [hnext.lines_eq, ← hsame]
  exact List.mem_append_right _ hother

end Feed

namespace Publisher

variable {σ : Type} [Sheet σ] {publisher start : Publisher σ} {sheet : σ} {transcript : Transcript σ}

/-- While the feed is off only the switch reaches it. -/
theorem feed_perform_of_off (hoff : publisher.isStreaming = false) {call : Call}
    (hcall : ∀ enabled, call ≠ .stream enabled) : (publisher.perform call).feed = publisher.feed := by
  have hpublish (book : RuleBook) (handle : Handle) :
      (({ publisher with book } : Publisher σ).publish handle).2.feed = publisher.feed := by
    have hstill : ({ publisher with book } : Publisher σ).isStreaming = false := hoff
    simp [publish, hstill]
  cases call with
  | create => rfl
  | attach owner piece place => exact feed_attach
  | attachFunction owner name => exact feed_attach
  | finish handle =>
      simp only [perform, finish]
      cases publisher.book.register handle with
      | error error => rfl
      | ok result =>
          obtain ⟨name, book⟩ := result
          simp only [lookup]
          cases book.catalog.lookup name with
          | none => rfl
          | some first => exact hpublish book first
  | stream enabled => exact absurd rfl (hcall enabled)
  | publish handle => exact hpublish publisher.book handle

/-- What a call can do to the feed: it switches it, or delivers lines into it. -/
theorem feed_perform_cases (publisher : Publisher σ) (call : Call) :
    (∃ enabled, call = .stream enabled ∧
      (publisher.perform call).feed = (publisher.feed.setEnabled enabled).2) ∨
    (publisher.perform call).feed = (publisher.feed.deliver (publisher.deliveredLines call)).2 := by
  by_cases hswitch : ∃ enabled, call = .stream enabled
  · obtain ⟨enabled, rfl⟩ := hswitch
    exact Or.inl ⟨enabled, rfl, rfl⟩
  · have hcall (enabled : Bool) : call ≠ .stream enabled := fun heq => hswitch ⟨enabled, heq⟩
    refine Or.inr ?_
    cases hstreaming : publisher.isStreaming with
    | true => exact feed_perform hstreaming (hcall false)
    | false =>
        have hnone : publisher.deliveredLines call = [] := by simp [deliveredLines, hstreaming]
        rw [hnone, Feed.deliver_nil, feed_perform_of_off hstreaming hcall]

theorem keeps_run {property : σ → Prop} (hkeeps : Sheet.Keeps property)
    (h : property publisher.feed.sheet) (calls : List Call) :
    property (publisher.run calls).feed.sheet := by
  induction calls using List.reverseRecOn with
  | nil => exact h
  | append_singleton calls call ih =>
      rw [run_concat]
      rcases feed_perform_cases (publisher.run calls) call with ⟨enabled, -, hfeed⟩ | hfeed
      · rw [hfeed]
        exact Feed.keeps_switch hkeeps ih enabled
      · rw [hfeed]
        exact Feed.keeps_deliver hkeeps ih _

/-- What stands in the sheet stays there. -/
theorem lines_grow_run (transcript : Transcript σ) (publisher : Publisher σ) (calls : List Call) :
    transcript.lines publisher.feed.sheet <+: transcript.lines (publisher.run calls).feed.sheet :=
  keeps_run (transcript.keeps_lines _) List.prefix_rfl calls

/-- What a run shows was handed to the feed in it. -/
theorem shows_run {before : List String} (h : publisher.feed.Shows transcript before [] [])
    (calls : List Call) :
    ∃ shown, (publisher.run calls).feed.Shows transcript before shown (publisher.hashedLines calls) := by
  induction calls using List.reverseRecOn with
  | nil => exact ⟨[], h⟩
  | append_singleton calls call ih =>
      obtain ⟨shown, hshown⟩ := ih
      rw [run_concat, hashedLines, gather_concat]
      rcases feed_perform_cases (publisher.run calls) call with ⟨enabled, rfl, hfeed⟩ | hfeed
      · have hnone : (publisher.run calls).deliveredLines (.stream enabled) = [] := by simp [deliveredLines]
        rw [hfeed, hnone, List.append_nil]
        exact ⟨shown, hshown.setEnabled enabled⟩
      · rw [hfeed]
        exact ⟨_, hshown.deliver _⟩

/-- At first a sheet has the lines it had before. -/
theorem shows_withSheet (hstart : withSheet sheet = .ok start) (transcript : Transcript σ) :
    start.feed.Shows transcript (transcript.lines sheet) [] [] := by
  obtain ⟨hlines, hseen⟩ := Feed.keeps_setEnabled transcript { sheet } true
  rw [eq_stream_of_withSheet hstart]
  refine ⟨?_, ?_, fun _ hline => absurd hline List.not_mem_nil⟩
  · rw [List.append_nil]
    exact hlines
  · exact congrArg Fingerprints.recorded hseen

section

variable {book : RuleBook} {handle first : Handle} {name : String} {lines : List String}

/-- Only a rule that exists can be finished. -/
theorem exists_rule_of_finish (hok : (publisher.finish handle).1 = .ok name) :
    ∃ rule, publisher.book.graph.rule handle = .ok rule := by
  refine RuleGraph.exists_rule_iff.mpr (Nat.lt_of_not_le fun hmissing => ?_)
  rw [finish_of_no_rule hmissing] at hok
  cases hok

/-- Finishing a rule while the feed is on registers it and delivers the lines of the registered rule. -/
theorem finish_eq_deliver (hstreaming : publisher.isStreaming = true)
    (hregister : publisher.book.register handle = .ok (name, book))
    (hlookup : book.catalog.lookup name = some first) (hlines : book.graph.blocks {} first = .ok lines) :
    publisher.finish handle =
      ((publisher.feed.deliver lines).1.map fun _ => name,
        { book, feed := (publisher.feed.deliver lines).2 }) := by
  have henabled : publisher.feed.isEnabled = true := hstreaming
  simp only [finish, hregister, lookup, hlookup, publish, isStreaming, henabled, ↓reduceIte, blocks, hlines,
    Feed.publish]

/-- The lines of a sealed rule never change. -/
theorem blocks_run_of_sealed (hstart : withSheet sheet = .ok start) {calls : List Call}
    (hsealed : (start.run calls).book.graph.SealedAs first name) (more : List Call) (layout : Layout) :
    (start.run (calls ++ more)).blocks layout first = (start.run calls).blocks layout first := by
  have h := consistent_run hstart calls
  have hnext := consistent_run hstart (calls ++ more)
  have hgrows := extends_run hstart calls more
  rw [← run_append] at hgrows
  have hsame := hgrows.sameStructure h.ranked h.child_sealed hsealed
  exact (hsame.blocks_eq h.ranked hnext.ranked h.current hnext.current layout).symm

end

/-- **What streams is never out of date, and what is finished is there.** Take any run that publishes sealed
rules only, over any sheet, with the feed switched on and off and with any failures. Each line that came into
the sheet is the own block of a sealed rule. Moreover, when a rule is finished with success while the feed is
on, and no two lines of the run collide, the sheet has all lines of the rule that is registered under its
identifier, then and after everything that follows. -/
theorem sheet_shows_sealed (hstart : withSheet sheet = .ok start) (transcript : Transcript σ)
    {calls : List Call} (hpublish : start.PublishesSealed calls) :
    (∃ shown, transcript.lines (start.run calls).feed.sheet = transcript.lines sheet ++ shown ∧
      ∀ line ∈ shown, ∃ handle name, (start.run calls).book.graph.SealedAs handle name ∧
        (start.run calls).book.graph.block {} handle = .ok line) ∧
    ∀ handle name, (start.run calls).isStreaming = true →
      ((start.run calls).finish handle).1 = .ok name →
      CollisionFree (start.hashedLines (calls ++ [.finish handle])) →
      ∃ first lines, (start.run (calls ++ [.finish handle])).identifier handle = .ok name ∧
        (start.run (calls ++ [.finish handle])).lookup name = some first ∧
        (start.run (calls ++ [.finish handle])).blocks {} first = .ok lines ∧
        ∀ more, (start.run (calls ++ [.finish handle] ++ more)).blocks {} first = .ok lines ∧
          ∀ line ∈ lines,
            line ∈ transcript.lines (start.run (calls ++ [.finish handle] ++ more)).feed.sheet := by
  obtain ⟨shown, hshown⟩ := shows_run (shows_withSheet hstart transcript) calls
  refine ⟨⟨shown, hshown.lines_eq, fun line hline => ?_⟩, fun handle name hstreaming hok hcollision => ?_⟩
  · exact sealed_of_mem_hashedLines hstart hpublish (hshown.mem_delivered line hline)
  · have hrule := exists_rule_of_finish hok
    obtain ⟨identifier, book, first, hregister, hbook, hlookup, lines, hlines⟩ :=
      (consistent_run hstart calls).exists_register hrule
    have hfinish := finish_eq_deliver hstreaming hregister hlookup hlines
    rw [hfinish] at hok
    obtain ⟨count, hcount, rfl⟩ := exists_of_map_eq_ok hok
    have hnext : start.run (calls ++ [.finish handle]) =
        { book, feed := ((start.run calls).feed.deliver lines).2 } := by
      rw [run_concat, perform, hfinish]
    have hdelivered : (start.run calls).deliveredLines (.finish handle) = lines := by
      simp only [deliveredLines, if_pos hstreaming, hregister, hlookup, RuleGraph.linesOf, hlines]
    rw [hashedLines, gather_concat, hdelivered] at hcollision
    obtain ⟨hidentifier, -⟩ := RuleBook.register_eq_ok_iff.mp (RuleBook.register_register hregister)
    have hsealed := hbook.sealedAs_of_lookup hlookup
    refine ⟨first, lines, ?_, ?_, ?_, fun more => ⟨?_, fun line hline => ?_⟩⟩
    · rw [hnext]
      exact hidentifier
    · rw [hnext]
      exact hlookup
    · rw [hnext]
      exact hlines
    · rw [blocks_run_of_sealed hstart (by rw [hnext]; exact hsealed), hnext]
      exact hlines
    · have hnow := hshown.mem_lines_of_deliver hcollision hcount hline
      have hstays := lines_grow_run transcript (start.run (calls ++ [.finish handle])) more
      rw [run_append]
      exact hstays.subset (hnext ▸ hnow)

/-- The sheet refuses the line of a rule at first. The rule around it is finished while the feed is off, and
the first rule is published when it is on again. -/
def toggledCalls : List Call :=
  nestingCalls ++ [.stream false, .finish ⟨1⟩, .stream true] ++ [.publish ⟨0⟩]

theorem sheet_shows_sealed_toggled :
    withSheet ({ failsAppend := (· == 0) } : ScriptedSheet) = .ok refused ∧
      refused.PublishesSealed toggledCalls ∧
      ScriptedSheet.transcript.lines (refused.run toggledCalls).feed.sheet = [".box \x7b \x7d"] ∧
      (∃ handle name, (refused.run toggledCalls).book.graph.SealedAs handle name ∧
        (refused.run toggledCalls).book.graph.block {} handle = .ok ".box \x7b \x7d") ∧
      (refused.run toggledCalls).isStreaming = true ∧
      ((refused.run toggledCalls).finish ⟨1⟩).1 = .ok "r1bdonijvwyunu" ∧
      CollisionFree (refused.hashedLines (toggledCalls ++ [.finish ⟨1⟩])) ∧
      ∃ first lines, (refused.run (toggledCalls ++ [.finish ⟨1⟩])).lookup "r1bdonijvwyunu" = some first ∧
        (refused.run (toggledCalls ++ [.finish ⟨1⟩])).blocks {} first = .ok lines ∧
        ∀ line ∈ lines, line ∈ ScriptedSheet.transcript.lines
          (refused.run (toggledCalls ++ [.finish ⟨1⟩] ++ [.stream false])).feed.sheet := by
  have hstart : withSheet ({ failsAppend := (· == 0) } : ScriptedSheet) = .ok refused := rfl
  have hpublish : refused.PublishesSealed toggledCalls := by
    refine publishesSealed_concat_iff.mpr ⟨?_, fun handle hcall => ?_⟩
    · intro before handle after heq
      have hmem : Call.publish handle ∈ nestingCalls ++ [.stream false, .finish ⟨1⟩, .stream true] := by
        simp [heq]
      simp [nestingCalls] at hmem
    · cases hcall
      have hsealed : ((refused.run (nestingCalls ++ [.stream false, .finish ⟨1⟩, .stream true])).rule
          ⟨0⟩).map Rule.isSealed = .ok true := by decide +kernel
      exact exists_of_map_eq_ok hsealed
  have hsheet : ScriptedSheet.transcript.lines (refused.run toggledCalls).feed.sheet =
      [".box \x7b \x7d"] := by decide +kernel
  have hstreaming : (refused.run toggledCalls).isStreaming = true := by decide +kernel
  have hok : ((refused.run toggledCalls).finish ⟨1⟩).1 = .ok "r1bdonijvwyunu" := by decide +kernel
  have hcollision : CollisionFree (refused.hashedLines (toggledCalls ++ [.finish ⟨1⟩])) := by
    decide +kernel
  obtain ⟨⟨shown, hshown, hall⟩, hfinished⟩ := sheet_shows_sealed hstart ScriptedSheet.transcript hpublish
  rw [hsheet] at hshown
  obtain rfl : [".box \x7b \x7d"] = shown := hshown
  obtain ⟨first, lines, -, hlookup, hblocks, hlater⟩ := hfinished ⟨1⟩ _ hstreaming hok hcollision
  exact ⟨hstart, hpublish, hsheet, hall _ (List.mem_singleton_self _), hstreaming, hok, hcollision, first,
    lines, hlookup, hblocks, (hlater [.stream false]).2⟩

end Publisher

end CssRules
