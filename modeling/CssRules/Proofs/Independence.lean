import CssRules.Proofs.Assembly
import CssRules.Proofs.Replies
import CssRules.Proofs.StreamedSheet

/-! The sheet has no influence on the rules. The book of a publisher is assembled by the operations in the calls of
the host, and switching the feed and publishing are none. So two hosts that ask for the same operations have the
same book, whatever their sheets do, and the sheet shows in the answers only when finishing a rule fails with it. -/

namespace CssRules

/-- The operation on the rules that a call asks for. -/
def Call.operation? : Call → Option Operation
  | .create => some .create
  | .attach owner piece place => some (.attach owner piece place)
  | .attachFunction owner name => some (.attach owner (.function name) .back)
  | .finish handle => some (.register handle)
  | .stream _ => none
  | .publish _ => none

/-- Only a sheet that refuses a line makes a delivery fail. -/
theorem Feed.refused_of_deliver {σ : Type} [Sheet σ] {feed : Feed σ} {lines : List String} {cause : SheetError}
    (h : (feed.deliver lines).1 = .error (.sheet cause)) :
    ∃ (sheet : σ) (line : String), (Sheet.append sheet line).1 = .error cause := by
  induction lines generalizing feed with
  | nil => cases h
  | cons line rest ih =>
      rcases deliver_cons_cases feed line rest with
        ⟨-, hdeliver⟩ | ⟨other, sheet, happend, hdeliver⟩ | ⟨sheet, -, hdeliver⟩
      · rw [hdeliver] at h
        exact ih h
      · rw [hdeliver] at h
        obtain rfl : other = cause := Error.sheet.inj (Except.error.inj h)
        exact ⟨feed.sheet, line, by rw [happend]⟩
      · rw [hdeliver] at h
        cases hrest : ((feed.accept line sheet).deliver rest).1 with
        | ok count =>
            rw [hrest] at h
            cases h
        | error refusal =>
            rw [hrest] at h
            exact ih (hrest.trans h)

namespace Publisher

variable {σ : Type} {publisher start : Publisher σ} {sheet : σ} {handle : Handle}

theorem book_perform_attach (owner : Handle) (piece : Piece) (place : Place) :
    (match publisher.attach owner piece place with
      | .ok next => next
      | .error _ => publisher).book = publisher.book.perform (.attach owner piece place) := by
  rw [RuleBook.perform, attach]
  cases publisher.book.attach owner piece place <;> rfl

/-- Publishers with the same book answer every inquiry in the same way, except whether they are streaming. -/
theorem inquire_congr {τ : Type} {other : Publisher τ} (hbook : publisher.book = other.book) {inquiry : Inquiry}
    (hinquiry : inquiry ≠ .isStreaming) : publisher.inquire inquiry = other.inquire inquiry := by
  cases inquiry with
  | isStreaming => exact absurd rfl hinquiry
  | contents handle => simp only [inquire, contents, rule, hbook]
  | _ => simp only [inquire, rule, lookup, identifier, blocks, documentWith, isDisposed, hbook]

variable [Sheet σ]

/-- A call does its operation on the book, or nothing. -/
theorem book_perform (publisher : Publisher σ) (call : Call) :
    (publisher.perform call).book = match call.operation? with
      | some operation => publisher.book.perform operation
      | none => publisher.book := by
  cases call with
  | create => rfl
  | attach owner piece place => exact book_perform_attach owner piece place
  | attachFunction owner name => exact book_perform_attach owner (.function name) .back
  | finish handle => exact book_finish handle
  | stream enabled => rfl
  | publish handle => exact book_publish handle

theorem book_run (publisher : Publisher σ) (calls : List Call) :
    (publisher.run calls).book = (calls.filterMap Call.operation?).foldl RuleBook.perform publisher.book := by
  induction calls generalizing publisher with
  | nil => rfl
  | cons call rest ih =>
      have hnext : (publisher.run (call :: rest)).book =
          (rest.filterMap Call.operation?).foldl RuleBook.perform (publisher.perform call).book := ih _
      rw [hnext, book_perform, List.filterMap_cons]
      cases call.operation? <;> rfl

/-- The book of a publisher is assembled by the operations in the calls. -/
theorem book_run_eq_assemble (hstart : withSheet sheet = .ok start) (calls : List Call) :
    (start.run calls).book = RuleBook.assemble (calls.filterMap Call.operation?) := by
  rw [book_run, book_withSheet hstart, RuleBook.assemble]

section

variable (h : publisher.book.Consistent)
include h

/-- Only a sheet that refuses a line makes finishing a rule fail together with the sheet. -/
theorem refused_of_finish {cause : SheetError}
    (hfinish : (publisher.finish handle).1 = .error (.sheet cause)) :
    ∃ (sheet : σ) (line : String), (Sheet.append sheet line).1 = .error cause := by
  have hrule : ∃ rule, publisher.book.graph.rule handle = .ok rule := by
    refine RuleGraph.exists_rule_iff.mpr (Nat.lt_of_not_le fun hmissing => ?_)
    rw [finish_of_no_rule hmissing] at hfinish
    cases hfinish
  obtain ⟨name, book, first, hregister, -, hlookup, lines, hlines⟩ := h.exists_register hrule
  cases hstreaming : publisher.isStreaming with
  | true =>
      rw [finish_eq_deliver hstreaming hregister hlookup hlines] at hfinish
      cases hdeliver : (publisher.feed.deliver lines).1 with
      | ok count =>
          rw [hdeliver] at hfinish
          cases hfinish
      | error error =>
          rw [hdeliver] at hfinish
          cases hfinish
          exact Feed.refused_of_deliver hdeliver
  | false =>
      have hstill : ({ publisher with book } : Publisher σ).isStreaming = false := hstreaming
      have hfound : ({ publisher with book } : Publisher σ).lookup name = some first := hlookup
      simp [finish, hregister, hfound, publish, hstill, Except.map] at hfinish

/-- What finishing a rule answers: its identifier, unless the rule does not exist or the sheet refuses a line. -/
theorem finish_cases (handle : Handle) :
    (publisher.book.graph.size ≤ handle.index ∧
      (publisher.finish handle).1 = .error (.invalidRule handle)) ∨
    ∃ name, publisher.identifier handle = .ok name ∧ ((publisher.finish handle).1 = .ok name ∨
      ∃ cause, (publisher.finish handle).1 = .error (.sheet cause) ∧
        ∃ (sheet : σ) (line : String), (Sheet.append sheet line).1 = .error cause) := by
  rcases Nat.lt_or_ge handle.index publisher.book.graph.size with hlt | hmissing
  · obtain ⟨name, hregister, hresult⟩ := finish_of_rule h (RuleGraph.exists_rule_iff.mpr hlt)
    refine Or.inr ⟨name, (RuleBook.register_eq_ok_iff.mp hregister).1, hresult.imp_right ?_⟩
    rintro ⟨cause, hcause⟩
    exact ⟨cause, hcause, refused_of_finish h hcause⟩
  · exact Or.inl ⟨hmissing, by rw [finish_of_no_rule hmissing]⟩

end

/-- Publishers with the same book answer every call on the rules in the same way, unless it finishes one. -/
theorem answer_congr {τ : Type} [Sheet τ] {other : Publisher τ} (hbook : publisher.book = other.book)
    {call : Call} (hcall : call.operation?.isSome) (hfinish : ∀ handle, call ≠ .finish handle) :
    publisher.answer call = other.answer call := by
  have hattach (owner : Handle) (piece : Piece) (place : Place) :
      (publisher.attach owner piece place).map (fun _ => ()) =
        (other.attach owner piece place).map fun _ => () := by
    rw [attach, attach, hbook]
    cases other.book.attach owner piece place <;> rfl
  cases call with
  | create => simp only [answer, create, hbook]
  | attach owner piece place => exact congrArg Response.done (hattach owner piece place)
  | attachFunction owner name => exact congrArg Response.done (hattach owner (.function name) .back)
  | finish handle => exact absurd rfl (hfinish handle)
  | stream enabled => cases hcall
  | publish handle => cases hcall

/-- **Streaming never influences the rules.** Take a run without a sheet and one into any sheet with any failures,
in which the host asks for the same operations on the rules, while it switches the feed and publishes as it likes
in each of them. Both then have the same book, and as their beginnings up to a common operation are such runs too,
they have it after each of these. The next operation has the same answer in both; only when it finishes a rule, the
sheet may refuse a line and make it fail, where the other run gives the identifier. All that can be read of the
rules is the same, also the document, whatever minifies it. -/
theorem streaming_leaves_rules_alone (hstart : withSheet sheet = .ok start) {calls calls' : List Call}
    (hsame : calls.filterMap Call.operation? = calls'.filterMap Call.operation?) :
    (offline.run calls).book = (start.run calls').book ∧
    (∀ call, call.operation?.isSome → (∀ handle, call ≠ .finish handle) →
      (offline.run calls).answer call = (start.run calls').answer call) ∧
    (∀ handle,
      ((offline.run calls).answer (.finish handle) = .text (.error (.invalidRule handle)) ∧
        (start.run calls').answer (.finish handle) = .text (.error (.invalidRule handle))) ∨
      ∃ name, (offline.run calls).answer (.finish handle) = .text (.ok name) ∧
        ((start.run calls').answer (.finish handle) = .text (.ok name) ∨
          ∃ cause, (start.run calls').answer (.finish handle) = .text (.error (.sheet cause)) ∧
            ∃ (sheet : σ) (line : String), (Sheet.append sheet line).1 = .error cause)) ∧
    ∀ inquiry, inquiry ≠ .isStreaming →
      (offline.run calls).inquire inquiry = (start.run calls').inquire inquiry := by
  have hoffline : withSheet ({} : AbsentSheet) = .ok offline := rfl
  have hbook : (offline.run calls).book = (start.run calls').book := by
    rw [book_run_eq_assemble hoffline, book_run_eq_assemble hstart, hsame]
  refine ⟨hbook, fun _ => answer_congr hbook, fun handle => ?_, fun _ => inquire_congr hbook⟩
  rcases finish_cases (consistent_run hoffline calls) handle with ⟨hmissing, hresult⟩ | ⟨name, hname, hresult⟩
  · rw [hbook] at hmissing
    refine Or.inl ⟨congrArg Response.text hresult, ?_⟩
    rw [answer, finish_of_no_rule hmissing]
  · have hok : ((offline.run calls).finish handle).1 = .ok name := by
      rcases hresult with hok | ⟨cause, -, absent, line, hrefused⟩
      · exact hok
      · cases hrefused
    refine Or.inr ⟨name, congrArg Response.text hok, ?_⟩
    rcases finish_cases (consistent_run hstart calls') handle with
      ⟨hmissing, -⟩ | ⟨name', hname', hresult'⟩
    · rw [← hbook] at hmissing
      rw [finish_of_no_rule hmissing] at hok
      cases hok
    · obtain rfl : name' = name := by
        rw [identifier, hbook] at hname
        exact Except.ok.inj (hname'.symm.trans hname)
      rcases hresult' with hok' | ⟨cause, hcause, hrefused⟩
      · exact Or.inl (congrArg Response.text hok')
      · exact Or.inr ⟨cause, congrArg Response.text hcause, hrefused⟩

/-- A rule that is not finished yet. -/
def boxCalls : List Call := [.create, .attach ⟨0⟩ (.literal "box") .back]

/-- The same rule, with the feed switched off and on again and an attempt to publish what does not exist. -/
def unsettledCalls : List Call :=
  [.stream false, .create, .publish ⟨3⟩, .attach ⟨0⟩ (.literal "box") .back, .stream true]

theorem streaming_leaves_rules_alone_refused :
    withSheet ({ failsAppend := (· == 0) } : ScriptedSheet) = .ok refused ∧
      boxCalls.filterMap Call.operation? = unsettledCalls.filterMap Call.operation? ∧
      (refused.run unsettledCalls).answer (.finish ⟨0⟩) = .text (.error (.sheet .rejected)) ∧
      (∃ name, (offline.run boxCalls).answer (.finish ⟨0⟩) = .text (.ok name)) ∧
      ∀ minifier layout, (offline.run boxCalls).inquire (.document minifier layout) =
        (refused.run unsettledCalls).inquire (.document minifier layout) := by
  have hstart : withSheet ({ failsAppend := (· == 0) } : ScriptedSheet) = .ok refused := rfl
  have hsame : boxCalls.filterMap Call.operation? = unsettledCalls.filterMap Call.operation? := rfl
  have hrefused : (refused.run unsettledCalls).answer (.finish ⟨0⟩) = .text (.error (.sheet .rejected)) :=
    congrArg Response.text (by decide +kernel)
  obtain ⟨-, -, hfinish, hinquire⟩ := streaming_leaves_rules_alone hstart hsame
  refine ⟨hstart, hsame, hrefused, ?_, fun _ _ => hinquire _ (by simp)⟩
  rcases hfinish ⟨0⟩ with ⟨-, hmissing⟩ | ⟨name, hname, -⟩
  · rw [hrefused] at hmissing
    cases hmissing
  · exact ⟨name, hname⟩

end Publisher

end CssRules
