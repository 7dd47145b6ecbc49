import CssRules.Proofs.StreamedSheet

/-! The contacts of a feed with its sheet. A sheet is put into a log that notes every attempt to open it and to
append a line; the feed cannot tell the difference. The log begins with attempts to open that fail, then comes at
most one that succeeds, and lines come only after it. -/

namespace CssRules

/-- An attempt to do something with a sheet, and how it ended. -/
inductive Contact where
  | start (result : Except SheetError Unit)
  | append (line : String) (result : Except SheetError Unit)
  deriving DecidableEq

/-- The line that a contact brought into the sheet. -/
def Contact.accepted : Contact → Option String
  | .append line (.ok ()) => some line
  | _ => none

/-- A sheet with a log of the contacts with it. -/
structure LoggedSheet (σ : Type) where
  sheet : σ
  log : List Contact := []

namespace LoggedSheet

variable {σ : Type} [Sheet σ]

def start (logged : LoggedSheet σ) : Except SheetError Unit × LoggedSheet σ :=
  let answer := Sheet.start logged.sheet
  (answer.1, ⟨answer.2, logged.log ++ [.start answer.1]⟩)

def append (logged : LoggedSheet σ) (line : String) : Except SheetError Unit × LoggedSheet σ :=
  let answer := Sheet.append logged.sheet line
  (answer.1, ⟨answer.2, logged.log ++ [.append line answer.1]⟩)

instance : Sheet (LoggedSheet σ) where
  isLive logged := Sheet.isLive logged.sheet
  start := start
  append := append

/-- What holds of a sheet in spite of all contacts holds of it in a log too. -/
theorem keeps_sheet {property : σ → Prop} (hkeeps : Sheet.Keeps property) :
    Sheet.Keeps fun logged : LoggedSheet σ => property logged.sheet where
  start logged h := hkeeps.start logged.sheet h
  append logged line h := hkeeps.append logged.sheet line h

/-- The log of any sheet tells which lines the sheet accepted. -/
def transcript : Transcript (LoggedSheet σ) where
  lines logged := logged.log.filterMap Contact.accepted
  lines_start logged := by
    have hstart : (Sheet.start logged).2.log = logged.log ++ [.start (Sheet.start logged).1] := rfl
    rw [hstart, List.filterMap_append]
    exact List.append_nil _
  lines_of_append {logged line next} happend := by
    have hlog : (Sheet.append logged line).2.log = logged.log ++ [.append line (Sheet.append logged line).1] := rfl
    rw [happend] at hlog
    rw [hlog, List.filterMap_append]
    rfl
  lines_of_refusal {logged line cause next} happend := by
    have hlog : (Sheet.append logged line).2.log = logged.log ++ [.append line (Sheet.append logged line).1] := rfl
    rw [happend] at hlog
    rw [hlog, List.filterMap_append]
    exact List.append_nil _

end LoggedSheet

/-- The logs that a sheet should see; the flag says whether it has been opened. -/
inductive InOrder : Bool → List Contact → Prop
  | untouched : InOrder false []
  | refused {log : List Contact} {cause : SheetError} (h : InOrder false log) :
      InOrder false (log ++ [.start (.error cause)])
  | opened {log : List Contact} (h : InOrder false log) : InOrder true (log ++ [.start (.ok ())])
  | appended {log : List Contact} {line : String} {result : Except SheetError Unit} (h : InOrder true log) :
      InOrder true (log ++ [.append line result])

/-- An entry of a list with one more entry at the end is that one or stands before it. -/
theorem concat_eq_append_cons {α : Type} {log before after : List α} {last entry : α}
    (h : log ++ [last] = before ++ entry :: after) :
    (after = [] ∧ log = before ∧ last = entry) ∨
      ∃ rest, after = rest ++ [last] ∧ log = before ++ entry :: rest := by
  rcases List.eq_nil_or_concat after with rfl | ⟨rest, other, rfl⟩
  · obtain ⟨hlog, hlast⟩ := List.append_inj' h rfl
    exact Or.inl ⟨rfl, hlog, List.head_eq_of_cons_eq hlast⟩
  · have hsplit : log ++ [last] = (before ++ entry :: rest) ++ [other] := by simpa using h
    obtain ⟨hlog, hlast⟩ := List.append_inj' hsplit rfl
    exact Or.inr ⟨rest, by rw [List.head_eq_of_cons_eq hlast, List.concat_eq_append], hlog⟩

namespace InOrder

variable {opened : Bool} {log before after : List Contact} {line : String} {result : Except SheetError Unit}

theorem opened_iff (h : InOrder opened log) : opened = true ↔ .start (.ok ()) ∈ log := by
  induction h with
  | untouched => simp
  | refused _ ih => simpa using ih
  | opened _ => simp
  | appended _ ih => simpa using ih

/-- A line comes only after the sheet has been opened. -/
theorem start_mem_of_append (h : InOrder opened log) (hlog : log = before ++ .append line result :: after) :
    .start (.ok ()) ∈ before := by
  induction h generalizing after with
  | untouched => simp at hlog
  | refused _ ih =>
      rcases concat_eq_append_cons hlog with ⟨-, -, hlast⟩ | ⟨rest, -, hrest⟩
      · cases hlast
      · exact ih hrest
  | opened _ ih =>
      rcases concat_eq_append_cons hlog with ⟨-, -, hlast⟩ | ⟨rest, -, hrest⟩
      · cases hlast
      · exact ih hrest
  | appended hbefore ih =>
      rcases concat_eq_append_cons hlog with ⟨-, rfl, -⟩ | ⟨rest, -, hrest⟩
      · exact hbefore.opened_iff.mp rfl
      · exact ih hrest

/-- An open sheet is not opened again. -/
theorem start_not_mem_of_start (h : InOrder opened log) (hlog : log = before ++ .start (.ok ()) :: after) :
    .start result ∉ after := by
  have hclosed {log rest : List Contact} (h : InOrder false log) :
      log ≠ before ++ .start (.ok ()) :: rest := by
    rintro rfl
    exact absurd (h.opened_iff.mpr (by simp)) Bool.false_ne_true
  induction h generalizing after with
  | untouched => simp at hlog
  | refused hbefore _ =>
      rcases concat_eq_append_cons hlog with ⟨-, -, hlast⟩ | ⟨rest, -, hrest⟩
      · cases hlast
      · exact absurd hrest (hclosed hbefore)
  | opened hbefore _ =>
      rcases concat_eq_append_cons hlog with ⟨rfl, -, -⟩ | ⟨rest, -, hrest⟩
      · exact List.not_mem_nil
      · exact absurd hrest (hclosed hbefore)
  | appended _ ih =>
      rcases concat_eq_append_cons hlog with ⟨-, -, hlast⟩ | ⟨rest, rfl, hrest⟩
      · cases hlast
      · simpa using ih hrest

end InOrder

namespace Feed

variable {σ : Type} [Sheet σ]

/-- What a switch asked for, if it succeeded. -/
def grantedAt (feed : Feed σ) : Event → List Bool
  | .switch enabled =>
      match (feed.setEnabled enabled).1 with
      | .ok _ => [enabled]
      | .error _ => []
  | .publish _ => []

/-- What the switches that succeeded in a run asked for. -/
def grantedSwitches : Feed σ → List Event → List Bool
  | _, [] => []
  | feed, event :: rest => feed.grantedAt event ++ (feed.perform event).grantedSwitches rest

theorem run_concat (feed : Feed σ) (events : List Event) (event : Event) :
    feed.run (events ++ [event]) = (feed.run events).perform event := by
  simp [run]

theorem grantedSwitches_concat (feed : Feed σ) (events : List Event) (event : Event) :
    feed.grantedSwitches (events ++ [event]) =
      feed.grantedSwitches events ++ (feed.run events).grantedAt event := by
  induction events generalizing feed with
  | nil => simp [grantedSwitches, run]
  | cons first rest ih =>
      rw [List.cons_append, grantedSwitches, grantedSwitches, ih, List.append_assoc]
      rfl

/-- A delivery leaves the switch alone. -/
theorem flags_deliver (feed : Feed σ) (lines : List String) :
    (feed.deliver lines).2.enabled = feed.enabled ∧ (feed.deliver lines).2.started = feed.started := by
  induction lines generalizing feed with
  | nil => exact ⟨rfl, rfl⟩
  | cons line rest ih =>
      rcases deliver_cons_cases feed line rest with
        ⟨-, hdeliver⟩ | ⟨cause, sheet, -, hdeliver⟩ | ⟨sheet, -, hdeliver⟩
      · rw [hdeliver]
        exact ih feed
      · rw [hdeliver]
        exact ⟨rfl, rfl⟩
      · rw [hdeliver]
        exact ih (feed.accept line sheet)

/-- A switch that fails fails with the sheet, while the feed is off. -/
theorem setEnabled_eq_error {feed : Feed σ} {enabled : Bool} {error : Error}
    (h : (feed.setEnabled enabled).1 = .error error) :
    feed.started = false ∧ ∃ cause sheet, Sheet.start feed.sheet = (.error cause, sheet) ∧
      feed.setEnabled enabled = (.error (.sheet cause), { feed with sheet := sheet }) := by
  rcases setEnabled_cases feed enabled with ⟨-, hswitch⟩ | ⟨-, ⟨-, hswitch⟩ | ⟨⟨-, hstarted⟩, hopened⟩⟩
  · rw [hswitch] at h
    cases h
  · rw [hswitch] at h
    cases h
  · rcases hopened with hrefused | ⟨sheet, -, hswitch⟩
    · exact ⟨hstarted, hrefused⟩
    · rw [hswitch] at h
      cases h

section Logged

/-- The same feed without the log. -/
def unlogged (feed : Feed (LoggedSheet σ)) : Feed σ where
  sheet := feed.sheet.sheet
  enabled := feed.enabled
  started := feed.started
  seen := feed.seen

variable {feed : Feed (LoggedSheet σ)} {live : Bool} {granted : List Bool}

theorem unlogged_setEnabled (feed : Feed (LoggedSheet σ)) (enabled : Bool) :
    feed.unlogged.setEnabled enabled = ((feed.setEnabled enabled).1, (feed.setEnabled enabled).2.unlogged) := by
  have hstart : feed.unlogged.ensureStarted = (feed.ensureStarted.1, feed.ensureStarted.2.unlogged) := by
    unfold ensureStarted
    rw [show feed.unlogged.started = feed.started from rfl]
    split
    · rfl
    · simp only [Sheet.start, LoggedSheet.start, unlogged]
      cases Sheet.start feed.sheet.sheet with
      | mk result sheet => cases result <;> rfl
  unfold setEnabled
  rw [show Sheet.isLive feed.unlogged.sheet = Sheet.isLive feed.sheet from rfl, hstart]
  split
  · rfl
  · split
    · cases feed.ensureStarted with
      | mk result next => cases result <;> rfl
    · rfl

theorem unlogged_deliver (feed : Feed (LoggedSheet σ)) (lines : List String) :
    feed.unlogged.deliver lines = ((feed.deliver lines).1, (feed.deliver lines).2.unlogged) := by
  induction lines generalizing feed with
  | nil => rfl
  | cons line rest ih =>
      rw [deliver, deliver, show feed.unlogged.seen = feed.seen from rfl]
      split
      · exact ih feed
      · have hanswer : Sheet.append feed.sheet line = ((Sheet.append feed.unlogged.sheet line).1,
            ⟨(Sheet.append feed.unlogged.sheet line).2,
              feed.sheet.log ++ [.append line (Sheet.append feed.unlogged.sheet line).1]⟩) := rfl
        rw [hanswer]
        cases Sheet.append feed.unlogged.sheet line with
        | mk result sheet =>
            cases result with
            | error cause => rfl
            | ok _ =>
                have hrest := ih (feed.accept line ⟨sheet, feed.sheet.log ++ [.append line (.ok ())]⟩)
                exact congrArg (fun answer => (answer.1.map (· + 1), answer.2)) hrest

/-- The feed does not notice the log. -/
theorem unlogged_run (feed : Feed (LoggedSheet σ)) (events : List Event) :
    feed.unlogged.run events = (feed.run events).unlogged := by
  induction events using List.reverseRecOn with
  | nil => rfl
  | append_singleton events event ih =>
      rw [run_concat, run_concat, ih]
      cases event with
      | switch enabled => rw [perform, perform, unlogged_setEnabled]
      | publish lines =>
          rw [perform, perform, publish, publish,
            show (feed.run events).unlogged.isEnabled = (feed.run events).isEnabled from rfl]
          split
          · rw [unlogged_deliver]
          · rfl

/-- The switch, the log and the switches granted so far say the same. -/
structure Governed (feed : Feed (LoggedSheet σ)) (live : Bool) (granted : List Bool) : Prop where
  isLive_eq : Sheet.isLive feed.sheet = live
  in_order : InOrder feed.started feed.sheet.log
  untouched : live = false → feed.sheet.log = []
  enabled_iff : feed.enabled = true ↔ live = true ∧ granted.getLast? = some true
  started_of_enabled : feed.enabled = true → feed.started = true

theorem inOrder_deliver (h : InOrder true feed.sheet.log) (lines : List String) :
    InOrder true (feed.deliver lines).2.sheet.log := by
  induction lines generalizing feed with
  | nil => exact h
  | cons line rest ih =>
      have hnext : InOrder true (Sheet.append feed.sheet line).2.log := h.appended
      rcases deliver_cons_cases feed line rest with
        ⟨-, hdeliver⟩ | ⟨cause, sheet, happend, hdeliver⟩ | ⟨sheet, happend, hdeliver⟩
      · rw [hdeliver]
        exact ih h
      · rw [happend] at hnext
        rwa [hdeliver]
      · rw [happend] at hnext
        rw [hdeliver]
        exact ih hnext

variable (hfixed : Sheet.Keeps fun sheet : σ => Sheet.isLive sheet = live)
include hfixed

theorem Governed.switch (h : feed.Governed live granted) (enabled : Bool) :
    (feed.setEnabled enabled).2.Governed live (granted ++ feed.grantedAt (.switch enabled)) := by
  have hlive := keeps_switch (LoggedSheet.keeps_sheet hfixed) h.isLive_eq enabled
  rw [grantedAt]
  rcases setEnabled_cases feed enabled with
    ⟨hdead, hswitch⟩ | ⟨halive, ⟨hready, hswitch⟩ | ⟨⟨rfl, hclosed⟩, hopening⟩⟩
  · -- Without a live sheet nothing happens, and the feed stays off whatever is granted.
    obtain rfl : live = false := h.isLive_eq.symm.trans hdead
    rw [hswitch]
    exact ⟨h.isLive_eq, h.in_order, h.untouched, by simpa using h.enabled_iff, h.started_of_enabled⟩
  · obtain rfl : live = true := h.isLive_eq.symm.trans halive
    rw [hswitch] at hlive ⊢
    refine ⟨hlive, h.in_order, h.untouched, by simp, fun henabled => ?_⟩
    rcases hready with hoff | hstarted
    · exact absurd (hoff.symm.trans henabled) Bool.false_ne_true
    · exact hstarted
  · obtain rfl : live = true := h.isLive_eq.symm.trans halive
    have hlog := h.in_order
    rw [hclosed] at hlog
    have hnext : (Sheet.start feed.sheet).2.log = feed.sheet.log ++ [.start (Sheet.start feed.sheet).1] := rfl
    rcases hopening with ⟨cause, sheet, hstart, hswitch⟩ | ⟨sheet, hstart, hswitch⟩
    · rw [hstart] at hnext
      have hafter : InOrder feed.started sheet.log := by
        rw [hclosed, show sheet.log = _ from hnext]
        exact hlog.refused
      rw [hswitch] at hlive ⊢
      exact ⟨hlive, hafter, by simp, by simpa using h.enabled_iff, h.started_of_enabled⟩
    · rw [hstart] at hnext
      have hafter : InOrder true sheet.log := by
        rw [show sheet.log = _ from hnext]
        exact hlog.opened
      rw [hswitch] at hlive ⊢
      exact ⟨hlive, hafter, by simp, by simp, fun _ => rfl⟩

theorem Governed.publish (h : feed.Governed live granted) (lines : List String) :
    (feed.publish lines).2.Governed live granted := by
  rw [Feed.publish]
  split
  · rename_i hon
    obtain ⟨henabled, hstarted⟩ := Bool.and_eq_true_iff.mp hon
    obtain ⟨hsame, hsame'⟩ := flags_deliver feed lines
    have hlog := h.in_order
    rw [hstarted] at hlog
    obtain ⟨rfl, -⟩ := h.enabled_iff.mp henabled
    refine ⟨keeps_deliver (LoggedSheet.keeps_sheet hfixed) h.isLive_eq lines, ?_, by simp, ?_, ?_⟩
    · rw [hsame', hstarted]
      exact inOrder_deliver hlog lines
    · rw [hsame]
      exact h.enabled_iff
    · rw [hsame, hsame']
      exact h.started_of_enabled
  · exact h

theorem governed_run {sheet : σ} (hlive : Sheet.isLive sheet = live) (events : List Event) :
    ((ofSheet (LoggedSheet.mk sheet [])).run events).Governed live
      (grantedSwitches (ofSheet (LoggedSheet.mk sheet [])) events) := by
  induction events using List.reverseRecOn with
  | nil => exact ⟨hlive, .untouched, fun _ => rfl, by simp [grantedSwitches, run, ofSheet], fun h => by cases h⟩
  | append_singleton events event ih =>
      rw [run_concat, grantedSwitches_concat]
      cases event with
      | switch enabled => exact ih.switch hfixed enabled
      | publish lines =>
          rw [grantedAt, List.append_nil]
          exact ih.publish hfixed lines

end Logged

/-- **A sheet is opened once, and only then written to.** Take any sheet that is always live or never, whatever
else it does, and any run of a feed into it. No line is appended before the sheet has been opened; a sheet that has
been opened is not opened again; a sheet that is not live is left alone. A switch that fails leaves the feed off,
and the recorded fingerprints and the lines of the sheet as they were. The feed is on exactly if the sheet is live
and has been opened and the last switch that succeeded asked for it. All that is read off the log of the sheet, of
which the feed takes no notice. -/
theorem sheet_contacts_in_order {σ : Type} [Sheet σ] {sheet : σ} {live : Bool}
    (hlive : Sheet.isLive sheet = live) (hfixed : Sheet.Keeps fun sheet : σ => Sheet.isLive sheet = live)
    (events : List Event) {feed : Feed (LoggedSheet σ)}
    (hrun : (ofSheet (LoggedSheet.mk sheet [])).run events = feed) :
    feed.unlogged = (ofSheet sheet).run events ∧
    (∀ before line result after, feed.sheet.log = before ++ .append line result :: after →
      .start (.ok ()) ∈ before) ∧
    (∀ before after result, feed.sheet.log = before ++ .start (.ok ()) :: after → .start result ∉ after) ∧
    (live = false → feed.sheet.log = []) ∧
    (∀ enabled error, (feed.setEnabled enabled).1 = .error error →
      (feed.setEnabled enabled).2.isEnabled = false ∧ (feed.setEnabled enabled).2.seen = feed.seen ∧
      (∃ cause, (feed.setEnabled enabled).2.sheet.log = feed.sheet.log ++ [.start (.error cause)]) ∧
      ∀ transcript : Transcript σ, transcript.lines (feed.setEnabled enabled).2.unlogged.sheet =
        transcript.lines feed.unlogged.sheet) ∧
    (feed.isEnabled = true ↔ live = true ∧ .start (.ok ()) ∈ feed.sheet.log ∧
      (grantedSwitches (ofSheet (LoggedSheet.mk sheet [])) events).getLast? = some true) := by
  have h := governed_run hfixed hlive events
  rw [hrun] at h
  refine ⟨?_, fun _ _ _ _ => h.in_order.start_mem_of_append, fun _ _ _ => h.in_order.start_not_mem_of_start,
    h.untouched, fun enabled error herror => ?_, ?_⟩
  · rw [← hrun, ← unlogged_run]
    rfl
  · obtain ⟨hstarted, cause, next, hstart, hswitch⟩ := setEnabled_eq_error herror
    have hlines (transcript : Transcript σ) := keeps_setEnabled transcript feed.unlogged enabled
    simp only [unlogged_setEnabled] at hlines
    refine ⟨?_, ?_, ⟨cause, ?_⟩, fun transcript => (hlines transcript).1⟩
    · rw [hswitch, isEnabled, hstarted, Bool.and_false]
    · rw [hswitch]
    · have hnext : (Sheet.start feed.sheet).2.log = feed.sheet.log ++ [.start (Sheet.start feed.sheet).1] := rfl
      rw [hstart] at hnext
      rw [hswitch]
      exact hnext
  · rw [isEnabled, Bool.and_eq_true_iff, h.enabled_iff, h.in_order.opened_iff, and_assoc,
      and_comm (b := .start (.ok ()) ∈ feed.sheet.log)]

/-- A sheet that cannot be opened at first and refuses the first line. -/
def reluctantSheet : ScriptedSheet := { failsStart := (· == 0), failsAppend := (· == 0) }

/-- Publications before the sheet is open, after an attempt to open it, and while it is open; in the end the feed is
switched off and on again. -/
def reluctantEvents : List Event :=
  [.publish ["a"], .switch true, .publish ["a"], .switch true, .publish ["a"], .publish ["a"], .switch false,
    .publish ["b"], .switch true]

/-- A scripted sheet stays what it is. -/
theorem keeps_isLive (live : Bool) : Sheet.Keeps fun sheet : ScriptedSheet => Sheet.isLive sheet = live where
  start sheet h := by
    simp only [Sheet.start, ScriptedSheet.start]
    split <;> exact h
  append sheet line h := by
    simp only [Sheet.append, ScriptedSheet.append]
    split <;> exact h

theorem sheet_contacts_in_order_reluctant :
    Sheet.isLive reluctantSheet = true ∧
      (Sheet.Keeps fun sheet : ScriptedSheet => Sheet.isLive sheet = true) ∧
      ∃ feed, (ofSheet (LoggedSheet.mk reluctantSheet [])).run reluctantEvents = feed ∧
        feed.sheet.log =
          [.start (.error .noHead), .start (.ok ()), .append "a" (.error .rejected), .append "a" (.ok ())] ∧
        (∀ before line result after, feed.sheet.log = before ++ .append line result :: after →
          .start (.ok ()) ∈ before) ∧
        feed.unlogged.sheet.lines = ((ofSheet reluctantSheet).run reluctantEvents).sheet.lines ∧
        feed.isEnabled = true := by
  have hlive : Sheet.isLive reluctantSheet = true := rfl
  have hlog : ((ofSheet (LoggedSheet.mk reluctantSheet [])).run reluctantEvents).sheet.log =
      [.start (.error .noHead), .start (.ok ()), .append "a" (.error .rejected), .append "a" (.ok ())] := by
    decide +kernel
  have hgranted : grantedSwitches (ofSheet (LoggedSheet.mk reluctantSheet [])) reluctantEvents =
      [true, false, true] := by decide +kernel
  obtain ⟨hsame, hlines, -, -, -, hon⟩ :=
    sheet_contacts_in_order hlive (keeps_isLive true) reluctantEvents rfl
  refine ⟨hlive, keeps_isLive true, _, rfl, hlog, hlines, by rw [hsame], hon.mpr ⟨rfl, ?_, ?_⟩⟩
  · rw [hlog]
    exact List.mem_cons_of_mem _ List.mem_cons_self
  · rw [hgranted]
    rfl

end Feed

end CssRules
