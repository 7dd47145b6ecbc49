import CssRules.Proofs.Missing
import CssRules.Sheet.Scripted

/-! Runs of a feed: it is switched on and off, and lines are published, in any order and with any failures of
the sheet. The recorded fingerprints are then those of the lines in the sheet, in their order, and the sheet
has the lines that the deliveries went through, without those whose fingerprint came before. -/

namespace CssRules

def ScriptedSheet.transcript : Transcript ScriptedSheet where
  lines := ScriptedSheet.lines
  lines_start sheet := by
    simp only [Sheet.start, ScriptedSheet.start]
    split <;> rfl
  lines_of_append {sheet line next} h := by
    simp only [Sheet.append, ScriptedSheet.append] at h
    split at h <;> cases h
    rfl
  lines_of_refusal {sheet line cause next} h := by
    simp only [Sheet.append, ScriptedSheet.append] at h
    split at h <;> cases h
    rfl

namespace Feed

/-- What the owner of a feed asks for. -/
inductive Event where
  | switch (enabled : Bool)
  | publish (lines : List String)

variable {σ : Type}

/-- The feed into a sheet that has not been opened. -/
def ofSheet (sheet : σ) : Feed σ := { sheet }

variable [Sheet σ]

def perform (feed : Feed σ) : Event → Feed σ
  | .switch enabled => (feed.setEnabled enabled).2
  | .publish lines => (feed.publish lines).2

/-- The feed after several events. -/
def run (feed : Feed σ) (events : List Event) : Feed σ := events.foldl perform feed

/-- The lines that an event goes through before the sheet refuses one. -/
def passedAt (feed : Feed σ) : Event → List String
  | .switch _ => []
  | .publish lines => if feed.isEnabled then feed.passed lines else []

/-- The lines that the events of a run go through, one event after the other. -/
def passedLines : Feed σ → List Event → List String
  | _, [] => []
  | feed, event :: rest => feed.passedAt event ++ (feed.perform event).passedLines rest

variable {feed : Feed σ}

/-- What switching a feed does: nothing without a live sheet, else it sets the switch, after it has opened the
sheet if the sheet is needed and was not open. -/
theorem setEnabled_cases (feed : Feed σ) (enabled : Bool) :
    (Sheet.isLive feed.sheet = false ∧ feed.setEnabled enabled = (.ok (), feed)) ∨
    Sheet.isLive feed.sheet = true ∧
      (((enabled = false ∨ feed.started = true) ∧
        feed.setEnabled enabled = (.ok (), { feed with enabled := enabled })) ∨
      (enabled = true ∧ feed.started = false) ∧
        ((∃ cause sheet, Sheet.start feed.sheet = (.error cause, sheet) ∧
          feed.setEnabled enabled = (.error (.sheet cause), { feed with sheet := sheet })) ∨
        ∃ sheet, Sheet.start feed.sheet = (.ok (), sheet) ∧
          feed.setEnabled enabled =
            (.ok (), { feed with sheet := sheet, enabled := true, started := true }))) := by
  cases hlive : Sheet.isLive feed.sheet with
  | false => exact Or.inl ⟨rfl, by simp [setEnabled, hlive]⟩
  | true =>
      refine Or.inr ⟨rfl, ?_⟩
      cases enabled with
      | false => exact Or.inl ⟨Or.inl rfl, by simp [setEnabled, hlive]⟩
      | true =>
          cases hstarted : feed.started with
          | true =>
              refine Or.inl ⟨Or.inr rfl, ?_⟩
              simp [setEnabled, ensureStarted, hlive, hstarted]
          | false =>
              refine Or.inr ⟨⟨rfl, rfl⟩, ?_⟩
              cases hstart : Sheet.start feed.sheet with
              | mk result sheet =>
                  cases result with
                  | error cause =>
                      refine Or.inl ⟨cause, sheet, rfl, ?_⟩
                      simp [setEnabled, ensureStarted, hlive, hstarted, hstart]
                  | ok _ =>
                      refine Or.inr ⟨sheet, rfl, ?_⟩
                      simp [setEnabled, ensureStarted, hlive, hstarted, hstart]

/-- Switching a feed touches neither the lines of the sheet nor the recorded fingerprints. -/
theorem keeps_setEnabled (transcript : Transcript σ) (feed : Feed σ) (enabled : Bool) :
    transcript.lines (feed.setEnabled enabled).2.sheet = transcript.lines feed.sheet ∧
      (feed.setEnabled enabled).2.seen = feed.seen := by
  have hlines := transcript.lines_start feed.sheet
  rcases setEnabled_cases feed enabled with ⟨-, hswitch⟩ | ⟨-, ⟨-, hswitch⟩ | ⟨-, hopened⟩⟩
  · rw [hswitch]
    exact ⟨rfl, rfl⟩
  · rw [hswitch]
    exact ⟨rfl, rfl⟩
  · rcases hopened with ⟨cause, sheet, hstart, hswitch⟩ | ⟨sheet, hstart, hswitch⟩
    · rw [hstart] at hlines
      rw [hswitch]
      exact ⟨hlines, rfl⟩
    · rw [hstart] at hlines
      rw [hswitch]
      exact ⟨hlines, rfl⟩

/-- One event adds the missing ones of the lines it goes through, and records them. -/
theorem perform_eq (transcript : Transcript σ) (feed : Feed σ) (event : Event) :
    transcript.lines (feed.perform event).sheet =
        transcript.lines feed.sheet ++ feed.seen.missing (feed.passedAt event) ∧
      (feed.perform event).seen = feed.seen.completed (feed.passedAt event) := by
  cases event with
  | switch enabled => simpa [perform, passedAt] using keeps_setEnabled transcript feed enabled
  | publish lines =>
      rw [perform, passedAt, publish]
      split
      · exact ⟨lines_deliver transcript feed lines, seen_deliver_eq feed lines⟩
      · simp

/-- A run adds the missing ones of the lines it goes through, and records them. -/
theorem run_eq (transcript : Transcript σ) (feed : Feed σ) (events : List Event) :
    transcript.lines (feed.run events).sheet =
        transcript.lines feed.sheet ++ feed.seen.missing (feed.passedLines events) ∧
      (feed.run events).seen = feed.seen.completed (feed.passedLines events) := by
  induction events generalizing feed with
  | nil => simp [run, passedLines]
  | cons event rest ih =>
      obtain ⟨hlines, hseen⟩ := perform_eq transcript feed event
      obtain ⟨hrest, hrestSeen⟩ := ih (feed.perform event)
      constructor
      · calc transcript.lines (feed.run (event :: rest)).sheet
            = transcript.lines (feed.perform event).sheet ++
                (feed.perform event).seen.missing ((feed.perform event).passedLines rest) := hrest
          _ = transcript.lines feed.sheet ++ feed.seen.missing (feed.passedLines (event :: rest)) := by
            rw [hlines, hseen, passedLines, Fingerprints.missing_append, List.append_assoc]
      · calc (feed.run (event :: rest)).seen
            = (feed.perform event).seen.completed ((feed.perform event).passedLines rest) := hrestSeen
          _ = feed.seen.completed (feed.passedLines (event :: rest)) := by
            rw [hseen, passedLines, Fingerprints.completed_append]

/-- What a successful publication counts is what it adds. -/
theorem exists_added_of_publish (transcript : Transcript σ) {lines : List String} {count : Nat}
    (h : (feed.publish lines).1 = .ok count) :
    ∃ added, added.length = count ∧
      transcript.lines (feed.publish lines).2.sheet = transcript.lines feed.sheet ++ added := by
  rw [publish] at h ⊢
  split at h
  · rename_i henabled
    obtain ⟨hpassed, rfl⟩ := passed_of_deliver h
    rw [if_pos henabled, lines_deliver, hpassed]
    exact ⟨_, rfl, rfl⟩
  · rename_i hdisabled
    cases h
    rw [if_neg hdisabled]
    exact ⟨[], rfl, (List.append_nil _).symm⟩

/-- **Records and sheet stay in step.** Take any run of a feed into an empty sheet. The recorded fingerprints
are those of the lines in the sheet, no fingerprint occurs twice, and the sheet has the first line of each
fingerprint among the lines that the deliveries went through. A publication that succeeds adds as many lines
as it says, and one into a feed that is off does nothing. -/
theorem records_match_sheet (transcript : Transcript σ) {sheet : σ} (hempty : transcript.lines sheet = [])
    (events : List Event) :
    ((ofSheet sheet).run events).seen.recorded =
        (transcript.lines ((ofSheet sheet).run events).sheet).map Fingerprint.ofText ∧
      ((transcript.lines ((ofSheet sheet).run events).sheet).map Fingerprint.ofText).Nodup ∧
      (transcript.lines ((ofSheet sheet).run events).sheet).Nodup ∧
      ((ofSheet sheet).run events).seen.size =
        (transcript.lines ((ofSheet sheet).run events).sheet).length ∧
      transcript.lines ((ofSheet sheet).run events).sheet =
        firstTexts ((ofSheet sheet).passedLines events) ∧
      (∀ lines count, (((ofSheet sheet).run events).publish lines).1 = .ok count →
        ∃ added, added.length = count ∧
          transcript.lines (((ofSheet sheet).run events).publish lines).2.sheet =
            transcript.lines ((ofSheet sheet).run events).sheet ++ added) ∧
      ∀ lines, ((ofSheet sheet).run events).isEnabled = false →
        ((ofSheet sheet).run events).publish lines = (.ok 0, (ofSheet sheet).run events) := by
  obtain ⟨hlines, hseen⟩ := run_eq transcript (ofSheet sheet) events
  rw [show (ofSheet sheet).sheet = sheet from rfl, hempty, List.nil_append] at hlines
  have hrecorded : ((ofSheet sheet).run events).seen.recorded =
      (transcript.lines ((ofSheet sheet).run events).sheet).map Fingerprint.ofText := by
    rw [hseen, hlines]
    exact List.nil_append _
  have hnodup : ((ofSheet sheet).run events).seen.recorded.Nodup := by
    rw [hseen]
    exact Fingerprints.nodup_completed List.nodup_nil
  rw [hrecorded] at hnodup
  refine ⟨hrecorded, hnodup, .of_map _ hnodup, ?_, ?_, fun lines count => exists_added_of_publish transcript,
    fun lines => publish_of_disabled⟩
  · rw [Fingerprints.size, hrecorded, List.length_map]
  · rw [hlines]
    exact Fingerprints.missing_empty _

/-- A sheet that refuses the second line it is given. -/
def refusingSheet : ScriptedSheet := { failsAppend := (· == 1) }

/-- Publications before the feed is on, while it is on, and while it is off, with repeated lines. -/
def refusedEvents : List Event :=
  [.publish ["a"], .switch true, .publish ["a", "b", "a"], .switch false, .publish ["c"], .switch true,
    .publish ["a", "b", "a", "c"]]

theorem records_match_sheet_refused :
    ScriptedSheet.transcript.lines refusingSheet = [] ∧
      ScriptedSheet.transcript.lines ((ofSheet refusingSheet).run refusedEvents).sheet =
        ["a", "b", "c"] ∧
      (ofSheet refusingSheet).passedLines refusedEvents = ["a", "a", "b", "a", "c"] ∧
      firstTexts ["a", "a", "b", "a", "c"] = ["a", "b", "c"] ∧
      ((ofSheet refusingSheet).run refusedEvents).seen.recorded =
        ["a", "b", "c"].map Fingerprint.ofText ∧
      (["a", "b", "c"].map Fingerprint.ofText).Nodup ∧
      ∃ added, added.length = 1 ∧
        ScriptedSheet.transcript.lines
          (((ofSheet refusingSheet).run refusedEvents).publish ["d", "a"]).2.sheet =
            ["a", "b", "c"] ++ added := by
  have hempty : ScriptedSheet.transcript.lines refusingSheet = [] := rfl
  have hlines : ScriptedSheet.transcript.lines ((ofSheet refusingSheet).run refusedEvents).sheet =
      ["a", "b", "c"] := by decide +kernel
  have hpassed : (ofSheet refusingSheet).passedLines refusedEvents = ["a", "a", "b", "a", "c"] := by
    decide +kernel
  have hcount : (((ofSheet refusingSheet).run refusedEvents).publish ["d", "a"]).1 = .ok 1 := by
    decide +kernel
  obtain ⟨hrecorded, hnodup, -, -, hfirst, hadded, -⟩ :=
    records_match_sheet ScriptedSheet.transcript hempty refusedEvents
  rw [hlines] at hrecorded hnodup
  rw [hlines, hpassed] at hfirst
  have hmore := hadded _ _ hcount
  rw [hlines] at hmore
  exact ⟨hempty, hlines, hpassed, hfirst.symm, hrecorded, hnodup, hmore⟩

end Feed

end CssRules
