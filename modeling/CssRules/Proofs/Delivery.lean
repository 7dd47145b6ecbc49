import CssRules.Feed

/-! Delivery of lines by a feed into a sheet that keeps what it has accepted. The recorded fingerprints are
those of the lines in the sheet, so that a line is in the sheet as soon as it was delivered, unless it
collides with another one. -/

namespace CssRules

/-- A reading of a sheet as a list of lines. An append that succeeds adds its line at the end, and one that
fails changes nothing. -/
structure Transcript (σ : Type) [Sheet σ] where
  lines : σ → List String
  lines_start : ∀ sheet, lines (Sheet.start sheet).2 = lines sheet
  lines_of_append : ∀ {sheet line next}, Sheet.append sheet line = (.ok (), next) →
    lines next = lines sheet ++ [line]
  lines_of_refusal : ∀ {sheet line cause next}, Sheet.append sheet line = (.error cause, next) →
    lines next = lines sheet

def MemorySheet.transcript : Transcript MemorySheet where
  lines := MemorySheet.lines
  lines_start _ := rfl
  lines_of_append h := by
    cases h
    rfl
  lines_of_refusal h := by cases h

namespace Feed

variable {σ : Type} [Sheet σ]

/-- The recorded fingerprints are those of the lines in the sheet. -/
def InStep (feed : Feed σ) (transcript : Transcript σ) : Prop :=
  ∀ fingerprint, fingerprint ∈ feed.seen.recorded ↔
    ∃ line ∈ transcript.lines feed.sheet, Fingerprint.ofText line = fingerprint

variable {feed : Feed σ} {transcript : Transcript σ} {texts : List String}

/-- The feed after the sheet has accepted a line. -/
def accept (feed : Feed σ) (line : String) (sheet : σ) : Feed σ :=
  { feed with sheet := sheet, seen := feed.seen.record (.ofText line) }

/-- The first step of a delivery: the line is skipped, refused or accepted. -/
theorem deliver_cons_cases (feed : Feed σ) (line : String) (rest : List String) :
    (Fingerprint.ofText line ∈ feed.seen.recorded ∧ feed.deliver (line :: rest) = feed.deliver rest) ∨
    (∃ cause sheet, Sheet.append feed.sheet line = (.error cause, sheet) ∧
      feed.deliver (line :: rest) = (.error (.sheet cause), { feed with sheet := sheet })) ∨
    ∃ sheet, Sheet.append feed.sheet line = (.ok (), sheet) ∧
      feed.deliver (line :: rest) =
        (((feed.accept line sheet).deliver rest).1.map (· + 1),
          ((feed.accept line sheet).deliver rest).2) := by
  rw [deliver]
  split
  · rename_i hseen
    exact Or.inl ⟨Fingerprints.contains_iff_mem.mp hseen, rfl⟩
  · split
    · rename_i cause sheet happend
      exact Or.inr (Or.inl ⟨cause, sheet, happend, rfl⟩)
    · rename_i sheet happend
      exact Or.inr (Or.inr ⟨sheet, happend, rfl⟩)

/-- A delivery fails only together with the sheet. -/
theorem exists_cause_of_deliver {error : Error} (h : (feed.deliver texts).1 = .error error) :
    ∃ cause, error = .sheet cause := by
  induction texts generalizing feed with
  | nil => cases h
  | cons line rest ih =>
      rcases deliver_cons_cases feed line rest with
        ⟨-, hdeliver⟩ | ⟨cause, sheet, -, hdeliver⟩ | ⟨sheet, -, hdeliver⟩
      · rw [hdeliver] at h
        exact ih h
      · rw [hdeliver] at h
        exact ⟨cause, (Except.error.inj h).symm⟩
      · rw [hdeliver] at h
        cases hrest : ((feed.accept line sheet).deliver rest).1 with
        | error refusal =>
            rw [hrest] at h
            cases h
            exact ih hrest
        | ok count =>
            rw [hrest] at h
            cases h

theorem isEnabled_deliver : (feed.deliver texts).2.isEnabled = feed.isEnabled := by
  induction texts generalizing feed with
  | nil => rfl
  | cons line rest ih =>
      rcases deliver_cons_cases feed line rest with
        ⟨-, hdeliver⟩ | ⟨cause, sheet, -, hdeliver⟩ | ⟨sheet, -, hdeliver⟩
      · rw [hdeliver, ih]
      · rw [hdeliver]
        rfl
      · rw [hdeliver, ih]
        rfl

theorem InStep.accept {line : String} {sheet : σ} (h : feed.InStep transcript)
    (happend : Sheet.append feed.sheet line = (.ok (), sheet)) :
    (feed.accept line sheet).InStep transcript := by
  intro fingerprint
  rw [Feed.accept, Fingerprints.mem_record, h fingerprint, transcript.lines_of_append happend]
  constructor
  · intro hmem
    rcases hmem with ⟨other, hother, hfingerprint⟩ | rfl
    · exact ⟨other, List.mem_append_left _ hother, hfingerprint⟩
    · exact ⟨line, List.mem_append_right _ List.mem_cons_self, rfl⟩
  · intro hmem
    obtain ⟨other, hother, hfingerprint⟩ := hmem
    rcases List.mem_append.mp hother with hother | hother
    · exact Or.inl ⟨other, hother, hfingerprint⟩
    · rw [List.mem_singleton.mp hother] at hfingerprint
      exact Or.inr hfingerprint.symm

theorem InStep.deliver (h : feed.InStep transcript) : (feed.deliver texts).2.InStep transcript := by
  induction texts generalizing feed with
  | nil => exact h
  | cons line rest ih =>
      rcases deliver_cons_cases feed line rest with
        ⟨-, hdeliver⟩ | ⟨cause, sheet, happend, hdeliver⟩ | ⟨sheet, happend, hdeliver⟩
      · rw [hdeliver]
        exact ih h
      · rw [hdeliver]
        intro fingerprint
        rw [transcript.lines_of_refusal happend]
        exact h fingerprint
      · rw [hdeliver]
        exact ih (h.accept happend)

/-- What is in the sheet after a delivery was there before or was delivered. -/
theorem mem_lines_deliver {line : String} (h : line ∈ transcript.lines (feed.deliver texts).2.sheet) :
    line ∈ transcript.lines feed.sheet ∨ line ∈ texts := by
  induction texts generalizing feed with
  | nil => exact Or.inl h
  | cons first rest ih =>
      rcases deliver_cons_cases feed first rest with
        ⟨-, hdeliver⟩ | ⟨cause, sheet, happend, hdeliver⟩ | ⟨sheet, happend, hdeliver⟩
      · rw [hdeliver] at h
        exact (ih h).imp_right (List.mem_cons_of_mem first)
      · rw [hdeliver, transcript.lines_of_refusal happend] at h
        exact Or.inl h
      · rw [hdeliver] at h
        rcases ih h with hline | hline
        · rw [accept, transcript.lines_of_append happend] at hline
          rcases List.mem_append.mp hline with hline | hline
          · exact Or.inl hline
          · exact Or.inr (List.mem_singleton.mp hline ▸ List.mem_cons_self)
        · exact Or.inr (List.mem_cons_of_mem first hline)

theorem seen_subset_deliver : feed.seen.recorded ⊆ (feed.deliver texts).2.seen.recorded := by
  induction texts generalizing feed with
  | nil => exact List.Subset.refl _
  | cons line rest ih =>
      rcases deliver_cons_cases feed line rest with
        ⟨-, hdeliver⟩ | ⟨cause, sheet, -, hdeliver⟩ | ⟨sheet, -, hdeliver⟩
      · rw [hdeliver]
        exact ih
      · rw [hdeliver]
        exact List.Subset.refl _
      · rw [hdeliver]
        exact fun fingerprint hmem => ih (Fingerprints.mem_record.mpr (Or.inl hmem))

/-- After a delivery that succeeded the fingerprints of all its lines are recorded. -/
theorem seen_deliver {count : Nat} (h : (feed.deliver texts).1 = .ok count) :
    ∀ line ∈ texts, Fingerprint.ofText line ∈ (feed.deliver texts).2.seen.recorded := by
  induction texts generalizing feed count with
  | nil => simp
  | cons first rest ih =>
      intro line hline
      rcases deliver_cons_cases feed first rest with
        ⟨hseen, hdeliver⟩ | ⟨cause, sheet, -, hdeliver⟩ | ⟨sheet, -, hdeliver⟩
      · rw [hdeliver] at h ⊢
        rcases List.mem_cons.mp hline with rfl | hline
        · exact seen_subset_deliver hseen
        · exact ih h line hline
      · rw [hdeliver] at h
        cases h
      · rw [hdeliver] at h ⊢
        cases hrest : ((feed.accept first sheet).deliver rest).1 with
        | error error =>
            rw [hrest] at h
            cases h
        | ok others =>
            rcases List.mem_cons.mp hline with rfl | hline
            · exact seen_subset_deliver (Fingerprints.mem_record.mpr (Or.inr rfl))
            · exact ih hrest line hline

/-- All the texts were delivered into the sheet, and nothing else was. -/
structure Delivered (feed : Feed σ) (transcript : Transcript σ) (texts : List String) : Prop where
  in_step : feed.InStep transcript
  mem_of_mem_lines : ∀ {line}, line ∈ transcript.lines feed.sheet → line ∈ texts
  seen : ∀ {line}, line ∈ texts → Fingerprint.ofText line ∈ feed.seen.recorded

theorem Delivered.deliver {before : List String} {count : Nat} (h : feed.Delivered transcript before)
    (hok : (feed.deliver texts).1 = .ok count) :
    (feed.deliver texts).2.Delivered transcript (before ++ texts) where
  in_step := h.in_step.deliver
  mem_of_mem_lines hline := List.mem_append.mpr ((mem_lines_deliver hline).imp_left h.mem_of_mem_lines)
  seen hline := (List.mem_append.mp hline).elim (fun hbefore => seen_subset_deliver (h.seen hbefore))
    (seen_deliver hok _)

/-- A sheet in memory takes all lines. -/
theorem deliver_memorySheet (feed : Feed MemorySheet) (texts : List String) :
    ∃ count, (feed.deliver texts).1 = .ok count := by
  induction texts generalizing feed with
  | nil => exact ⟨0, rfl⟩
  | cons line rest ih =>
      rcases deliver_cons_cases feed line rest with
        ⟨-, hdeliver⟩ | ⟨cause, sheet, happend, -⟩ | ⟨sheet, -, hdeliver⟩
      · rw [hdeliver]
        exact ih feed
      · cases happend
      · obtain ⟨count, hcount⟩ := ih (feed.accept line sheet)
        exact ⟨count + 1, by rw [hdeliver, hcount]; rfl⟩

/-- Switching a feed on that is on changes nothing. -/
theorem setEnabled_of_isEnabled (h : feed.isEnabled = true) : feed.setEnabled true = (.ok (), feed) := by
  obtain ⟨henabled, hstarted⟩ := Bool.and_eq_true_iff.mp h
  unfold setEnabled ensureStarted
  rw [if_pos hstarted]
  split
  · rfl
  · obtain ⟨sheet, enabled, started, seen⟩ := feed
    obtain rfl : enabled = true := henabled
    rfl

end Feed

end CssRules
