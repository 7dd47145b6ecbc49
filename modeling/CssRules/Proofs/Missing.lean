import CssRules.Proofs.Delivery
import Mathlib.Data.List.Nodup

/-! What a delivery adds to a sheet. It goes through its lines up to the first one that is refused, and adds
those of them that are missing: the lines whose fingerprint is not recorded, one for each fingerprint. So a
delivery that is repeated after a failure continues where the sheet refused a line. -/

namespace CssRules

/-- The texts whose fingerprint no earlier text has. -/
def firstTexts (texts : List String) : List String :=
  texts.eraseDupsBy fun text other => Fingerprint.ofText text == Fingerprint.ofText other

namespace Fingerprints

/-- The lines whose fingerprint is not recorded, one for each fingerprint. -/
def missing (seen : Fingerprints) (lines : List String) : List String :=
  firstTexts (lines.filter fun line => !seen.contains (.ofText line))

/-- What is recorded as soon as no line is missing. -/
def completed (seen : Fingerprints) (lines : List String) : Fingerprints :=
  ⟨seen.recorded ++ (seen.missing lines).map Fingerprint.ofText⟩

variable {seen : Fingerprints} {line : String} {lines rest : List String}

theorem contains_eq_false_iff {fingerprint : Fingerprint} :
    seen.contains fingerprint = false ↔ fingerprint ∉ seen.recorded := by
  rw [← Bool.not_eq_true, contains_iff_mem]

theorem recorded_record {fingerprint : Fingerprint} (h : fingerprint ∉ seen.recorded) :
    (seen.record fingerprint).recorded = seen.recorded ++ [fingerprint] := by
  rw [record, if_neg (mt contains_iff_mem.mp h)]

theorem missing_empty (lines : List String) : missing {} lines = firstTexts lines := by
  have hnone : (lines.filter fun line => !contains {} (.ofText line)) = lines :=
    List.filter_eq_self.mpr fun _ _ => rfl
  rw [missing, hnone]

@[simp] theorem missing_nil : seen.missing [] = [] := rfl

@[simp] theorem completed_nil : seen.completed [] = seen := by
  rw [completed, missing_nil, List.map_nil, List.append_nil]

theorem missing_cons_of_mem (h : Fingerprint.ofText line ∈ seen.recorded) :
    seen.missing (line :: rest) = seen.missing rest := by
  rw [missing, List.filter_cons_of_neg (by simpa using h), missing]

theorem missing_cons_of_not_mem (h : Fingerprint.ofText line ∉ seen.recorded) :
    seen.missing (line :: rest) = line :: (seen.record (.ofText line)).missing rest := by
  have hrest (other : String) : (decide ((Fingerprint.ofText other == Fingerprint.ofText line) = false) &&
      !seen.contains (.ofText other)) = !(seen.record (.ofText line)).contains (.ofText other) := by
    rw [Bool.eq_iff_iff]
    simp [contains_eq_false_iff, mem_record, and_comm]
  rw [missing, List.filter_cons_of_pos (by simpa [contains_eq_false_iff] using h), firstTexts,
    List.eraseDupsBy_cons, List.filter_filter, List.filter_congr fun other _ => hrest other]
  rfl

theorem completed_cons_of_mem (h : Fingerprint.ofText line ∈ seen.recorded) :
    seen.completed (line :: rest) = seen.completed rest := by
  rw [completed, missing_cons_of_mem h, completed]

theorem completed_cons_of_not_mem (h : Fingerprint.ofText line ∉ seen.recorded) :
    seen.completed (line :: rest) = (seen.record (.ofText line)).completed rest := by
  rw [completed, missing_cons_of_not_mem h, completed, recorded_record h]
  simp

theorem missing_append (lines more : List String) :
    seen.missing (lines ++ more) = seen.missing lines ++ (seen.completed lines).missing more := by
  induction lines generalizing seen with
  | nil => simp
  | cons line rest ih =>
      rw [List.cons_append]
      by_cases h : Fingerprint.ofText line ∈ seen.recorded
      · rw [missing_cons_of_mem h, missing_cons_of_mem h, completed_cons_of_mem h, ih]
      · rw [missing_cons_of_not_mem h, missing_cons_of_not_mem h, completed_cons_of_not_mem h, ih,
          List.cons_append]

theorem completed_append (lines more : List String) :
    seen.completed (lines ++ more) = (seen.completed lines).completed more := by
  simp [completed, missing_append]

/-- The missing lines of a beginning are the first missing lines. -/
theorem missing_prefix_missing {front : List String} (h : front <+: lines) :
    seen.missing front <+: seen.missing lines := by
  obtain ⟨rest, rfl⟩ := h
  rw [missing_append]
  exact List.prefix_append _ _

theorem mem_of_mem_missing (h : line ∈ seen.missing lines) : line ∈ lines := by
  induction lines generalizing seen with
  | nil => exact h
  | cons first rest ih =>
      by_cases hfirst : Fingerprint.ofText first ∈ seen.recorded
      · rw [missing_cons_of_mem hfirst] at h
        exact List.mem_cons_of_mem _ (ih h)
      · rw [missing_cons_of_not_mem hfirst] at h
        rcases List.mem_cons.mp h with rfl | hrest
        · exact List.mem_cons_self
        · exact List.mem_cons_of_mem _ (ih hrest)

theorem mem_completed {fingerprint : Fingerprint} : fingerprint ∈ (seen.completed lines).recorded ↔
    fingerprint ∈ seen.recorded ∨ ∃ line ∈ lines, Fingerprint.ofText line = fingerprint := by
  induction lines generalizing seen with
  | nil => simp
  | cons line rest ih =>
      by_cases h : Fingerprint.ofText line ∈ seen.recorded
      · rw [completed_cons_of_mem h, ih, List.exists_mem_cons_iff, ← or_assoc,
          or_iff_left_of_imp fun heq : Fingerprint.ofText line = fingerprint => heq ▸ h]
      · rw [completed_cons_of_not_mem h, ih, mem_record, List.exists_mem_cons_iff, or_assoc,
          eq_comm]

theorem nodup_completed (h : seen.recorded.Nodup) : (seen.completed lines).recorded.Nodup := by
  induction lines generalizing seen with
  | nil => simpa using h
  | cons line rest ih =>
      by_cases hline : Fingerprint.ofText line ∈ seen.recorded
      · rw [completed_cons_of_mem hline]
        exact ih h
      · rw [completed_cons_of_not_mem hline]
        refine ih ?_
        rw [recorded_record hline]
        simpa using h.concat hline

end Fingerprints

namespace Feed

variable {σ : Type} [Sheet σ]

/-- The lines that a delivery goes through before the sheet refuses one. -/
def passed (feed : Feed σ) : List String → List String
  | [] => []
  | line :: rest =>
    if feed.seen.contains (.ofText line) then line :: feed.passed rest
    else match Sheet.append feed.sheet line with
      | (.error _, _) => []
      | (.ok (), sheet) => line :: (feed.accept line sheet).passed rest

/-- The first step of a delivery, and what the delivery goes through from there. -/
theorem passed_cons_cases (feed : Feed σ) (line : String) (rest : List String) :
    (Fingerprint.ofText line ∈ feed.seen.recorded ∧ feed.deliver (line :: rest) = feed.deliver rest ∧
      feed.passed (line :: rest) = line :: feed.passed rest) ∨
    Fingerprint.ofText line ∉ feed.seen.recorded ∧
      ((∃ cause sheet, Sheet.append feed.sheet line = (.error cause, sheet) ∧
        feed.deliver (line :: rest) = (.error (.sheet cause), { feed with sheet := sheet }) ∧
        feed.passed (line :: rest) = []) ∨
      ∃ sheet, Sheet.append feed.sheet line = (.ok (), sheet) ∧
        feed.deliver (line :: rest) =
          (((feed.accept line sheet).deliver rest).1.map (· + 1),
            ((feed.accept line sheet).deliver rest).2) ∧
        feed.passed (line :: rest) = line :: (feed.accept line sheet).passed rest) := by
  by_cases hseen : Fingerprint.ofText line ∈ feed.seen.recorded
  · have hcontains := Fingerprints.contains_iff_mem.mpr hseen
    exact Or.inl ⟨hseen, deliver_cons_of_seen hcontains, by rw [passed, if_pos hcontains]⟩
  · have hcontains := mt Fingerprints.contains_iff_mem.mp hseen
    rcases deliver_cons_cases feed line rest with
      ⟨hmem, -⟩ | ⟨cause, sheet, happend, hdeliver⟩ | ⟨sheet, happend, hdeliver⟩
    · exact absurd hmem hseen
    · exact Or.inr ⟨hseen, Or.inl ⟨cause, sheet, happend, hdeliver,
        by rw [passed, if_neg hcontains, happend]⟩⟩
    · exact Or.inr ⟨hseen, Or.inr ⟨sheet, happend, hdeliver,
        by rw [passed, if_neg hcontains, happend]⟩⟩

theorem passed_prefix_self (feed : Feed σ) (lines : List String) : feed.passed lines <+: lines := by
  induction lines generalizing feed with
  | nil => exact List.prefix_rfl
  | cons line rest ih =>
      rcases passed_cons_cases feed line rest with
        ⟨-, -, hpassed⟩ | ⟨-, ⟨cause, sheet, -, -, hpassed⟩ | ⟨sheet, -, -, hpassed⟩⟩
      · rw [hpassed]
        exact List.cons_prefix_cons.mpr ⟨rfl, ih feed⟩
      · rw [hpassed]
        exact List.nil_prefix
      · rw [hpassed]
        exact List.cons_prefix_cons.mpr ⟨rfl, ih _⟩

/-- A delivery records the fingerprints of all lines it goes through. -/
theorem seen_deliver_eq (feed : Feed σ) (lines : List String) :
    (feed.deliver lines).2.seen = feed.seen.completed (feed.passed lines) := by
  induction lines generalizing feed with
  | nil => exact Fingerprints.completed_nil.symm
  | cons line rest ih =>
      rcases passed_cons_cases feed line rest with
        ⟨hseen, hdeliver, hpassed⟩ | ⟨hseen, ⟨cause, sheet, -, hdeliver, hpassed⟩ |
          ⟨sheet, -, hdeliver, hpassed⟩⟩
      · rw [hdeliver, hpassed, Fingerprints.completed_cons_of_mem hseen, ih]
      · rw [hdeliver, hpassed, Fingerprints.completed_nil]
      · rw [hdeliver, hpassed, Fingerprints.completed_cons_of_not_mem hseen, ih]
        rfl

/-- A delivery adds the missing ones of the lines it goes through. -/
theorem lines_deliver (transcript : Transcript σ) (feed : Feed σ) (lines : List String) :
    transcript.lines (feed.deliver lines).2.sheet =
      transcript.lines feed.sheet ++ feed.seen.missing (feed.passed lines) := by
  induction lines generalizing feed with
  | nil => exact (List.append_nil _).symm
  | cons line rest ih =>
      rcases passed_cons_cases feed line rest with
        ⟨hseen, hdeliver, hpassed⟩ | ⟨hseen, ⟨cause, sheet, happend, hdeliver, hpassed⟩ |
          ⟨sheet, happend, hdeliver, hpassed⟩⟩
      · rw [hdeliver, hpassed, Fingerprints.missing_cons_of_mem hseen, ih]
      · rw [hdeliver, hpassed, transcript.lines_of_refusal happend, Fingerprints.missing_nil,
          List.append_nil]
      · rw [hdeliver, hpassed, Fingerprints.missing_cons_of_not_mem hseen, ih, accept,
          transcript.lines_of_append happend, List.append_assoc, List.singleton_append]

/-- A delivery that succeeds goes through all its lines and counts the missing ones. -/
theorem passed_of_deliver {feed : Feed σ} {lines : List String} {count : Nat}
    (h : (feed.deliver lines).1 = .ok count) :
    feed.passed lines = lines ∧ count = (feed.seen.missing lines).length := by
  induction lines generalizing feed count with
  | nil =>
      cases h
      exact ⟨rfl, rfl⟩
  | cons line rest ih =>
      rcases passed_cons_cases feed line rest with
        ⟨hseen, hdeliver, hpassed⟩ | ⟨hseen, ⟨cause, sheet, -, hdeliver, -⟩ |
          ⟨sheet, -, hdeliver, hpassed⟩⟩
      · rw [hdeliver] at h
        rw [hpassed, Fingerprints.missing_cons_of_mem hseen, (ih h).1]
        exact ⟨rfl, (ih h).2⟩
      · rw [hdeliver] at h
        cases h
      · rw [hdeliver] at h
        cases hrest : ((feed.accept line sheet).deliver rest).1 with
        | error error =>
            rw [hrest] at h
            cases h
        | ok others =>
            rw [hrest] at h
            cases h
            obtain ⟨hall, rfl⟩ := ih hrest
            rw [hpassed, Fingerprints.missing_cons_of_not_mem hseen, hall]
            exact ⟨rfl, rfl⟩

/-- Lines that are recorded are skipped. -/
theorem deliver_append_of_seen {feed : Feed σ} {lines : List String}
    (hseen : ∀ line ∈ lines, Fingerprint.ofText line ∈ feed.seen.recorded) (rest : List String) :
    feed.deliver (lines ++ rest) = feed.deliver rest := by
  induction lines with
  | nil => rfl
  | cons line lines ih =>
      obtain ⟨hline, hlines⟩ := List.forall_mem_cons.mp hseen
      rw [List.cons_append, deliver_cons_of_seen (Fingerprints.contains_iff_mem.mpr hline), ih hlines]

end Feed

end CssRules
