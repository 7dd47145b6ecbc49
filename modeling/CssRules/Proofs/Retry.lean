import CssRules.Proofs.StreamedSheet

/-! Finishing a rule again after the sheet has failed. The first attempt registers the rule, and every attempt
goes on with the line that the last one could not deliver. If the sheet refuses only finitely many lines, an
attempt succeeds, and everything is then as if the sheet had refused none. -/

namespace CssRules

namespace Sheet

variable {σ : Type} [Sheet σ] {sheet next : σ} {bound : Nat} {line : String}

/-- How many of the lines are refused when they are appended one after the other. -/
def refusals : σ → List String → Nat
  | _, [] => 0
  | sheet, line :: rest =>
    match Sheet.append sheet line with
    | (.error _, next) => refusals next rest + 1
    | (.ok (), next) => refusals next rest

/-- Whatever is appended from now on, at most `bound` lines are refused. -/
def RefusesAtMost (sheet : σ) (bound : Nat) : Prop := ∀ lines, refusals sheet lines ≤ bound

theorem RefusesAtMost.of_append (h : RefusesAtMost sheet bound)
    (happend : Sheet.append sheet line = (.ok (), next)) : RefusesAtMost next bound := by
  intro lines
  have hline := h (line :: lines)
  rwa [refusals, happend] at hline

theorem RefusesAtMost.of_refusal {cause : SheetError} (h : RefusesAtMost sheet bound)
    (happend : Sheet.append sheet line = (.error cause, next)) :
    ∃ less, bound = less + 1 ∧ RefusesAtMost next less := by
  have hrest (lines : List String) : refusals next lines + 1 ≤ bound := by
    have hline := h (line :: lines)
    rwa [refusals, happend] at hline
  obtain ⟨less, rfl⟩ := Nat.exists_eq_succ_of_ne_zero (Nat.ne_of_gt (hrest []))
  exact ⟨less, rfl, fun lines => Nat.le_of_succ_le_succ (hrest lines)⟩

theorem refusesAtMost_memory (sheet : MemorySheet) : RefusesAtMost sheet 0 := by
  intro lines
  induction lines generalizing sheet with
  | nil => exact Nat.le_refl 0
  | cons line rest ih => exact ih ⟨sheet.lines ++ [line]⟩

theorem refusals_scripted_le (sheet : ScriptedSheet)
    (hscript : ∀ n, sheet.failsAppend n = true → n < bound) (lines : List String) :
    refusals sheet lines ≤ bound - sheet.appends := by
  induction lines generalizing sheet with
  | nil => exact Nat.zero_le _
  | cons line rest ih =>
      rw [refusals]
      cases happend : Sheet.append sheet line with
      | mk result next =>
          simp only [Sheet.append, ScriptedSheet.append] at happend
          split at happend
          · rename_i hfails
            cases happend
            have hlt := hscript _ hfails
            have hrest := ih { sheet with appends := sheet.appends + 1 } hscript
            simp only at hrest ⊢
            omega
          · cases happend
            have hrest := ih { sheet with
              appends := sheet.appends + 1, lines := sheet.lines ++ [line] } hscript
            simp only at hrest ⊢
            omega

/-- A script that ends refuses finitely many lines. -/
theorem refusesAtMost_scripted {sheet : ScriptedSheet}
    (hscript : ∀ n, sheet.failsAppend n = true → n < bound) : RefusesAtMost sheet bound :=
  fun lines => Nat.le_trans (refusals_scripted_le sheet hscript lines) (Nat.sub_le _ _)

/-- The script of a sheet stays the same. -/
theorem keeps_script (script : Nat → Bool) :
    Keeps fun sheet : ScriptedSheet => sheet.failsAppend = script where
  start sheet h := by
    simp only [Sheet.start, ScriptedSheet.start]
    split <;> exact h
  append sheet line h := by
    simp only [Sheet.append, ScriptedSheet.append]
    split <;> exact h

end Sheet

namespace Feed

variable {σ : Type} [Sheet σ] {feed next : Feed σ} {transcript : Transcript σ} {lines front : List String}
  {bound : Nat}

theorem deliver_of_refusesAtMost (h : Sheet.RefusesAtMost feed.sheet bound) (lines : List String) :
    (∃ count, (feed.deliver lines).1 = .ok count) ∨
      ∃ cause less, bound = less + 1 ∧ (feed.deliver lines).1 = .error (.sheet cause) ∧
        Sheet.RefusesAtMost (feed.deliver lines).2.sheet less := by
  induction lines generalizing feed with
  | nil => exact Or.inl ⟨0, rfl⟩
  | cons line rest ih =>
      rcases deliver_cons_cases feed line rest with
        ⟨-, hdeliver⟩ | ⟨cause, sheet, happend, hdeliver⟩ | ⟨sheet, happend, hdeliver⟩
      · rw [hdeliver]
        exact ih h
      · obtain ⟨less, hless, hnext⟩ := h.of_refusal happend
        rw [hdeliver]
        exact Or.inr ⟨cause, less, hless, rfl, hnext⟩
      · rw [hdeliver]
        have haccept : Sheet.RefusesAtMost (feed.accept line sheet).sheet bound := h.of_append happend
        rcases ih haccept with ⟨count, hcount⟩ | ⟨cause, less, hless, herror, hnext⟩
        · exact Or.inl ⟨count + 1, by rw [hcount]; rfl⟩
        · exact Or.inr ⟨cause, less, hless, by rw [herror]; rfl, hnext⟩

/-- A sheet that refuses nothing takes all lines. -/
theorem exists_count_of_reliable (h : Sheet.RefusesAtMost feed.sheet 0) (lines : List String) :
    ∃ count, (feed.deliver lines).1 = .ok count := by
  rcases deliver_of_refusesAtMost h lines with hok | ⟨_, _, hbound, -⟩
  · exact hok
  · cases hbound

/-- The same lines are delivered again and again; the number says how often before. -/
def redeliver (feed : Feed σ) (lines : List String) : Nat → Except Error Nat × Feed σ
  | 0 => feed.deliver lines
  | n + 1 => (feed.redeliver lines n).2.deliver lines

theorem redeliver_succ (feed : Feed σ) (lines : List String) (n : Nat) :
    feed.redeliver lines (n + 1) = (feed.deliver lines).2.redeliver lines n := by
  induction n with
  | zero => rfl
  | succ n ih => rw [redeliver, ih, redeliver]

theorem isEnabled_redeliver (n : Nat) : (feed.redeliver lines n).2.isEnabled = feed.isEnabled := by
  induction n with
  | zero => exact isEnabled_deliver
  | succ n ih => rw [redeliver, isEnabled_deliver, ih]

/-- If at most `bound` lines are refused, at most `bound` deliveries fail. -/
theorem exists_failures (h : Sheet.RefusesAtMost feed.sheet bound) (lines : List String) :
    ∃ failures, failures ≤ bound ∧
      (∀ n < failures, ∃ cause, (feed.redeliver lines n).1 = .error (.sheet cause)) ∧
      ∃ count, (feed.redeliver lines failures).1 = .ok count := by
  induction bound generalizing feed with
  | zero =>
      have hok := exists_count_of_reliable h lines
      exact ⟨0, Nat.le_refl 0, fun n hn => absurd hn (Nat.not_lt_zero n), hok⟩
  | succ bound ih =>
      rcases deliver_of_refusesAtMost h lines with hok | ⟨cause, less, hbound, herror, hnext⟩
      · exact ⟨0, Nat.zero_le _, fun n hn => absurd hn (Nat.not_lt_zero n), hok⟩
      · cases hbound
        obtain ⟨failures, hle, hfails, hok⟩ := ih hnext
        refine ⟨failures + 1, Nat.succ_le_succ hle, fun n hn => ?_, by rwa [redeliver_succ]⟩
        cases n with
        | zero => exact ⟨cause, herror⟩
        | succ n =>
            rw [redeliver_succ]
            exact hfails n (Nat.lt_of_succ_lt_succ hn)

/-- The next feed has gone through the lines from the first one on. -/
structure Reaches (feed next : Feed σ) (transcript : Transcript σ) (front : List String) : Prop where
  lines_eq : transcript.lines next.sheet = transcript.lines feed.sheet ++ feed.seen.missing front
  seen_eq : next.seen = feed.seen.completed front

theorem reaches_refl (feed : Feed σ) (transcript : Transcript σ) : feed.Reaches feed transcript [] :=
  ⟨(List.append_nil _).symm, Fingerprints.completed_nil.symm⟩

/-- A delivery of lines of which a beginning was gone through goes on after it. -/
theorem Reaches.deliver (h : feed.Reaches next transcript front) (hfront : front <+: lines) :
    ∃ more, more <+: lines ∧ feed.Reaches (next.deliver lines).2 transcript more ∧
      ∀ count, (next.deliver lines).1 = .ok count → more = lines := by
  obtain ⟨rest, rfl⟩ := hfront
  have hskip : next.deliver (front ++ rest) = next.deliver rest := by
    apply deliver_append_of_seen
    intro line hline
    rw [h.seen_eq]
    exact Fingerprints.mem_completed.mpr (Or.inr ⟨line, hline, rfl⟩)
  rw [hskip]
  refine ⟨front ++ next.passed rest, (List.prefix_append_right_inj front).mpr (passed_prefix_self next rest),
    ⟨?_, ?_⟩, fun count hok => by rw [(passed_of_deliver hok).1]⟩
  · rw [lines_deliver, h.lines_eq, h.seen_eq, Fingerprints.missing_append, List.append_assoc]
  · rw [seen_deliver_eq, h.seen_eq, Fingerprints.completed_append]

theorem reaches_redeliver (feed : Feed σ) (transcript : Transcript σ) (lines : List String) (n : Nat) :
    ∃ front, front <+: lines ∧ feed.Reaches (feed.redeliver lines n).2 transcript front ∧
      ∀ count, (feed.redeliver lines n).1 = .ok count → front = lines := by
  induction n with
  | zero => exact (reaches_refl feed transcript).deliver List.nil_prefix
  | succ n ih =>
      obtain ⟨front, hfront, hreaches, -⟩ := ih
      exact hreaches.deliver hfront

/-- When a delivery succeeds, all lines have arrived. -/
theorem reaches_of_redeliver (transcript : Transcript σ) {n count : Nat}
    (hok : (feed.redeliver lines n).1 = .ok count) :
    feed.Reaches (feed.redeliver lines n).2 transcript lines := by
  obtain ⟨front, -, hreaches, hall⟩ := reaches_redeliver feed transcript lines n
  obtain rfl : front = lines := hall count hok
  exact hreaches

end Feed

namespace Publisher

variable {σ τ : Type} {handle : Handle}

/-- The same publisher over another sheet. -/
def onto (publisher : Publisher σ) (sheet : τ) : Publisher τ where
  book := publisher.book
  feed :=
    { sheet
      enabled := publisher.feed.enabled
      started := publisher.feed.started
      seen := publisher.feed.seen }

variable [Sheet σ] [Sheet τ] {publisher : Publisher σ}

/-- A rule is finished again and again; the number says how often before. -/
def retry (publisher : Publisher σ) (handle : Handle) : Nat → Except Error String × Publisher σ
  | 0 => publisher.finish handle
  | n + 1 => (publisher.retry handle n).2.finish handle

section

variable {book : RuleBook} {name : String} {first : Handle} {lines : List String}

/-- Each further attempt finds the rule registered and delivers the same lines. -/
theorem retry_eq_redeliver (hstreaming : publisher.isStreaming = true)
    (hregister : publisher.book.register handle = .ok (name, book))
    (hlookup : book.catalog.lookup name = some first) (hlines : book.graph.blocks {} first = .ok lines)
    (n : Nat) :
    publisher.retry handle n =
      ((publisher.feed.redeliver lines n).1.map fun _ => name,
        { book, feed := (publisher.feed.redeliver lines n).2 }) := by
  induction n with
  | zero => exact finish_eq_deliver hstreaming hregister hlookup hlines
  | succ n ih =>
      have hagain :
          ({ book, feed := (publisher.feed.redeliver lines n).2 } : Publisher σ).isStreaming = true :=
        (Feed.isEnabled_redeliver n).trans hstreaming
      rw [retry, ih]
      exact finish_eq_deliver hagain (RuleBook.register_register hregister) hlookup hlines

/-- The attempts fail until the sheet has refused all lines that it refuses, each of them with some more of
the missing lines in the sheet, and then one succeeds. -/
theorem exists_failures_of_retry (hstreaming : publisher.isStreaming = true)
    (hregister : publisher.book.register handle = .ok (name, book))
    (hlookup : book.catalog.lookup name = some first) (hlines : book.graph.blocks {} first = .ok lines)
    {bound : Nat} (hbound : Sheet.RefusesAtMost publisher.feed.sheet bound) (transcript : Transcript σ) :
    ∃ failures, failures ≤ bound ∧
      (∀ n < failures, (∃ cause, (publisher.retry handle n).1 = .error (.sheet cause)) ∧
        ∃ accepted, accepted <+: publisher.feed.seen.missing lines ∧
          transcript.lines (publisher.retry handle n).2.feed.sheet =
            transcript.lines publisher.feed.sheet ++ accepted) ∧
      (publisher.retry handle failures).1 = .ok name ∧
      transcript.lines (publisher.retry handle failures).2.feed.sheet =
        transcript.lines publisher.feed.sheet ++ publisher.feed.seen.missing lines ∧
      (publisher.retry handle failures).2.feed.seen = publisher.feed.seen.completed lines := by
  have hretry := retry_eq_redeliver hstreaming hregister hlookup hlines
  obtain ⟨failures, hle, hfails, count, hcount⟩ := Feed.exists_failures hbound lines
  have hreaches := Feed.reaches_of_redeliver transcript hcount
  refine ⟨failures, hle, fun n hn => ⟨?_, ?_⟩, ?_, ?_, ?_⟩
  · obtain ⟨cause, hcause⟩ := hfails n hn
    rw [hretry, hcause]
    exact ⟨cause, rfl⟩
  · obtain ⟨front, hfront, hpart, -⟩ := Feed.reaches_redeliver publisher.feed transcript lines n
    rw [hretry]
    exact ⟨_, Fingerprints.missing_prefix_missing hfront, hpart.lines_eq⟩
  · rw [hretry, hcount]
    rfl
  · rw [hretry]
    exact hreaches.lines_eq
  · rw [hretry]
    exact hreaches.seen_eq

end

variable {start : Publisher σ} {sheet : σ}

/-- **Finishing a rule again makes up for every failure.** Take any run with the feed on, and any rule. If the
sheet refuses at most `bound` lines from then on, finishing the rule fails at most `bound` times before it
succeeds. Each failure is one of the sheet, after which the sheet has gained the first few of the missing
lines, and the book is the same from the first attempt on. In the end the identifier, the sheet and the
recorded fingerprints are those of a single attempt with a sheet that refuses nothing. -/
theorem retry_makes_up (hstart : withSheet sheet = .ok start) {calls : List Call}
    (hrun : start.run calls = publisher) (hstreaming : publisher.isStreaming = true)
    (hhandle : handle.index < publisher.book.graph.size) (transcript : Transcript σ) {bound : Nat}
    (hbound : Sheet.RefusesAtMost publisher.feed.sheet bound) (reliable : Transcript τ) {spare : τ}
    (hreliable : Sheet.RefusesAtMost spare 0)
    (hsame : reliable.lines spare = transcript.lines publisher.feed.sheet) :
    ∃ name first lines failures, failures ≤ bound ∧
      (publisher.retry handle 0).2.lookup name = some first ∧
      (publisher.retry handle 0).2.blocks {} first = .ok lines ∧
      (∀ n < failures, (∃ cause, (publisher.retry handle n).1 = .error (.sheet cause)) ∧
        ∃ accepted, accepted <+: publisher.feed.seen.missing lines ∧
          transcript.lines (publisher.retry handle n).2.feed.sheet =
            transcript.lines publisher.feed.sheet ++ accepted) ∧
      (∀ n, (publisher.retry handle n).2.book = (publisher.retry handle 0).2.book) ∧
      (publisher.retry handle failures).1 = .ok name ∧
      transcript.lines (publisher.retry handle failures).2.feed.sheet =
        transcript.lines publisher.feed.sheet ++ publisher.feed.seen.missing lines ∧
      ((publisher.onto spare).finish handle).1 = .ok name ∧
      reliable.lines ((publisher.onto spare).finish handle).2.feed.sheet =
        transcript.lines (publisher.retry handle failures).2.feed.sheet ∧
      ((publisher.onto spare).finish handle).2.feed.seen =
        (publisher.retry handle failures).2.feed.seen := by
  subst hrun
  have h := consistent_run hstart calls
  obtain ⟨name, book, first, hregister, -, hlookup, lines, hlines⟩ :=
    h.exists_register (RuleGraph.exists_rule_iff.mpr hhandle)
  have hretry := retry_eq_redeliver hstreaming hregister hlookup hlines
  obtain ⟨failures, hle, hfails, hok, hsheet, hseen⟩ :=
    exists_failures_of_retry hstreaming hregister hlookup hlines hbound transcript
  -- The single attempt delivers the same lines, and it is the first one that does not fail.
  have hspare : ((start.run calls).onto spare).isStreaming = true := hstreaming
  obtain ⟨others, hothers, -, hsingle, hsingleSheet, hsingleSeen⟩ :=
    exists_failures_of_retry hspare hregister hlookup hlines hreliable reliable
  obtain rfl : others = 0 := Nat.le_zero.mp hothers
  refine ⟨name, first, lines, failures, hle, ?_, ?_, hfails, fun n => ?_, hok, hsheet, hsingle, ?_, ?_⟩
  · rw [hretry]
    exact hlookup
  · rw [hretry]
    exact hlines
  · rw [hretry, hretry]
  · rw [hsheet, ← hsame]
    exact hsingleSheet
  · rw [hseen]
    exact hsingleSeen

/-- A publisher into a sheet that refuses the second and the third line. -/
def stubborn : Publisher ScriptedSheet where
  feed :=
    { sheet := { failsAppend := fun n => n == 1 || n == 2, starts := 1 }, enabled := true, started := true }

/-- A rule inside another one, none of them delivered. -/
def undeliveredCalls : List Call := [.stream false] ++ nestingCalls ++ [.stream true]

/-- The first attempt delivers one line and fails at the next one, where the second attempt fails again. -/
theorem retry_makes_up_stubborn :
    withSheet ({ failsAppend := fun n => n == 1 || n == 2 } : ScriptedSheet) = .ok stubborn ∧
      (stubborn.run undeliveredCalls).isStreaming = true ∧
      (⟨1⟩ : Handle).index < (stubborn.run undeliveredCalls).book.graph.size ∧
      Sheet.RefusesAtMost (stubborn.run undeliveredCalls).feed.sheet 3 ∧
      Sheet.RefusesAtMost ({} : MemorySheet) 0 ∧
      ∃ name, ((stubborn.run undeliveredCalls).retry ⟨1⟩ 0).1 = .error (.sheet .rejected) ∧
        ((stubborn.run undeliveredCalls).retry ⟨1⟩ 1).1 = .error (.sheet .rejected) ∧
        ((stubborn.run undeliveredCalls).retry ⟨1⟩ 2).1 = .ok name ∧
        (((stubborn.run undeliveredCalls).onto ({} : MemorySheet)).finish ⟨1⟩).1 = .ok name ∧
        (((stubborn.run undeliveredCalls).onto ({} : MemorySheet)).finish ⟨1⟩).2.feed.sheet.lines =
          [".r1bdonijvwyunu \x7b \x7d", ".box \x7b \x7d"] ∧
        MemorySheet.transcript.lines
            (((stubborn.run undeliveredCalls).onto ({} : MemorySheet)).finish ⟨1⟩).2.feed.sheet =
          ScriptedSheet.transcript.lines ((stubborn.run undeliveredCalls).retry ⟨1⟩ 2).2.feed.sheet := by
  have hstart : withSheet ({ failsAppend := fun n => n == 1 || n == 2 } : ScriptedSheet) = .ok stubborn := rfl
  have hstreaming : (stubborn.run undeliveredCalls).isStreaming = true := by decide +kernel
  have hhandle : (⟨1⟩ : Handle).index < (stubborn.run undeliveredCalls).book.graph.size := by decide +kernel
  have hscript : (stubborn.run undeliveredCalls).feed.sheet.failsAppend = fun n => n == 1 || n == 2 :=
    keeps_run (Sheet.keeps_script _) rfl _
  have hbound : Sheet.RefusesAtMost (stubborn.run undeliveredCalls).feed.sheet 3 := by
    refine Sheet.refusesAtMost_scripted fun n hn => ?_
    rw [hscript] at hn
    simp only [Bool.or_eq_true, beq_iff_eq] at hn
    omega
  have hreliable := Sheet.refusesAtMost_memory {}
  have hsame : MemorySheet.transcript.lines {} =
      ScriptedSheet.transcript.lines (stubborn.run undeliveredCalls).feed.sheet := by decide +kernel
  have hfirst : ((stubborn.run undeliveredCalls).retry ⟨1⟩ 0).1 = .error (.sheet .rejected) := by
    decide +kernel
  have hsecond : ((stubborn.run undeliveredCalls).retry ⟨1⟩ 1).1 = .error (.sheet .rejected) := by
    decide +kernel
  have hthird : ((stubborn.run undeliveredCalls).retry ⟨1⟩ 2).1 = .ok "r1bdonijvwyunu" := by
    decide +kernel
  obtain ⟨name, -, lines, failures, -, -, -, hfails, -, hok, -, hsingle, hlines, -⟩ :=
    retry_makes_up hstart rfl hstreaming hhandle ScriptedSheet.transcript hbound MemorySheet.transcript
      hreliable hsame
  -- The third attempt is the first one that succeeds.
  obtain rfl : failures = 2 := by
    rcases Nat.lt_trichotomy failures 2 with hlt | heq | hlt
    · have hcase : failures = 0 ∨ failures = 1 := by omega
      rcases hcase with rfl | rfl
      · rw [hfirst] at hok
        cases hok
      · rw [hsecond] at hok
        cases hok
    · exact heq
    · obtain ⟨⟨cause, hcause⟩, -⟩ := hfails 2 hlt
      rw [hthird] at hcause
      cases hcause
  exact ⟨hstart, hstreaming, hhandle, hbound, hreliable, name, hfirst, hsecond, hok, hsingle,
    by decide +kernel, hlines⟩

end Publisher

end CssRules
