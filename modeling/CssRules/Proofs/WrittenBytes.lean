import CssRules.Proofs.FeedRun
import CssRules.Sheet.Writer

/-! The bytes that a feed writes. A line counts as delivered when it was written and flushed, so a line that
was written completely is written again if the flush after it failed and it is published again. Without such
a failure every line is written once; what did not fit stands at the end as the beginning of a line. -/

namespace CssRules

theorem length_lineBytes (line : String) : (lineBytes line).length = line.utf8ByteSize + 1 := by
  have hsize : (lineBytes line).length = (line ++ "\n").toByteArray.size := rfl
  rw [hsize, String.toByteArray_append, ByteArray.size_append, String.size_toByteArray]
  rfl

namespace ByteWriter

/-- There is no room for another byte. -/
def Full (writer : ByteWriter) : Prop :=
  ∃ limit, writer.limit = some limit ∧ limit ≤ writer.bytes.length

variable {writer : ByteWriter} {count : Nat}

theorem Full.room_eq (h : writer.Full) : writer.room count = 0 := by
  obtain ⟨limit, hlimit, hle⟩ := h
  simp only [room, hlimit]
  omega

/-- A writer that does not take all bytes is full afterwards. -/
theorem full_of_room_lt (data : List UInt8) (h : writer.room data.length < data.length) :
    ByteWriter.Full { writer with bytes := writer.bytes ++ data.take (writer.room data.length) } := by
  cases hlimit : writer.limit with
  | none => simp [room, hlimit] at h
  | some limit =>
      refine ⟨limit, rfl, ?_⟩
      simp only [room, hlimit] at h ⊢
      simp only [List.length_append, List.length_take]
      omega

end ByteWriter

namespace WriterSheet

/-- The sheet after a line was written completely and a flush was tried. -/
def store (sheet : WriterSheet) (line : String) : WriterSheet :=
  ⟨{ sheet.writer with
    bytes := sheet.writer.bytes ++ lineBytes line, flushes := sheet.writer.flushes + 1 }⟩

/-- The sheet after as much of a line was written as there was room for. -/
def tear (sheet : WriterSheet) (line : String) : WriterSheet :=
  ⟨{ sheet.writer with
    bytes := sheet.writer.bytes ++ (lineBytes line).take (sheet.writer.room (lineBytes line).length) }⟩

/-- What appending a line does: it is torn for want of room, or it is written and a flush is tried. -/
theorem append_cases (sheet : WriterSheet) (line : String) :
    (sheet.writer.room (lineBytes line).length < (lineBytes line).length ∧
      Sheet.append sheet line = (.error .noRoom, sheet.tear line)) ∨
    ¬ sheet.writer.room (lineBytes line).length < (lineBytes line).length ∧
      ((sheet.writer.failsFlush sheet.writer.flushes = true ∧
        Sheet.append sheet line = (.error .flushRefused, sheet.store line)) ∨
      sheet.writer.failsFlush sheet.writer.flushes = false ∧
        Sheet.append sheet line = (.ok (), sheet.store line)) := by
  have happend : Sheet.append sheet line = sheet.append line := rfl
  rw [happend, append, ByteWriter.write]
  by_cases hroom : sheet.writer.room (lineBytes line).length < (lineBytes line).length
  · rw [if_pos hroom]
    exact Or.inl ⟨hroom, rfl⟩
  · rw [if_neg hroom, List.take_of_length_le (Nat.le_of_not_lt hroom)]
    refine Or.inr ⟨hroom, ?_⟩
    simp only [ByteWriter.flush]
    cases sheet.writer.failsFlush sheet.writer.flushes with
    | true => exact Or.inl ⟨rfl, rfl⟩
    | false => exact Or.inr ⟨rfl, rfl⟩

end WriterSheet

namespace Feed

/-- A line that was written completely, and whether the flush after it succeeded. -/
structure Write where
  line : String
  flushed : Bool

/-- The lines of all publications. -/
def publishedLines (events : List Event) : List String :=
  events.flatMap fun event => match event with
    | .switch _ => []
    | .publish lines => lines

/-- What stands in the writer of a feed: lines that were written completely, each with its flush, and at the
end the beginning of a line for which there was no room. -/
structure Wrote (feed : Feed WriterSheet) (failsFlush : Nat → Bool) (published : List String)
    (writes : List Write) (rest : List UInt8) : Prop where
  failsFlush_eq : feed.sheet.writer.failsFlush = failsFlush
  bytes_eq : feed.sheet.writer.bytes = writes.flatMap (fun write => lineBytes write.line) ++ rest
  /-- Each line was published. -/
  mem_published : ∀ write ∈ writes, write.line ∈ published
  /-- If the end of a line is missing, it is a published line, and the writer is full. -/
  torn : rest = [] ∨ feed.sheet.writer.Full ∧ ∃ line ∈ published, rest <+: lineBytes line ∧
    rest ≠ lineBytes line
  /-- There was one flush for each line, and each of them failed as it had to. -/
  flushed_eq : writes.map Write.flushed =
    (List.range feed.sheet.writer.flushes).map fun flush => !failsFlush flush
  /-- The flushed lines are recorded. -/
  recorded_eq : feed.seen.recorded =
    (writes.filter Write.flushed).map fun write => Fingerprint.ofText write.line
  /-- A line that was flushed is not written again. -/
  unrepeated : writes.Pairwise fun earlier later =>
    earlier.flushed = true → Fingerprint.ofText earlier.line ≠ Fingerprint.ofText later.line

variable {feed : Feed WriterSheet} {published : List String} {writes : List Write} {rest : List UInt8}
  {failsFlush : Nat → Bool} {line : String}

/-- A flushed line is recorded. -/
theorem Wrote.mem_recorded (h : feed.Wrote failsFlush published writes rest) {write : Write}
    (hmem : write ∈ writes) (hflushed : write.flushed = true) :
    Fingerprint.ofText write.line ∈ feed.seen.recorded := by
  rw [h.recorded_eq]
  exact List.mem_map_of_mem (List.mem_filter.mpr ⟨hmem, hflushed⟩)

/-- A line for which there is no room leaves its beginning, unless the writer was full before. -/
theorem Wrote.tear (h : feed.Wrote failsFlush published writes rest) (hline : line ∈ published)
    (hroom : feed.sheet.writer.room (lineBytes line).length < (lineBytes line).length) :
    ∃ torn, ({ feed with sheet := feed.sheet.tear line } : Feed WriterSheet).Wrote failsFlush published
      writes torn := by
  rcases h.torn with rfl | ⟨hfull, -⟩
  · refine ⟨(lineBytes line).take (feed.sheet.writer.room (lineBytes line).length), h.failsFlush_eq, ?_,
      h.mem_published, Or.inr ⟨ByteWriter.full_of_room_lt _ hroom, line, hline, List.take_prefix _ _, ?_⟩,
      h.flushed_eq, h.recorded_eq, h.unrepeated⟩
    · rw [WriterSheet.tear, h.bytes_eq, List.append_nil]
    · intro heq
      have hlength := congrArg List.length heq
      rw [List.length_take] at hlength
      omega
  · have hsame : feed.sheet.tear line = feed.sheet := by
      rw [WriterSheet.tear, hfull.room_eq, List.take_zero, List.append_nil]
    rw [hsame]
    exact ⟨rest, h⟩

/-- A line that is written completely comes after all others, and is recorded if it is flushed. -/
theorem Wrote.store (h : feed.Wrote failsFlush published writes rest) (hline : line ∈ published)
    (hroom : ¬ feed.sheet.writer.room (lineBytes line).length < (lineBytes line).length)
    (hseen : Fingerprint.ofText line ∉ feed.seen.recorded) (flushed : Bool) {seen : Fingerprints}
    (hflushed : feed.sheet.writer.failsFlush feed.sheet.writer.flushes = !flushed)
    (hrecord : seen.recorded =
      if flushed then feed.seen.recorded ++ [Fingerprint.ofText line] else feed.seen.recorded) :
    ({ feed with sheet := feed.sheet.store line, seen } : Feed WriterSheet).Wrote failsFlush published
      (writes ++ [⟨line, flushed⟩]) [] := by
  have hrest : rest = [] := by
    refine h.torn.resolve_right fun hfull => hroom ?_
    rw [hfull.1.room_eq, length_lineBytes]
    exact Nat.succ_pos _
  subst hrest
  refine ⟨h.failsFlush_eq, ?_, ?_, Or.inl rfl, ?_, ?_, ?_⟩
  · rw [WriterSheet.store, h.bytes_eq, List.flatMap_append, List.flatMap_singleton, List.append_nil,
      List.append_nil]
  · intro write hmem
    rcases List.mem_append.mp hmem with hold | hnew
    · exact h.mem_published write hold
    · rw [List.mem_singleton.mp hnew]
      exact hline
  · rw [WriterSheet.store, List.map_append, h.flushed_eq, List.range_succ, List.map_append]
    rw [h.failsFlush_eq] at hflushed
    simp [hflushed]
  · rw [hrecord, List.filter_append, List.map_append, ← h.recorded_eq]
    cases flushed <;> simp
  · refine List.pairwise_append.mpr ⟨h.unrepeated, List.pairwise_singleton _ _, ?_⟩
    intro earlier hearlier later hlater hflushed heq
    rw [List.mem_singleton.mp hlater] at heq
    exact hseen (heq ▸ h.mem_recorded hearlier hflushed)

theorem Wrote.deliver {lines : List String} (h : feed.Wrote failsFlush published writes rest)
    (hlines : ∀ line ∈ lines, line ∈ published) :
    ∃ writes rest, (feed.deliver lines).2.Wrote failsFlush published writes rest := by
  induction lines generalizing feed writes rest with
  | nil => exact ⟨writes, rest, h⟩
  | cons line lines ih =>
      obtain ⟨hline, hlines⟩ := List.forall_mem_cons.mp hlines
      rcases passed_cons_cases feed line lines with
        ⟨-, hdeliver, -⟩ | ⟨hseen, ⟨cause, sheet, happend, hdeliver, -⟩ | ⟨sheet, happend, hdeliver, -⟩⟩
      · rw [hdeliver]
        exact ih h hlines
      · rw [hdeliver]
        rcases WriterSheet.append_cases feed.sheet line with
          ⟨hroom, htear⟩ | ⟨hroom, ⟨hfails, hstore⟩ | ⟨-, hstore⟩⟩
        · rw [htear] at happend
          cases happend
          exact ⟨writes, h.tear hline hroom⟩
        · rw [hstore] at happend
          cases happend
          exact ⟨_, _, h.store hline hroom hseen false hfails rfl⟩
        · rw [hstore] at happend
          cases happend
      · rw [hdeliver]
        rcases WriterSheet.append_cases feed.sheet line with
          ⟨-, htear⟩ | ⟨hroom, ⟨-, hstore⟩ | ⟨hflushes, hstore⟩⟩
        · rw [htear] at happend
          cases happend
        · rw [hstore] at happend
          cases happend
        · rw [hstore] at happend
          cases happend
          exact ih (h.store hline hroom hseen true hflushes (Fingerprints.recorded_record hseen)) hlines

/-- Switching the feed on or off leaves the writer alone. -/
theorem Wrote.setEnabled (h : feed.Wrote failsFlush published writes rest) (enabled : Bool) :
    (feed.setEnabled enabled).2.Wrote failsFlush published writes rest := by
  rcases setEnabled_cases feed enabled with ⟨-, hswitch⟩ | ⟨-, ⟨-, hswitch⟩ | ⟨-, hopened⟩⟩
  · rw [hswitch]
    exact h
  · rw [hswitch]
    exact { h with }
  · rcases hopened with ⟨cause, sheet, hstart, -⟩ | ⟨sheet, hstart, hswitch⟩
    · cases hstart
    · cases hstart
      rw [hswitch]
      exact { h with }

theorem Wrote.perform {event : Event} (h : feed.Wrote failsFlush published writes rest)
    (hevent : ∀ line ∈ publishedLines [event], line ∈ published) :
    ∃ writes rest, (feed.perform event).Wrote failsFlush published writes rest := by
  cases event with
  | switch enabled => exact ⟨writes, rest, h.setEnabled enabled⟩
  | publish lines =>
      rw [Feed.perform, publish]
      split
      · exact h.deliver (by simpa [publishedLines] using hevent)
      · exact ⟨writes, rest, h⟩

theorem Wrote.run {events : List Event} (h : feed.Wrote failsFlush published writes rest)
    (hevents : ∀ line ∈ publishedLines events, line ∈ published) :
    ∃ writes rest, (feed.run events).Wrote failsFlush published writes rest := by
  induction events generalizing feed writes rest with
  | nil => exact ⟨writes, rest, h⟩
  | cons event events ih =>
      have hsplit : publishedLines (event :: events) = publishedLines [event] ++ publishedLines events := by
        simp [publishedLines]
      rw [hsplit] at hevents
      obtain ⟨writes, rest, hnext⟩ :=
        h.perform fun line hline => hevents line (List.mem_append_left _ hline)
      exact ih hnext fun line hline => hevents line (List.mem_append_right _ hline)

/-- The bytes of different published lines, each of them written once, and then at most the beginning of
another one. -/
def WrittenOnce (published : List String) (bytes : List UInt8) : Prop :=
  ∃ (lines : List String) (rest : List UInt8), bytes = lines.flatMap lineBytes ++ rest ∧ lines.Nodup ∧
    (∀ line ∈ lines, line ∈ published) ∧
    (rest = [] ∨ ∃ line ∈ published, rest <+: lineBytes line ∧ rest ≠ lineBytes line)

/-- If no flush failed, all lines have different fingerprints. -/
theorem Wrote.writtenOnce (h : feed.Wrote failsFlush published writes rest)
    (hflushes : ∀ flush < feed.sheet.writer.flushes, failsFlush flush = false) :
    WrittenOnce published feed.sheet.writer.bytes := by
  have hflushed : ∀ write ∈ writes, write.flushed = true := by
    intro write hmem
    have hflag : write.flushed ∈ writes.map Write.flushed := List.mem_map_of_mem hmem
    rw [h.flushed_eq] at hflag
    obtain ⟨flush, hflush, heq⟩ := List.mem_map.mp hflag
    rw [← heq, hflushes flush (List.mem_range.mp hflush), Bool.not_false]
  refine ⟨writes.map Write.line, rest, ?_, ?_, ?_, h.torn.imp_right And.right⟩
  · rw [h.bytes_eq, List.flatMap_map]
  · refine List.pairwise_map.mpr (h.unrepeated.imp_of_mem ?_)
    intro earlier later hearlier _ hunrepeated heq
    exact hunrepeated (hflushed earlier hearlier) (congrArg Fingerprint.ofText heq)
  · exact List.forall_mem_map.mpr h.mem_published

/-- The feed into an empty writer. -/
def intoWriter (limit : Option Nat) (failsFlush : Nat → Bool) : Feed WriterSheet :=
  ofSheet { writer := { limit, failsFlush } }

/-- **A line is written again only after a flush of it failed.** Whatever room a writer has and whichever of
its flushes fail, after any run of a feed into it the bytes are complete published lines and at most the
beginning of another one. A line that was written and flushed is recorded and not written again, so that each
line is written once as long as no flush fails. -/
theorem bytes_eq_writes (limit : Option Nat) (failsFlush : Nat → Bool) (events : List Event) :
    (∃ writes rest,
      ((intoWriter limit failsFlush).run events).Wrote failsFlush (publishedLines events) writes rest) ∧
    ((∀ flush < ((intoWriter limit failsFlush).run events).sheet.writer.flushes,
        failsFlush flush = false) →
      WrittenOnce (publishedLines events)
        ((intoWriter limit failsFlush).run events).sheet.writer.bytes) := by
  have hstart : (intoWriter limit failsFlush).Wrote failsFlush (publishedLines events) [] [] :=
    ⟨rfl, rfl, fun _ hmem => absurd hmem List.not_mem_nil, Or.inl rfl, rfl, rfl, List.Pairwise.nil⟩
  obtain ⟨writes, rest, hrun⟩ := hstart.run fun _ => id
  exact ⟨⟨writes, rest, hrun⟩, hrun.writtenOnce⟩

/-- The second line does not fit, also when it is published again. -/
def tornEvents : List Event := [.switch true, .publish ["a", "b"], .publish ["b", "a"]]

theorem bytes_eq_writes_torn :
    ((intoWriter (some 3) fun _ => false).run tornEvents).sheet.writer.bytes =
        lineBytes "a" ++ (lineBytes "b").take 1 ∧
      WrittenOnce (publishedLines tornEvents)
        ((intoWriter (some 3) fun _ => false).run tornEvents).sheet.writer.bytes :=
  ⟨by decide +kernel, (bytes_eq_writes (some 3) (fun _ => false) tornEvents).2 fun _ _ => rfl⟩

/-- The flush after a line fails, and the line is published again. -/
def repeatedEvents : List Event := [.switch true, .publish ["a"], .publish ["a"]]

theorem not_writtenOnce_of_refused_flush :
    ((intoWriter none (· == 0)).run repeatedEvents).sheet.writer.bytes = lineBytes "a" ++ lineBytes "a" ∧
      ¬ WrittenOnce (publishedLines repeatedEvents)
        ((intoWriter none (· == 0)).run repeatedEvents).sheet.writer.bytes := by
  have hbytes : ((intoWriter none (· == 0)).run repeatedEvents).sheet.writer.bytes =
      lineBytes "a" ++ lineBytes "a" := by decide +kernel
  have hsize : (lineBytes "a").length = 2 := by decide +kernel
  refine ⟨hbytes, ?_⟩
  rw [hbytes]
  rintro ⟨lines, rest, heq, hnodup, hlines, hrest⟩
  have hlength := congrArg List.length heq
  simp only [List.length_append, hsize] at hlength
  -- Only one line was published, so that at most two bytes and the beginning of two others fit the form.
  have hrestLength : rest.length < 2 := by
    rcases hrest with rfl | ⟨line, hline, hbegins, hne⟩
    · exact Nat.zero_lt_two
    · obtain rfl : line = "a" := by simpa [publishedLines, repeatedEvents] using hline
      rw [← hsize]
      exact Nat.lt_of_le_of_ne hbegins.length_le fun hlength => hne (hbegins.eq_of_length hlength)
  have hsame : lines = List.replicate lines.length "a" :=
    List.eq_replicate_of_mem fun line hline => by
      simpa [publishedLines, repeatedEvents] using hlines line hline
  rw [hsame, List.nodup_replicate] at hnodup
  rw [hsame, List.flatMap_replicate, List.length_flatten] at hlength
  simp only [List.map_replicate, List.sum_replicate_nat, hsize] at hlength
  omega

end Feed

end CssRules
