import CssRules.Proofs.Independence

/-! The catalog through time. Whatever happens to a book, either no rule is sealed or one is registered, and this
adds at most one entry at the end. So the catalog of an earlier moment is the beginning of that of any later one,
and a name leads to the rule that was the first to be sealed with it. -/

namespace CssRules

theorem Catalog.lookup_of_prefix {catalog next : Catalog} (h : catalog.entries <+: next.entries)
    {name : String} {handle : Handle} (hlookup : catalog.lookup name = some handle) :
    next.lookup name = some handle := by
  obtain ⟨added, hadded⟩ := h
  have hfound : catalog.entries.lookup name = some handle := hlookup
  rw [lookup, ← hadded, List.lookup_append, hfound, Option.some_or]

namespace RuleBook

/-- One step of a book: the sealed rules and the catalog stay, or a rule is registered. -/
inductive Advances (book : RuleBook) : RuleBook → Prop
  | still {next : RuleBook} (hcatalog : next.catalog = book.catalog)
      (hsealed : ∀ {handle name}, next.graph.SealedAs handle name ↔ book.graph.SealedAs handle name) :
      Advances book next
  | register {handle : Handle} {name : String} {next : RuleBook}
      (hregister : book.register handle = .ok (name, next)) : Advances book next

/-- Every entry leads to a rule that is sealed with its name. -/
def EntriesSealed (book : RuleBook) : Prop :=
  ∀ {name handle}, (name, handle) ∈ book.catalog.entries → book.graph.SealedAs handle name

namespace Advances

variable {book next : RuleBook} {handle : Handle} {name : String}

theorem refl (book : RuleBook) : book.Advances book := .still rfl Iff.rfl

theorem entries_grow (h : book.Advances next) : book.catalog.entries <+: next.catalog.entries := by
  cases h with
  | still hcatalog hsealed => rw [hcatalog]
  | register hregister =>
      obtain ⟨-, rfl⟩ := register_eq_ok_iff.mp hregister
      exact Catalog.entries_prefix_insert _ _ _

theorem nodup_keys (h : book.Advances next) (hkeys : (book.catalog.entries.map Prod.fst).Nodup) :
    (next.catalog.entries.map Prod.fst).Nodup := by
  cases h with
  | still hcatalog hsealed => rwa [hcatalog]
  | register hregister =>
      obtain ⟨-, rfl⟩ := register_eq_ok_iff.mp hregister
      exact Catalog.nodup_keys_insert hkeys

theorem entriesSealed (h : book.Advances next) (hentries : book.EntriesSealed) : next.EntriesSealed := by
  intro name handle hmem
  cases h with
  | still hcatalog hsealed =>
      rw [hcatalog] at hmem
      exact hsealed.mpr (hentries hmem)
  | register hregister =>
      have hgrows := extends_register hregister
      obtain ⟨hidentifier, rfl⟩ := register_eq_ok_iff.mp hregister
      rcases Catalog.mem_entries_insert hmem with hold | hnew
      · exact hgrows.sealedAs (hentries hold)
      · cases hnew
        exact RuleGraph.sealedAs_sealWith_self (RuleGraph.exists_rule_of_identifier hidentifier)

/-- The rule with which a name comes up is registered under it, and is alone with it. -/
theorem first_sealed (h : book.Advances next) (hentries : book.EntriesSealed)
    (hnone : ∀ other, ¬ book.graph.SealedAs other name) (hsealed : next.graph.SealedAs handle name) :
    next.catalog.lookup name = some handle ∧ ∀ other, next.graph.SealedAs other name ↔ other = handle := by
  cases h with
  | still hcatalog hsame => exact absurd (hsame.mp hsealed) (hnone handle)
  | @register registered identifier _ hregister =>
      obtain ⟨hidentifier, rfl⟩ := register_eq_ok_iff.mp hregister
      have hiff (other : Handle) : (book.graph.sealWith registered identifier).SealedAs other name ↔
          other = registered ∧ name = identifier := by
        rw [RuleGraph.sealedAs_sealWith (RuleGraph.exists_rule_of_identifier hidentifier)]
        by_cases hother : other = registered
        · simp [hother]
        · simp [hother, hnone other]
      obtain ⟨rfl, rfl⟩ := (hiff handle).mp hsealed
      have hfresh : book.catalog.lookup name = none := by
        refine Option.eq_none_iff_forall_ne_some.mpr fun other hlookup => hnone other ?_
        exact hentries (Catalog.mem_entries_of_lookup hlookup)
      refine ⟨?_, fun other => ?_⟩
      · rw [Catalog.lookup_insert_self, hfresh, Option.getD_none]
      · rw [hiff other, and_iff_left rfl]

end Advances

section History

variable {ι : Type} {history : List ι → RuleBook} {steps before : List ι} {handle : Handle} {name : String}

/-- No rule was sealed with the name before the one under the handle, and that one was the only one at first. -/
def FirstSealed (history : List ι → RuleBook) (steps : List ι) (handle : Handle) (name : String) : Prop :=
  ∃ before step, before ++ [step] <+: steps ∧ (∀ other, ¬ (history before).graph.SealedAs other name) ∧
    ∀ other, (history (before ++ [step])).graph.SealedAs other name ↔ other = handle

/-- What the catalog of a book says about the steps that led to it. -/
structure Recorded (history : List ι → RuleBook) (steps : List ι) : Prop where
  nodup_keys : ((history steps).catalog.entries.map Prod.fst).Nodup
  nodup_handles : (history steps).catalog.handles.Nodup
  /-- An entry leads to a rule that is sealed with the name of the entry. -/
  sealedAs_of_mem : (history steps).EntriesSealed
  /-- The name of a sealed rule leads to the rule that was first sealed with it. -/
  first_of_sealedAs : ∀ {handle name}, (history steps).graph.SealedAs handle name →
    ∃ first, (history steps).catalog.lookup name = some first ∧ FirstSealed history steps first name
  /-- Entries are only added, and only at the end. -/
  entries_grow : ∀ {before}, before <+: steps →
    (history before).catalog.entries <+: (history steps).catalog.entries
  /-- A name that is found is found for ever, and leads to the same rule. -/
  lookup_stays : ∀ {before name handle}, before <+: steps →
    (history before).catalog.lookup name = some handle → (history steps).catalog.lookup name = some handle

theorem FirstSealed.mono {more : List ι} (h : FirstSealed history steps handle name)
    (hearlier : steps <+: more) : FirstSealed history more handle name := by
  obtain ⟨before, step, hbefore, hmoment⟩ := h
  exact ⟨before, step, hbefore.trans hearlier, hmoment⟩

variable (hstep : ∀ steps step, (history steps).Advances (history (steps ++ [step])))
include hstep

theorem entries_grow_of_advances (hearlier : before <+: steps) :
    (history before).catalog.entries <+: (history steps).catalog.entries := by
  induction steps using List.reverseRecOn with
  | nil => rw [List.prefix_nil.mp hearlier]
  | append_singleton steps step ih =>
      rcases List.prefix_concat_iff.mp hearlier with rfl | hearlier
      · exact List.prefix_rfl
      · exact (ih hearlier).trans (hstep steps step).entries_grow

variable (hempty : history [] = {})
include hempty

theorem nodup_keys_of_advances (steps : List ι) :
    ((history steps).catalog.entries.map Prod.fst).Nodup := by
  induction steps using List.reverseRecOn with
  | nil =>
      rw [hempty]
      exact List.nodup_nil
  | append_singleton steps step ih => exact (hstep steps step).nodup_keys ih

theorem entriesSealed_of_advances (steps : List ι) : (history steps).EntriesSealed := by
  induction steps using List.reverseRecOn with
  | nil =>
      rw [hempty]
      intro name handle hmem
      cases hmem
  | append_singleton steps step ih => exact (hstep steps step).entriesSealed ih

theorem first_of_advances (hsealed : (history steps).graph.SealedAs handle name) :
    ∃ first, (history steps).catalog.lookup name = some first ∧ FirstSealed history steps first name := by
  induction steps using List.reverseRecOn generalizing handle with
  | nil =>
      rw [hempty] at hsealed
      obtain ⟨rule, hrule, -⟩ := hsealed
      cases hrule
  | append_singleton steps step ih =>
      -- Either the name was in use before this step, or the step is the moment at which it comes up.
      by_cases hbefore : ∃ other, (history steps).graph.SealedAs other name
      · obtain ⟨other, hother⟩ := hbefore
        obtain ⟨first, hlookup, hfirst⟩ := ih hother
        exact ⟨first, Catalog.lookup_of_prefix (hstep steps step).entries_grow hlookup,
          hfirst.mono (List.prefix_append _ _)⟩
      · have hnone (other : Handle) : ¬ (history steps).graph.SealedAs other name :=
          fun hother => hbefore ⟨other, hother⟩
        obtain ⟨hlookup, hmoment⟩ :=
          (hstep steps step).first_sealed (entriesSealed_of_advances hstep hempty steps) hnone hsealed
        exact ⟨handle, hlookup, steps, step, List.prefix_rfl, hnone, hmoment⟩

theorem recorded_of_advances (steps : List ι) : Recorded history steps where
  nodup_keys := nodup_keys_of_advances hstep hempty steps
  nodup_handles := nodup_handles_of_sealedAs (nodup_keys_of_advances hstep hempty steps)
    (entriesSealed_of_advances hstep hempty steps)
  sealedAs_of_mem := entriesSealed_of_advances hstep hempty steps
  first_of_sealedAs := first_of_advances hstep hempty
  entries_grow := entries_grow_of_advances hstep
  lookup_stays hearlier := Catalog.lookup_of_prefix (entries_grow_of_advances hstep hearlier)

end History

theorem Intact.advances_perform {book : RuleBook} (h : book.Intact) (operation : Operation) :
    book.Advances (book.perform operation) := by
  rcases h.perform_cases operation with ⟨hgentle, hcatalog⟩ | ⟨handle, name, -, hregister⟩
  · exact .still hcatalog hgentle.sealedAs_iff
  · exact .register hregister

theorem recorded_assemble (operations : List Operation) : Recorded assemble operations := by
  apply recorded_of_advances
  · intro operations operation
    rw [assemble_concat]
    exact (intact_assemble operations).advances_perform operation
  · rfl

end RuleBook

namespace Publisher

variable {σ : Type} [Sheet σ] {start : Publisher σ} {sheet : σ}

theorem advances_perform {publisher : Publisher σ} (h : publisher.book.Intact) (call : Call) :
    publisher.book.Advances (publisher.perform call).book := by
  rw [book_perform]
  cases call.operation? with
  | none => exact .refl _
  | some operation => exact h.advances_perform operation

theorem intact_run (hstart : withSheet sheet = .ok start) (calls : List Call) :
    (start.run calls).book.Intact := by
  rw [book_run_eq_assemble hstart]
  exact RuleBook.intact_assemble _

/-- **The catalog is a record of what was sealed.** This holds of every book that is assembled by hand, also if
rules contain themselves, and of the book of every publisher, whatever its sheet does. Names and handles stand in
the catalog once. Each entry leads to a rule that is sealed with its name, and each name of a sealed rule leads to
the rule that was first sealed with it. The entries of an earlier moment are the first ones of every later moment,
so that a name is found for ever once it is found. -/
theorem catalog_records_sealing (hstart : withSheet sheet = .ok start) :
    (∀ operations, RuleBook.Recorded RuleBook.assemble operations) ∧
      ∀ calls, RuleBook.Recorded (fun calls => (start.run calls).book) calls := by
  refine ⟨RuleBook.recorded_assemble, RuleBook.recorded_of_advances (fun calls call => ?_) ?_⟩
  · rw [run_concat]
    exact advances_perform (intact_run hstart calls) call
  · exact book_withSheet hstart

/-- Two rules with the same content. The second one is finished first, and the first one twice. -/
def echoCalls : List Call :=
  [.create, .attach ⟨0⟩ (.literal "box") .back, .create, .attach ⟨1⟩ (.literal "box") .back, .finish ⟨1⟩,
    .finish ⟨0⟩, .finish ⟨0⟩]

theorem catalog_records_sealing_echo :
    withSheet ({} : AbsentSheet) = .ok offline ∧
      (∃ name, ((offline.run echoCalls).book.graph.SealedAs ⟨0⟩ name ∧
        (offline.run echoCalls).book.graph.SealedAs ⟨1⟩ name) ∧
        (offline.run echoCalls).book.catalog.lookup name = some ⟨1⟩ ∧
        RuleBook.FirstSealed (fun calls => (offline.run calls).book) echoCalls ⟨1⟩ name) ∧
      (offline.run (echoCalls.take 5)).book.catalog.entries <+:
        (offline.run echoCalls).book.catalog.entries := by
  have hstart : withSheet ({} : AbsentSheet) = .ok offline := rfl
  have hname : ((offline.run echoCalls).rule ⟨0⟩).map Rule.identifier =
      .ok (some (Identifier.ofContent "f:box\x00")) := by decide +kernel
  have hname' : ((offline.run echoCalls).rule ⟨1⟩).map Rule.identifier =
      .ok (some (Identifier.ofContent "f:box\x00")) := by decide +kernel
  have hentry : (offline.run echoCalls).book.catalog.lookup (Identifier.ofContent "f:box\x00") =
      some ⟨1⟩ := by decide +kernel
  obtain ⟨rule, hrule, hidentifier⟩ := exists_of_map_eq_ok hname
  obtain ⟨echo, hecho, hidentifier'⟩ := exists_of_map_eq_ok hname'
  have hrecorded := (catalog_records_sealing hstart).2 echoCalls
  obtain ⟨first, hlookup, hfirst⟩ := hrecorded.first_of_sealedAs ⟨rule, hrule, hidentifier⟩
  obtain rfl : first = ⟨1⟩ := Option.some.inj (hlookup.symm.trans hentry)
  exact ⟨hstart, ⟨_, ⟨⟨rule, hrule, hidentifier⟩, echo, hecho, hidentifier'⟩, hlookup, hfirst⟩,
    hrecorded.entries_grow (List.take_prefix 5 echoCalls)⟩

end Publisher

end CssRules
