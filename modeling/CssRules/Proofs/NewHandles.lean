import CssRules.Proofs.Independence

/-! The handles of new rules. A new rule takes the next place among all rules, and its handle is the number of this
place as a word. As long as there are fewer rules than words each new rule has a handle of its own. The rules after
these are given the handles of earlier ones, and no handle leads to them. -/

namespace CssRules

namespace Handle

theorem index_lt (handle : Handle) : handle.index < UInt32.size := handle.number.toNat_lt

theorem index_ofCount (count : Nat) : (ofCount count).index = count % UInt32.size := UInt32.toNat_ofNat

theorem ofCount_inj {count count' : Nat} :
    ofCount count = ofCount count' ↔ count % UInt32.size = count' % UInt32.size := by
  rw [← index_inj, index_ofCount, index_ofCount]

/-- The next number is in use exactly if the words are used up. -/
theorem ofCount_mem_iff {count : Nat} :
    ofCount count ∈ (List.range count).map ofCount ↔ UInt32.size ≤ count := by
  have hsize : 0 < UInt32.size := by decide
  simp only [List.mem_map, List.mem_range, ofCount_inj]
  constructor
  · rintro ⟨earlier, hlt, hsame⟩
    refine Nat.le_of_not_lt fun hcount => ?_
    rw [Nat.mod_eq_of_lt hcount, Nat.mod_eq_of_lt (Nat.lt_trans hlt hcount)] at hsame
    omega
  · intro hcount
    refine ⟨count - UInt32.size, by omega, ?_⟩
    rw [← Nat.add_mod_right, Nat.sub_add_cancel hcount]

end Handle

namespace RuleBook

/-- The handle that an operation returns if it creates a rule. -/
def created (book : RuleBook) : Operation → List Handle
  | .create => [book.create.1]
  | .attach _ _ _ => []
  | .adopt _ _ _ => []
  | .register _ => []

/-- The handles that are returned for the rules that several operations create, one after the other. -/
def createdBy : RuleBook → List Operation → List Handle
  | _, [] => []
  | book, operation :: rest => book.created operation ++ createdBy (book.perform operation) rest

/-- The next rule to be created has a handle that was not returned before. This handle leads to an empty open rule,
and every other one leads to what it led to. -/
structure Fresh (book : RuleBook) (earlier : List Handle) : Prop where
  not_mem : book.create.1 ∉ earlier
  rule_eq : book.create.2.graph.rule book.create.1 = .ok {}
  others_eq : ∀ handle, handle ≠ book.create.1 → book.create.2.graph.rule handle = book.graph.rule handle

/-- How the rules of a book are numbered, if these handles have been returned for them. -/
structure Numbered (book : RuleBook) (earlier : List Handle) : Prop where
  earlier_eq : earlier = (List.range book.graph.size).map Handle.ofCount
  fresh_iff : book.Fresh earlier ↔ book.graph.size < UInt32.size
  /-- The rules that are there stay as they are in their places. -/
  places_eq : ∀ place < book.graph.size, book.create.2.graph.rules[place]? = book.graph.rules[place]?
  /-- When the words are used up an earlier handle is returned, and no handle leads to the new rule. -/
  used_up : UInt32.size ≤ book.graph.size →
    book.create.1 ∈ earlier ∧ ∀ handle, book.create.2.graph.rule handle = book.graph.rule handle

variable {book : RuleBook}

theorem createdBy_concat (operations : List Operation) (operation : Operation) :
    book.createdBy (operations ++ [operation]) =
      book.createdBy operations ++ (operations.foldl perform book).created operation := by
  induction operations generalizing book with
  | nil => exact List.append_nil _
  | cons first rest ih =>
      rw [List.cons_append, createdBy, createdBy, ih, List.append_assoc, List.foldl_cons]

/-- Nothing but creating a rule changes the number of rules. -/
theorem size_perform (operation : Operation) :
    (book.perform operation).graph.size = book.graph.size + (book.created operation).length := by
  cases operation with
  | create => exact RuleGraph.size_create book.graph
  | attach owner piece place =>
      rw [perform]
      cases hattach : book.attach owner piece place with
      | error error => rfl
      | ok next =>
          obtain ⟨addition, -, rfl⟩ := attach_eq_ok_iff.mp hattach
          exact RuleGraph.size_extend
  | adopt parent child place =>
      rw [perform]
      cases hadopt : book.adopt parent child place with
      | error error => rfl
      | ok next =>
          obtain ⟨-, -, rfl⟩ := adopt_eq_ok_iff.mp hadopt
          show (book.graph.extend parent (.child child) place).size = book.graph.size
          exact RuleGraph.size_extend
  | register handle =>
      rw [perform]
      cases hregister : book.register handle with
      | error error => rfl
      | ok result =>
          obtain ⟨name, next⟩ := result
          obtain ⟨-, rfl⟩ := register_eq_ok_iff.mp hregister
          exact RuleGraph.size_update book.graph handle _

/-- The handles that were returned are the numbers of all places. -/
theorem createdBy_eq (operations : List Operation) :
    createdBy {} operations = (List.range (assemble operations).graph.size).map Handle.ofCount := by
  induction operations using List.reverseRecOn with
  | nil => rfl
  | append_singleton operations operation ih =>
      rw [createdBy_concat, ih, assemble_concat, size_perform]
      cases operation with
      | create =>
          have hlength : ((assemble operations).created .create).length = 1 := rfl
          rw [hlength, List.range_succ, List.map_append]
          rfl
      | _ => exact List.append_nil _

variable {handle : Handle}

theorem rule_create_other (h : handle.index ≠ book.graph.size) :
    book.create.2.graph.rule handle = book.graph.rule handle :=
  (RuleGraph.rule_create book.graph handle).trans (if_neg h)

/-- No handle leads to a rule whose place has no number. -/
theorem rule_create_of_used_up (h : UInt32.size ≤ book.graph.size) (handle : Handle) :
    book.create.2.graph.rule handle = book.graph.rule handle :=
  rule_create_other (Nat.ne_of_lt (Nat.lt_of_lt_of_le handle.index_lt h))

theorem fresh_of_lt (h : book.graph.size < UInt32.size) :
    book.Fresh ((List.range book.graph.size).map Handle.ofCount) := by
  have hindex : book.create.1.index = book.graph.size :=
    (Handle.index_ofCount _).trans (Nat.mod_eq_of_lt h)
  refine ⟨fun hmem => ?_, (RuleGraph.rule_create _ _).trans (if_pos hindex), fun other hother => ?_⟩
  · exact Nat.not_le_of_lt h (Handle.ofCount_mem_iff.mp hmem)
  · apply rule_create_other
    rw [← hindex]
    exact fun hsame => hother (Handle.index_inj.mp hsame)

theorem numbered (book : RuleBook) : book.Numbered ((List.range book.graph.size).map Handle.ofCount) where
  earlier_eq := rfl
  fresh_iff := by
    refine ⟨fun hfresh => Nat.lt_of_not_le fun hused => ?_, fresh_of_lt⟩
    exact hfresh.not_mem (Handle.ofCount_mem_iff.mpr hused)
  places_eq place hplace :=
    (Array.getElem?_push_lt hplace).trans (Array.getElem?_eq_getElem hplace).symm
  used_up hused := ⟨Handle.ofCount_mem_iff.mpr hused, rule_create_of_used_up hused⟩

/-- Further rules leave the ones that are there in their places. -/
theorem foldl_creates (book : RuleBook) (count : Nat) :
    ((List.replicate count Operation.create).foldl perform book).graph.size = book.graph.size + count ∧
      ∀ handle, handle.index < book.graph.size →
        ((List.replicate count Operation.create).foldl perform book).graph.rule handle =
          book.graph.rule handle := by
  induction count generalizing book with
  | zero => exact ⟨rfl, fun _ _ => rfl⟩
  | succ count ih =>
      obtain ⟨hsize, hrules⟩ := ih book.create.2
      have hnext : book.create.2.graph.size = book.graph.size + 1 := RuleGraph.size_create book.graph
      rw [List.replicate_succ, List.foldl_cons]
      refine ⟨?_, fun handle hlt => ?_⟩
      · calc _ = book.create.2.graph.size + count := hsize
          _ = book.graph.size + (count + 1) := by omega
      · calc _ = book.create.2.graph.rule handle := hrules handle (by omega)
          _ = book.graph.rule handle := rule_create_other (Nat.ne_of_lt hlt)

end RuleBook

namespace Publisher

variable {σ : Type} [Sheet σ] {start : Publisher σ} {sheet : σ}

/-- The handles that are returned for the rules that several calls create, one after the other. -/
def createdBy (publisher : Publisher σ) (calls : List Call) : List Handle :=
  gather (fun publisher call => match call with
    | .create => [publisher.create.1]
    | _ => []) publisher calls

theorem createdBy_eq_createdBy (publisher : Publisher σ) (calls : List Call) :
    publisher.createdBy calls = publisher.book.createdBy (calls.filterMap Call.operation?) := by
  induction calls generalizing publisher with
  | nil => rfl
  | cons call rest ih =>
      have hrest := ih (publisher.perform call)
      rw [book_perform] at hrest
      rw [createdBy, gather, ← createdBy, hrest, List.filterMap_cons]
      cases call <;> rfl

/-- **When a new rule has a handle of its own.** This holds of every book that is assembled by hand and of the book of
every publisher, whatever else happened between the creations. The handles that were returned are the numbers of all
places in their order. A new rule has a handle that was not returned before, leads to an empty open rule and changes
what no other handle leads to, exactly if there are fewer rules than words. With as many rules as words an earlier
handle is returned, which leads to the earlier rule, and no handle leads to the new one. The rules that are there
stay as they are in either case. -/
theorem created_handle_fresh_iff (hstart : withSheet sheet = .ok start) :
    (∀ operations, (RuleBook.assemble operations).Numbered (RuleBook.createdBy {} operations)) ∧
      ∀ calls, (start.run calls).book.Numbered (start.createdBy calls) := by
  have hassembled (operations : List Operation) :
      (RuleBook.assemble operations).Numbered (RuleBook.createdBy {} operations) := by
    rw [RuleBook.createdBy_eq]
    exact RuleBook.numbered _
  refine ⟨hassembled, fun calls => ?_⟩
  rw [createdBy_eq_createdBy, book_withSheet hstart, book_run_eq_assemble hstart]
  exact hassembled _

theorem created_handle_fresh_box :
    withSheet ({} : AbsentSheet) = .ok offline ∧ offline.createdBy boxCalls = [⟨0⟩] ∧
      (offline.run boxCalls).book.graph.size < UInt32.size ∧ (offline.run boxCalls).book.Fresh [⟨0⟩] := by
  have hstart : withSheet ({} : AbsentSheet) = .ok offline := rfl
  have hcreated : offline.createdBy boxCalls = [⟨0⟩] := rfl
  have hfew : (offline.run boxCalls).book.graph.size < UInt32.size := by decide +kernel
  have hnumbered := (created_handle_fresh_iff hstart).2 boxCalls
  rw [hcreated] at hnumbered
  exact ⟨hstart, hcreated, hfew, hnumbered.fresh_iff.mpr hfew⟩

/-- A rule with a fragment, and empty ones up to the number of words. -/
def crowdedOperations : List Operation :=
  [.create, .attach ⟨0⟩ (.literal "box") .back] ++ List.replicate 4294967295 .create

/-- The next rule is given the handle of the first one again, and the handle leads to the first one still. -/
theorem created_handle_of_crowded_book :
    (RuleBook.assemble crowdedOperations).create.1 = ⟨0⟩ ∧
      ⟨0⟩ ∈ RuleBook.createdBy {} crowdedOperations ∧
      (RuleBook.assemble crowdedOperations).create.2.graph.rule ⟨0⟩ = .ok { fragments := ["box"] } ∧
      ¬ (RuleBook.assemble crowdedOperations).Fresh (RuleBook.createdBy {} crowdedOperations) := by
  obtain ⟨hsize, hrules⟩ := RuleBook.foldl_creates
    (RuleBook.assemble [.create, .attach ⟨0⟩ (.literal "box") .back]) 4294967295
  have hcrowded : RuleBook.assemble crowdedOperations = (List.replicate 4294967295 Operation.create).foldl
      RuleBook.perform (RuleBook.assemble [.create, .attach ⟨0⟩ (.literal "box") .back]) := List.foldl_append
  rw [← hcrowded] at hsize hrules
  have hused : (RuleBook.assemble crowdedOperations).graph.size = UInt32.size := hsize
  have hfirst : (RuleBook.assemble crowdedOperations).create.1 = ⟨0⟩ := by
    have hzero : Handle.ofCount UInt32.size = ⟨0⟩ := by decide
    rw [← hzero, ← hused]
    rfl
  obtain ⟨hearlier, hlost⟩ :=
    (RuleBook.numbered (RuleBook.assemble crowdedOperations)).used_up (Nat.le_of_eq hused.symm)
  rw [← RuleBook.createdBy_eq] at hearlier
  refine ⟨hfirst, hfirst ▸ hearlier, ?_, fun hfresh => hfresh.not_mem hearlier⟩
  rw [hlost, hrules ⟨0⟩ (by decide)]
  rfl

end Publisher

end CssRules
