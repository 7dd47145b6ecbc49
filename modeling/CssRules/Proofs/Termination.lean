import CssRules.Proofs.Acyclic
import CssRules.Proofs.Delivery
import CssRules.Proofs.Document

/-! The recursion over rules ends. In every run a child was sealed before its sealed containers, so that no rule
stands below itself, and whatever follows the children of rules comes to a result. Finishing a rule fails
only together with the sheet. -/

namespace CssRules

namespace RuleBook

variable {book next : RuleBook}

theorem Quiet.child_of_sealed {graph : RuleGraph} (hquiet : book.Quiet graph) {parent child : Handle}
    {name : String} (hsealed : graph.SealedAs parent name) (hchild : child ∈ graph.childrenOf parent) :
    child ∈ book.graph.childrenOf parent := by
  rcases hquiet.new_child hchild with hold | ⟨-, rule, hrule, hopen⟩
  · exact hold
  · exact absurd hopen ((hquiet.sealedAs_iff.mp hsealed).not_open hrule)

/-- The children of a rule that is sealed after a call were its children before. -/
theorem Consistent.child_of_sealed_step (h : book.Consistent) {call : Call} (hstep : book.Step call next)
    {parent child : Handle} {name : String} (hsealed : next.graph.SealedAs parent name)
    (hchild : child ∈ next.graph.childrenOf parent) : child ∈ book.graph.childrenOf parent := by
  cases hstep with
  | same => exact hchild
  | create => exact (quiet_create book).child_of_sealed hsealed hchild
  | attach hattach hstrings => exact ((attaches_of_attach hattach).quiet h).child_of_sealed hsealed hchild
  | register hregister hcall =>
      obtain ⟨-, rfl⟩ := register_eq_ok_iff.mp hregister
      rwa [RuleGraph.childrenOf_sealWith] at hchild

/-- Every rule can be registered, and the rule registered under its identifier has lines. -/
theorem Consistent.exists_register (h : book.Consistent) {handle : Handle}
    (hrule : ∃ rule, book.graph.rule handle = .ok rule) :
    ∃ name next first, book.register handle = .ok (name, next) ∧ next.Consistent ∧
      next.catalog.lookup name = some first ∧ ∃ lines, next.graph.blocks {} first = .ok lines := by
  obtain ⟨rule, hrule⟩ := hrule
  obtain ⟨name, hname⟩ := h.ranked.exists_identifier hrule
  have hregister := register_eq_ok_iff.mpr ⟨hname, rfl⟩
  have hnext := h.register hregister
  have hlookup := Catalog.lookup_insert_self book.catalog name handle
  exact ⟨name, _, _, hregister, hnext, hlookup,
    hnext.ranked.exists_blocks {} (hnext.sealedAs_of_lookup hlookup).exists_rule⟩

end RuleBook

namespace Publisher

variable {σ : Type} [Sheet σ] {publisher start : Publisher σ} {sheet : σ} {handle : Handle}

/-- Publishing a rule of a consistent book fails only together with the sheet. -/
theorem exists_cause_of_publish (h : publisher.book.Consistent)
    (hrule : ∃ rule, publisher.rule handle = .ok rule) {error : Error}
    (herror : (publisher.publish handle).1 = .error error) : ∃ cause, error = .sheet cause := by
  obtain ⟨lines, hlines⟩ := h.ranked.exists_blocks {} hrule
  rw [publish] at herror
  split at herror
  · rename_i hstreaming
    rw [blocks, hlines] at herror
    have henabled : publisher.feed.isEnabled = true := hstreaming
    simp only [Feed.publish, henabled, ↓reduceIte] at herror
    exact Feed.exists_cause_of_deliver herror
  · cases herror

/-- Finishing a rule registers it, also if the sheet fails, and nothing else can fail. -/
theorem finish_of_rule (h : publisher.book.Consistent) (hrule : ∃ rule, publisher.rule handle = .ok rule) :
    ∃ name, publisher.book.register handle = .ok (name, (publisher.finish handle).2.book) ∧
      ((publisher.finish handle).1 = .ok name ∨
        ∃ cause, (publisher.finish handle).1 = .error (.sheet cause)) := by
  obtain ⟨name, book, first, hregister, hconsistent, hlookup, -⟩ := h.exists_register hrule
  have hnext : ({ publisher with book } : Publisher σ).book.Consistent := hconsistent
  refine ⟨name, by rw [book_finish, hregister], ?_⟩
  have hfinish : (publisher.finish handle).1 =
      ((({ publisher with book } : Publisher σ).publish first).1).map fun _ => name := by
    have hfound : ({ publisher with book } : Publisher σ).lookup name = some first := hlookup
    simp only [finish, hregister, hfound]
  rw [hfinish]
  cases hpublish : (({ publisher with book } : Publisher σ).publish first).1 with
  | ok count => exact Or.inl rfl
  | error error =>
      obtain ⟨cause, rfl⟩ :=
        exists_cause_of_publish hnext (hnext.sealedAs_of_lookup hlookup).exists_rule hpublish
      exact Or.inr ⟨cause, rfl⟩

theorem finish_of_no_rule (hmissing : publisher.book.graph.size ≤ handle.index) :
    publisher.finish handle = (.error (.invalidRule handle), publisher) := by
  have hrule : publisher.book.graph.rule handle = .error (.invalidRule handle) :=
    RuleGraph.rule_eq_error_iff.mpr ⟨hmissing, rfl⟩
  have hregister : publisher.book.register handle = .error (.invalidRule handle) := by
    simp only [RuleBook.register, RuleGraph.identifier, RuleGraph.identifierWithin, hrule, bind, Except.bind]
  simp only [finish, hregister]

/-- At some moment of a run the first rule is sealed and the second one is still open. -/
def SealedBefore (start : Publisher σ) (calls : List Call) (first second : Handle) : Prop :=
  ∃ before, before <+: calls ∧ (∃ name, (start.run before).book.graph.SealedAs first name) ∧
    ∀ name, ¬ (start.run before).book.graph.SealedAs second name

/-- A child of a sealed rule was sealed before that rule. -/
theorem sealedBefore_of_child (hstart : withSheet sheet = .ok start) {calls : List Call}
    {parent child : Handle} {name : String} (hsealed : (start.run calls).book.graph.SealedAs parent name)
    (hchild : child ∈ (start.run calls).book.graph.childrenOf parent) :
    start.SealedBefore calls child parent := by
  induction calls using List.reverseRecOn generalizing name with
  | nil =>
      rw [run, List.foldl_nil, book_withSheet hstart] at hchild
      cases hchild
  | append_singleton calls call ih =>
      rw [run_concat] at hsealed hchild
      have h := consistent_run hstart calls
      have hold := h.child_of_sealed_step (step_perform _ call) hsealed hchild
      -- Either the parent was sealed earlier, or the moment before this call is the one.
      by_cases hbefore : ∃ other, (start.run calls).book.graph.SealedAs parent other
      · obtain ⟨other, hother⟩ := hbefore
        obtain ⟨before, hprefix, hmoment⟩ := ih hother hold
        exact ⟨before, hprefix.trans (List.prefix_append _ _), hmoment⟩
      · exact ⟨calls, List.prefix_append _ _, h.child_sealed hold, fun other hother => hbefore ⟨other, hother⟩⟩

/-- **Recursion over rules ends, and it does not fail.** In every run no rule stands below itself: a child is
registered, and it was sealed before each sealed rule that contains it. So every rule has an identifier, a
selector and blocks, the document without minification is written, and finishing a rule fails only together
with the sheet. No recursion needs more depth than it is given. -/
theorem recursion_ends (hstart : withSheet sheet = .ok start) (calls : List Call) :
    (start.run calls).book.graph.Acyclic ∧
    (∀ parent child, child ∈ (start.run calls).book.graph.childrenOf parent →
      (∃ name, (start.run calls).book.graph.SealedAs child name ∧
        (start.run calls).lookup name = some child) ∧
      ∀ name, (start.run calls).book.graph.SealedAs parent name →
        start.SealedBefore calls child parent) ∧
    (∀ handle, handle.index < (start.run calls).book.graph.size →
      (∃ name, (start.run calls).identifier handle = .ok name) ∧
      (∃ selector, (start.run calls).book.graph.selector handle = .ok selector) ∧
      (∀ layout, ∃ own nested,
        (start.run calls).book.graph.block layout handle = .ok own ∧
        ((start.run calls).book.graph.childrenOf handle).mapM ((start.run calls).blocks layout) =
          .ok nested ∧
        (start.run calls).blocks layout handle = .ok (own :: nested.flatten)) ∧
      ((∃ name, ((start.run calls).finish handle).1 = .ok name) ∨
        ∃ cause, ((start.run calls).finish handle).1 = .error (.sheet cause))) ∧
    (∀ layout, ∃ blocks, (start.run calls).book.documentBlocks layout = .ok blocks ∧
      (layout.minify = false → (start.run calls).document layout = .ok (layout.join blocks))) ∧
    ∀ depth handle, (start.run calls).book.graph.size < depth →
      (start.run calls).book.graph.identifierWithin depth handle = (start.run calls).identifier handle ∧
      ∀ layout, (start.run calls).book.graph.blocksWithin layout depth handle =
        (start.run calls).blocks layout handle := by
  have h := consistent_run hstart calls
  refine ⟨h.ranked.acyclic, fun parent child hchild => ⟨?_, fun name hsealed => ?_⟩, fun handle hlt => ?_,
    fun layout => ?_, fun depth handle hdepth => ⟨?_, fun layout => ?_⟩⟩
  · exact h.exists_sealedAs (h.child_mem_handles hchild)
  · exact sealedBefore_of_child hstart hsealed hchild
  · obtain ⟨rule, hrule⟩ := RuleGraph.exists_rule_iff.mpr hlt
    obtain ⟨name, -, hresult⟩ := finish_of_rule h ⟨rule, hrule⟩
    exact ⟨h.ranked.exists_identifier hrule, h.ranked.exists_selector hrule,
      fun layout => h.ranked.exists_own_and_nested layout ⟨rule, hrule⟩,
      hresult.imp_left fun hok => ⟨name, hok⟩⟩
  · obtain ⟨blocks, hblocks⟩ := h.exists_documentBlocks layout
    exact ⟨blocks, hblocks, RuleBook.document_eq_join hblocks⟩
  · have hrank := h.ranked.le_size handle
    exact h.ranked.identifierWithin_congr (by omega) (by omega)
  · have hrank := h.ranked.le_size handle
    exact h.ranked.blocksWithin_congr layout (by omega) (by omega)

/-- A rule inside another one, both finished. -/
def nestedCalls : List Call := nestingCalls ++ [.finish ⟨1⟩]

theorem recursion_ends_nested :
    withSheet ({} : AbsentSheet) = .ok offline ∧
      (offline.run nestedCalls).book.graph.childrenOf ⟨1⟩ = [⟨0⟩] ∧
      offline.SealedBefore nestedCalls ⟨0⟩ ⟨1⟩ ∧
      (∃ own nested, (offline.run nestedCalls).blocks {} ⟨0⟩ = .ok nested ∧
        (offline.run nestedCalls).blocks {} ⟨1⟩ = .ok (own :: nested)) ∧
      (∃ blocks, (offline.run nestedCalls).document {} = .ok (Layout.join {} blocks)) ∧
      (offline.run nestedCalls).book.graph.identifierWithin 3 ⟨1⟩ =
        (offline.run nestedCalls).identifier ⟨1⟩ := by
  have hstart : withSheet ({} : AbsentSheet) = .ok offline := rfl
  have hchildren : (offline.run nestedCalls).book.graph.childrenOf ⟨1⟩ = [⟨0⟩] := by decide +kernel
  have hsize : (offline.run nestedCalls).book.graph.size = 2 := by decide +kernel
  have hsealed : ((offline.run nestedCalls).rule ⟨1⟩).map Rule.isSealed = .ok true := by decide +kernel
  obtain ⟨-, hbefore, htotal, hdocument, hdepth⟩ := recursion_ends hstart nestedCalls
  obtain ⟨rule, hrule, hidentifier⟩ := exists_of_map_eq_ok hsealed
  obtain ⟨name, hname⟩ := Option.isSome_iff_exists.mp hidentifier
  obtain ⟨-, -, hblocks, -⟩ := htotal ⟨1⟩ (by rw [hsize]; decide)
  obtain ⟨own, nested, -, hnested, hall⟩ := hblocks {}
  obtain ⟨blocks, -, hjoin⟩ := hdocument {}
  obtain ⟨inner, hinner, rfl⟩ :
      ∃ inner, (offline.run nestedCalls).blocks {} ⟨0⟩ = .ok inner ∧ nested = [inner] := by
    rw [hchildren, mapM_eq_ok_iff] at hnested
    obtain ⟨inner, rest, hinner, hrest, rfl⟩ := List.forall₂_cons_left_iff.mp hnested
    exact ⟨inner, hinner, by rw [List.forall₂_nil_left_iff.mp hrest]⟩
  refine ⟨hstart, hchildren, (hbefore ⟨1⟩ ⟨0⟩ (by simp [hchildren])).2 name ⟨rule, hrule, hname⟩,
    ⟨own, inner, hinner, ?_⟩, ⟨blocks, hjoin rfl⟩, (hdepth 3 ⟨1⟩ (by rw [hsize]; decide)).1⟩
  rwa [List.flatten_singleton] at hall

end Publisher

end CssRules
