import CssRules.Proofs.Structure
import CssRules.Proofs.Termination
import CssRules.Sheet.Scripted

/-! Finished rules are frozen. A host may ask for anything after it has finished a rule: the rule keeps its
fragments, declarations, children and identifier, and as everything below it is sealed as well, it keeps its
structure and with it all its text. Only rules that contain it can be added. -/

namespace CssRules

/-- A request of a host: a call, or a change that no rule can undergo. Requests that only read are left out,
since they have no next state. -/
inductive Request where
  | call (call : Call)
  | detach (owner : Handle) (piece : Piece)
  | swap (left right : Handle)
  | replace (existing replacement : Handle)
  | attachAttribute (owner : Handle) (key value : String)
  | detachAttribute (owner : Handle) (key : String)

/-- The call in a request, if there is one. -/
def Request.call? : Request → Option Call
  | .call made => some made
  | _ => none

/-- A sealed rule has the same structure in every later graph, as the rules below it are sealed. -/
theorem RuleGraph.Extends.sameStructure {graph next : RuleGraph} {rank : Handle → Nat}
    (h : graph.Extends next) (hranked : graph.Ranked rank)
    (hchildren : ∀ {parent child}, child ∈ graph.childrenOf parent → ∃ name, graph.SealedAs child name)
    {handle : Handle} {identifier : String} (hsealed : graph.SealedAs handle identifier) :
    graph.SameStructure next handle handle := by
  induction hrank : rank handle using Nat.strongRecOn generalizing handle identifier with
  | ind n ih =>
      obtain ⟨rule, hrule, hidentifier⟩ := hsealed
      obtain ⟨more, hnext⟩ := h.frozen hrule hidentifier
      refine .intro hrule hnext rfl rfl (List.forall₂_same.mpr fun child hchild => ?_)
      have hedge := mem_childrenOf hrule hchild
      obtain ⟨name, hname⟩ := hchildren hedge
      exact ih _ (hrank ▸ hranked.child_lt hedge) hname rfl

namespace Publisher

variable {σ : Type}

/-- The next publisher, if there is one. -/
def orSame (publisher : Publisher σ) : Except Error (Publisher σ) → Publisher σ
  | .ok next => next
  | .error _ => publisher

variable [Sheet σ]

/-- The publisher after a request, whether it was granted or not. -/
def serve (publisher : Publisher σ) : Request → Publisher σ
  | .call call => publisher.perform call
  | .detach owner piece => publisher.orSame (publisher.detach owner piece)
  | .swap left right => publisher.orSame (publisher.swap left right)
  | .replace existing replacement => publisher.orSame (publisher.replace existing replacement)
  | .attachAttribute owner key value => publisher.orSame (publisher.attachAttribute owner key value)
  | .detachAttribute owner key => publisher.orSame (publisher.detachAttribute owner key)

/-- The publisher after several requests. -/
def serveAll (publisher : Publisher σ) (requests : List Request) : Publisher σ :=
  requests.foldl serve publisher

variable {publisher start finished : Publisher σ} {sheet : σ} {handle : Handle}

/-- Only the calls among the requests count. -/
theorem serveAll_eq_run (publisher : Publisher σ) (requests : List Request) :
    publisher.serveAll requests = publisher.run (requests.filterMap Request.call?) := by
  induction requests generalizing publisher with
  | nil => rfl
  | cons request rest ih =>
      cases request with
      | call call => exact ih (publisher.perform call)
      | detach owner piece => exact ih publisher
      | swap left right => exact ih publisher
      | replace existing replacement => exact ih publisher
      | attachAttribute owner key value => exact ih publisher
      | detachAttribute owner key => exact ih publisher

/-- A rule is sealed as soon as finishing it succeeds or fails together with the sheet. -/
theorem sealedAs_of_finish (h : publisher.book.Consistent) {result : Except Error String}
    (hfinish : publisher.finish handle = (result, finished))
    (hresult : (∃ name, result = .ok name) ∨ ∃ cause, result = .error (.sheet cause)) :
    ∃ name, finished.book.graph.SealedAs handle name := by
  rcases Nat.lt_or_ge handle.index publisher.book.graph.size with hlt | hmissing
  · have hrule := RuleGraph.exists_rule_iff.mpr hlt
    obtain ⟨name, hregister, -⟩ := finish_of_rule h hrule
    rw [hfinish] at hregister
    obtain ⟨-, hbook⟩ := RuleBook.register_eq_ok_iff.mp hregister
    refine ⟨name, ?_⟩
    rw [hbook]
    exact RuleGraph.sealedAs_sealWith_self hrule
  · rw [finish_of_no_rule hmissing, Prod.mk.injEq] at hfinish
    obtain ⟨rfl, -⟩ := hfinish
    rcases hresult with ⟨name, hok⟩ | ⟨cause, hcause⟩
    · cases hok
    · cases hcause

/-- **A finished rule is frozen.** Take any run in which finishing a rule succeeds or fails together with the
sheet, and any requests after that. The rule then differs from what it was right after it was finished in
nothing but further containers at the end, and its identifier, its selector and its blocks in every layout
are the same. -/
theorem finished_rule_frozen (hstart : withSheet sheet = .ok start) (before after : List Request)
    {result : Except Error String}
    (hfinish : (start.serveAll before).finish handle = (result, finished))
    (hresult : (∃ name, result = .ok name) ∨ ∃ cause, result = .error (.sheet cause)) :
    ∃ rule name containers, finished.rule handle = .ok rule ∧ rule.identifier = some name ∧
      (finished.serveAll after).rule handle =
        .ok { rule with containers := rule.containers ++ containers } ∧
      finished.identifier handle = .ok name ∧ (finished.serveAll after).identifier handle = .ok name ∧
      (∃ selector, finished.book.graph.selector handle = .ok selector ∧
        (finished.serveAll after).book.graph.selector handle = .ok selector) ∧
      ∀ layout, ∃ lines, finished.blocks layout handle = .ok lines ∧
        (finished.serveAll after).blocks layout handle = .ok lines := by
  -- The moment after finishing is itself reached by a run, so both moments are consistent.
  rw [serveAll_eq_run] at hfinish
  rw [serveAll_eq_run]
  generalize before.filterMap Request.call? = calls at hfinish
  generalize after.filterMap Request.call? = more
  obtain ⟨name, hsealed⟩ := sealedAs_of_finish (consistent_run hstart calls) hfinish hresult
  obtain rfl : start.run (calls ++ [.finish handle]) = finished := by
    rw [run_concat, perform, hfinish]
  have h := consistent_run hstart (calls ++ [.finish handle])
  have hnext := consistent_run hstart (calls ++ [.finish handle] ++ more)
  rw [run_append] at hnext
  have hgrows := extends_run hstart (calls ++ [.finish handle]) more
  have hsame := hgrows.sameStructure h.ranked h.child_sealed hsealed
  have hlater := hgrows.sealedAs hsealed
  obtain ⟨rule, hrule, hidentifier⟩ := hsealed
  obtain ⟨containers, hafter⟩ := hgrows.frozen hrule hidentifier
  have hname := RuleGraph.identifier_of_sealed hrule hidentifier
  have hname' := hlater.identifier_eq
  refine ⟨rule, name, containers, hrule, hidentifier, hafter, hname, hname', ?_, fun layout => ?_⟩
  · obtain ⟨selector, hselector⟩ := h.ranked.exists_selector hrule
    have hkeep := RuleGraph.selector_congr hrule hafter rfl (hname.trans hname'.symm)
    exact ⟨selector, hselector, hkeep.symm.trans hselector⟩
  · obtain ⟨lines, hlines⟩ := h.ranked.exists_blocks layout ⟨rule, hrule⟩
    have hkeep := hsame.blocks_eq h.ranked hnext.ranked h.current hnext.current layout
    exact ⟨lines, hlines, hkeep.symm.trans hlines⟩

/-- A publisher into a sheet that refuses the first line. -/
def refused : Publisher ScriptedSheet where
  feed := { sheet := { failsAppend := (· == 0), starts := 1 }, enabled := true, started := true }

def boxRequests : List Request := [.call .create, .call (.attach ⟨0⟩ (.literal "box") .back)]

/-- Attempts to change the finished rule, and a second rule that contains it. -/
def laterRequests : List Request :=
  [.call (.attach ⟨0⟩ (.literal "late") .back), .detach ⟨0⟩ (.literal "box"), .call .create,
    .call (.attach ⟨1⟩ (.nested (Identifier.ofContent "f:box\x00")) .back), .swap ⟨0⟩ ⟨1⟩,
    .call (.finish ⟨1⟩), .call (.finish ⟨0⟩)]

theorem finished_rule_frozen_refused :
    withSheet ({ failsAppend := (· == 0) } : ScriptedSheet) = .ok refused ∧
      ∃ finished, (refused.serveAll boxRequests).finish ⟨0⟩ = (.error (.sheet .rejected), finished) ∧
        ∃ rule containers, finished.rule ⟨0⟩ = .ok rule ∧ containers = [⟨1⟩] ∧
          (finished.serveAll laterRequests).rule ⟨0⟩ =
            .ok { rule with containers := rule.containers ++ containers } ∧
          ∀ layout, ∃ lines, finished.blocks layout ⟨0⟩ = .ok lines ∧
            (finished.serveAll laterRequests).blocks layout ⟨0⟩ = .ok lines := by
  have hstart : withSheet ({ failsAppend := (· == 0) } : ScriptedSheet) = .ok refused := rfl
  have hresult : ((refused.serveAll boxRequests).finish ⟨0⟩).1 = .error (.sheet .rejected) := by
    decide +kernel
  have hbefore : (((refused.serveAll boxRequests).finish ⟨0⟩).2.rule ⟨0⟩).map Rule.containers = .ok [] := by
    decide +kernel
  have hafter : ((((refused.serveAll boxRequests).finish ⟨0⟩).2.serveAll laterRequests).rule ⟨0⟩).map
      Rule.containers = .ok [⟨1⟩] := by decide +kernel
  obtain ⟨⟨result, finished⟩, hfinish⟩ : ∃ outcome, (refused.serveAll boxRequests).finish ⟨0⟩ = outcome :=
    ⟨_, rfl⟩
  rw [hfinish] at hresult hbefore hafter
  obtain rfl : result = .error (.sheet .rejected) := hresult
  obtain ⟨rule, -, containers, hrule, -, hlater, -, -, -, hblocks⟩ :=
    finished_rule_frozen hstart boxRequests laterRequests hfinish (Or.inr ⟨.rejected, rfl⟩)
  rw [hrule] at hbefore
  rw [hlater] at hafter
  have hnone : rule.containers = [] := Except.ok.inj hbefore
  have hall : rule.containers ++ containers = [⟨1⟩] := Except.ok.inj hafter
  rw [hnone, List.nil_append] at hall
  exact ⟨hstart, finished, hfinish, rule, containers, hrule, hall, hlater, hblocks⟩

end Publisher

end CssRules
