import CssRules.Proofs.Steps
import CssRules.Publisher
import Mathlib.Data.List.Induction

/-! Runs of a publisher: any number of calls in any order, of which each may fail. The rule book of a
publisher stays consistent in all of them, every sealed rule has a content that was hashed on the way, and
texts without a zero character lead to rules without one. -/

namespace CssRules

/-- The calls of a host. -/
inductive Call where
  | create
  | attach (owner : Handle) (piece : Piece) (place : Place)
  | attachFunction (owner : Handle) (name : String)
  | finish (handle : Handle)
  | stream (enabled : Bool)
  | publish (handle : Handle)

/-- Different texts of a list have different fingerprints. -/
def CollisionFree (texts : List String) : Prop :=
  ∀ text ∈ texts, ∀ other ∈ texts, Fingerprint.ofText text = Fingerprint.ofText other → text = other

namespace RuleBook

/-- The strings that a call attaches to a rule. -/
def attachedStrings (book : RuleBook) : Call → List String
  | .attach owner piece place =>
      match book.attach owner piece place with
      | .ok _ => piece.strings
      | .error _ => []
  | .attachFunction owner name =>
      match book.attach owner (.function name) .back with
      | .ok _ => [name]
      | .error _ => []
  | _ => []

/-- The contents that are hashed into identifiers when a call registers a rule. -/
def hashedContents (book : RuleBook) : Call → List String
  | .finish handle =>
      match book.graph.openRule handle, book.graph.contentOf handle with
      | .ok _, .ok content => [content]
      | _, _ => []
  | _ => []

/-- What a call can do to a book. -/
inductive Step (book : RuleBook) (call : Call) : RuleBook → Prop
  | same : Step book call book
  | create : Step book call book.create.2
  | attach {owner : Handle} {piece : Piece} {place : Place} {next : RuleBook}
      (hattach : book.attach owner piece place = .ok next)
      (hstrings : book.attachedStrings call = piece.strings) : Step book call next
  | register {handle : Handle} {identifier : String} {next : RuleBook}
      (hregister : book.register handle = .ok (identifier, next)) (hcall : call = .finish handle) :
      Step book call next

variable {book next : RuleBook} {call : Call}

theorem Consistent.step (h : book.Consistent) (hstep : book.Step call next) : next.Consistent := by
  cases hstep with
  | same => exact h
  | create => exact h.quiet rfl (quiet_create book)
  | attach hattach hstrings =>
      have hattaches := attaches_of_attach hattach
      exact h.quiet hattaches.catalog_eq (hattaches.quiet h)
  | register hregister hcall => exact h.register hregister

theorem Consistent.extends_step (h : book.Consistent) (hstep : book.Step call next) :
    book.graph.Extends next.graph := by
  cases hstep with
  | same => exact .refl _
  | create => exact .create _
  | attach hattach hstrings => exact ((attaches_of_attach hattach).quiet h).grows
  | register hregister hcall => exact extends_register hregister

/-- A rule that is sealed after a registration was sealed before or has its content hashed. -/
theorem Consistent.sealed_register (h : book.Consistent) {handle other : Handle}
    {identifier name content : String} (hregister : book.register handle = .ok (identifier, next))
    (hsealed : next.graph.SealedAs other name) (hcontent : next.graph.contentOf other = .ok content) :
    book.graph.SealedAs other name ∨ content ∈ book.hashedContents (.finish handle) := by
  have hgrows := extends_register hregister
  obtain ⟨hidentifier, rfl⟩ := register_eq_ok_iff.mp hregister
  obtain ⟨rule, hrule, hcases⟩ := h.identifier_cases hidentifier
  rw [RuleGraph.sealedAs_sealWith ⟨rule, hrule⟩] at hsealed
  by_cases hother : other = handle
  · subst hother
    rw [if_pos rfl] at hsealed
    subst hsealed
    rcases hcases with hbefore | ⟨hopen, -⟩
    · exact Or.inl ⟨rule, hrule, hbefore⟩
    · have hfound := RuleGraph.openRule_eq_ok_iff.mpr ⟨hrule, hopen⟩
      rw [hgrows.contentOf_sealWith fun _ => h.child_sealed] at hcontent
      exact Or.inr (by simp [hashedContents, hfound, hcontent])
  · rw [if_neg hother] at hsealed
    exact Or.inl hsealed

/-- A rule that is sealed after a call was sealed before or its content is hashed by the call. -/
theorem Consistent.sealed_step (h : book.Consistent) (hstep : book.Step call next) {handle : Handle}
    {identifier content : String} (hsealed : next.graph.SealedAs handle identifier)
    (hcontent : next.graph.contentOf handle = .ok content) :
    (book.graph.SealedAs handle identifier ∧ book.graph.contentOf handle = .ok content) ∨
      content ∈ book.hashedContents call := by
  have hgrows := h.extends_step hstep
  have hkeep (hbefore : book.graph.SealedAs handle identifier) :
      book.graph.SealedAs handle identifier ∧ book.graph.contentOf handle = .ok content :=
    ⟨hbefore, (hgrows.contentOf_eq hbefore fun _ => h.child_sealed).symm.trans hcontent⟩
  cases hstep with
  | same => exact Or.inl (hkeep hsealed)
  | create => exact Or.inl (hkeep (RuleGraph.sealedAs_create.mp hsealed))
  | attach hattach hstrings =>
      exact Or.inl (hkeep (((attaches_of_attach hattach).quiet h).sealedAs_iff.mp hsealed))
  | register hregister hcall =>
      subst hcall
      exact (h.sealed_register hregister hsealed hcontent).imp_left hkeep

theorem Step.zeroFreeTexts (hstep : book.Step call next) (h : book.graph.ZeroFreeTexts)
    (hstrings : ∀ text ∈ book.attachedStrings call, ZeroFree text) : next.graph.ZeroFreeTexts := by
  cases hstep with
  | same => exact h
  | create => exact h.create
  | attach hattach hpiece => exact (attaches_of_attach hattach).attached.zeroFreeTexts h (hpiece ▸ hstrings)
  | register hregister hcall =>
      obtain ⟨-, rfl⟩ := register_eq_ok_iff.mp hregister
      exact h.update_of_eq (fun _ => rfl) fun _ => rfl

end RuleBook

namespace Publisher

variable {σ : Type}

theorem step_attach {publisher : Publisher σ} {owner : Handle} {piece : Piece} {place : Place} {call : Call}
    (hstrings : publisher.book.attachedStrings call = match publisher.book.attach owner piece place with
      | .ok _ => piece.strings
      | .error _ => []) :
    publisher.book.Step call (match publisher.attach owner piece place with
      | .ok next => next
      | .error _ => publisher).book := by
  unfold attach
  cases hattach : publisher.book.attach owner piece place with
  | error error => exact .same
  | ok next =>
      rw [hattach] at hstrings
      exact .attach hattach hstrings

variable [Sheet σ]

/-- A publisher into an empty sheet in memory. -/
def live : Publisher MemorySheet := { feed := { sheet := {}, enabled := true, started := true } }

/-- The publisher after a call. A call that fails to attach something changes nothing. -/
def perform (publisher : Publisher σ) : Call → Publisher σ
  | .create => publisher.create.2
  | .attach owner piece place =>
      match publisher.attach owner piece place with
      | .ok next => next
      | .error _ => publisher
  | .attachFunction owner name =>
      match publisher.attachFunction owner name with
      | .ok next => next
      | .error _ => publisher
  | .finish handle => (publisher.finish handle).2
  | .stream enabled => (publisher.stream enabled).2
  | .publish handle => (publisher.publish handle).2

/-- The publisher after several calls. -/
def run (publisher : Publisher σ) (calls : List Call) : Publisher σ := calls.foldl perform publisher

/-- What is collected at each call of a run, in the state before the call. -/
def gather {α : Type} (collect : Publisher σ → Call → List α) : Publisher σ → List Call → List α
  | _, [] => []
  | publisher, call :: rest => collect publisher call ++ gather collect (publisher.perform call) rest

/-- The strings that the calls of a run attach. -/
def attachedStrings (publisher : Publisher σ) (calls : List Call) : List String :=
  gather (fun publisher => publisher.book.attachedStrings) publisher calls

/-- The contents that are hashed into identifiers in a run. -/
def hashedContents (publisher : Publisher σ) (calls : List Call) : List String :=
  gather (fun publisher => publisher.book.hashedContents) publisher calls

variable {publisher start : Publisher σ} {sheet : σ}

theorem run_concat (calls : List Call) (call : Call) :
    publisher.run (calls ++ [call]) = (publisher.run calls).perform call := by
  simp [run]

theorem run_append (calls more : List Call) :
    publisher.run (calls ++ more) = (publisher.run calls).run more := List.foldl_append

theorem gather_concat {α : Type} (collect : Publisher σ → Call → List α) (calls : List Call)
    (call : Call) :
    gather collect publisher (calls ++ [call]) =
      gather collect publisher calls ++ collect (publisher.run calls) call := by
  induction calls generalizing publisher with
  | nil => simp [gather, run]
  | cons first rest ih =>
      rw [List.cons_append, gather, gather, ih, List.append_assoc]
      rfl

@[simp] theorem book_stream (enabled : Bool) : (publisher.stream enabled).2.book = publisher.book := rfl

@[simp] theorem book_publish (handle : Handle) : (publisher.publish handle).2.book = publisher.book := by
  unfold publish
  split
  · split <;> rfl
  · rfl

theorem book_finish (handle : Handle) :
    (publisher.finish handle).2.book = match publisher.book.register handle with
      | .ok (_, book) => book
      | .error _ => publisher.book := by
  unfold finish
  cases publisher.book.register handle with
  | error error => rfl
  | ok result =>
      obtain ⟨identifier, book⟩ := result
      simp only
      split
      · rfl
      · rw [book_publish]

theorem eq_stream_of_withSheet (hstart : withSheet sheet = .ok start) :
    start = (stream { feed := { sheet } } true).2 := by
  unfold withSheet at hstart
  simp only at hstart
  cases hstream : (stream { feed := { sheet } } true : Except Error Unit × Publisher σ).1 with
  | error error => simp [hstream, Except.map] at hstart
  | ok _ =>
      simp only [hstream, Except.map, Except.ok.injEq] at hstart
      exact hstart.symm

theorem book_withSheet (hstart : withSheet sheet = .ok start) : start.book = {} := by
  rw [eq_stream_of_withSheet hstart, book_stream]

/-- What a call does to the book does not depend on the sheet. -/
theorem step_perform (publisher : Publisher σ) (call : Call) :
    publisher.book.Step call (publisher.perform call).book := by
  cases call with
  | create => exact .create
  | attach owner piece place => exact step_attach rfl
  | attachFunction owner name => exact step_attach rfl
  | finish handle =>
      rw [perform, book_finish]
      cases hregister : publisher.book.register handle with
      | error error => exact .same
      | ok result => exact .register hregister rfl
  | stream enabled => exact .same
  | publish handle =>
      rw [perform, book_publish]
      exact .same

theorem consistent_run (hstart : withSheet sheet = .ok start) (calls : List Call) :
    (start.run calls).book.Consistent := by
  induction calls using List.reverseRecOn with
  | nil =>
      rw [run, List.foldl_nil, book_withSheet hstart]
      exact RuleBook.consistent_empty
  | append_singleton calls call ih =>
      rw [run_concat]
      exact ih.step (step_perform _ call)

theorem extends_run (hstart : withSheet sheet = .ok start) (calls more : List Call) :
    (start.run calls).book.graph.Extends ((start.run calls).run more).book.graph := by
  induction more using List.reverseRecOn with
  | nil => exact .refl _
  | append_singleton more call ih =>
      have h := consistent_run hstart (calls ++ more)
      rw [run_append] at h
      rw [run_concat]
      exact ih.trans (h.extends_step (step_perform _ call))

theorem zeroFreeTexts_run (hstart : withSheet sheet = .ok start) {calls : List Call}
    (hstrings : ∀ text ∈ start.attachedStrings calls, ZeroFree text) :
    (start.run calls).book.graph.ZeroFreeTexts := by
  induction calls using List.reverseRecOn with
  | nil =>
      rw [run, List.foldl_nil, book_withSheet hstart]
      exact RuleGraph.zeroFreeTexts_empty
  | append_singleton calls call ih =>
      rw [attachedStrings, gather_concat] at hstrings
      rw [run_concat]
      apply (step_perform _ call).zeroFreeTexts
      · exact ih fun text htext => hstrings text (List.mem_append_left _ htext)
      · exact fun text htext => hstrings text (List.mem_append_right _ htext)

/-- The content of a sealed rule was hashed when the rule was registered. -/
theorem content_mem_hashedContents (hstart : withSheet sheet = .ok start) {calls : List Call}
    {handle : Handle} {identifier content : String}
    (hsealed : (start.run calls).book.graph.SealedAs handle identifier)
    (hcontent : (start.run calls).book.graph.contentOf handle = .ok content) :
    content ∈ start.hashedContents calls := by
  induction calls using List.reverseRecOn with
  | nil =>
      rw [run, List.foldl_nil, book_withSheet hstart] at hsealed
      obtain ⟨rule, hrule, -⟩ := hsealed
      cases hrule
  | append_singleton calls call ih =>
      rw [run_concat] at hsealed hcontent
      rw [hashedContents, gather_concat]
      have hstep := step_perform (start.run calls) call
      rcases (consistent_run hstart calls).sealed_step hstep hsealed hcontent with
        ⟨hbefore, hcontent⟩ | hmem
      · exact List.mem_append_left _ (ih hbefore hcontent)
      · exact List.mem_append_right _ hmem

end Publisher

end CssRules
