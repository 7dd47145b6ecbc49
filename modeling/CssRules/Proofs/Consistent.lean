import CssRules.Proofs.Sealed
import CssRules.RuleBook
import Mathlib.Data.List.Nodup
import Mathlib.Data.List.Perm.Subperm

/-! The consistency of a rule book. The catalog has one entry for every identifier in use, and a child is
registered before the rules that contain it. Creating a rule, attaching a piece and registering a rule
all preserve that. -/

namespace CssRules

namespace Catalog

variable {catalog : Catalog} {identifier : String} {handle : Handle}

/-- The registered handles in the order of registration. -/
def handles (catalog : Catalog) : List Handle := catalog.entries.map Prod.snd

/-- The place of a handle in the order of registration. Handles that are not registered come last. -/
def position (catalog : Catalog) (handle : Handle) : Nat := catalog.handles.idxOf handle

theorem mem_entries_of_lookup (h : catalog.lookup identifier = some handle) :
    (identifier, handle) ∈ catalog.entries := by
  obtain ⟨before, after, hentries, -⟩ := List.lookup_eq_some_iff.mp h
  rw [hentries]
  exact List.mem_append_right _ List.mem_cons_self

theorem lookup_of_mem_entries (hkeys : (catalog.entries.map Prod.fst).Nodup)
    (h : (identifier, handle) ∈ catalog.entries) : catalog.lookup identifier = some handle := by
  obtain ⟨before, after, hentries⟩ := List.append_of_mem h
  rw [hentries, List.map_append, List.nodup_append] at hkeys
  apply List.lookup_eq_some_iff.mpr
  refine ⟨before, after, hentries, fun entry hentry => ?_⟩
  have hne := hkeys.2.2 entry.1 (List.mem_map_of_mem hentry) identifier List.mem_cons_self
  simpa using hne.symm

theorem mem_handles_of_lookup (h : catalog.lookup identifier = some handle) : handle ∈ catalog.handles :=
  List.mem_map_of_mem (mem_entries_of_lookup h)

theorem mem_handles_iff :
    handle ∈ catalog.handles ↔ ∃ identifier, (identifier, handle) ∈ catalog.entries := by
  simp [handles]

theorem mem_handles_iff_position_lt :
    handle ∈ catalog.handles ↔ catalog.position handle < catalog.handles.length :=
  List.idxOf_lt_length_iff.symm

theorem handles_prefix_insert (catalog : Catalog) (identifier : String) (handle : Handle) :
    catalog.handles <+: (catalog.insert identifier handle).handles :=
  (entries_prefix_insert catalog identifier handle).map Prod.snd

theorem position_insert_of_mem {other : Handle} (h : other ∈ catalog.handles) :
    (catalog.insert identifier handle).position other = catalog.position other := by
  obtain ⟨added, hadded⟩ := handles_prefix_insert catalog identifier handle
  rw [position, ← hadded, List.idxOf_append_of_mem h]
  rfl

theorem position_le_insert (other : Handle) :
    catalog.position other ≤ (catalog.insert identifier handle).position other := by
  by_cases h : other ∈ catalog.handles
  · exact Nat.le_of_eq (position_insert_of_mem h).symm
  · obtain ⟨added, hadded⟩ := handles_prefix_insert catalog identifier handle
    rw [position, List.idxOf_eq_length h, position, ← hadded, List.idxOf_append_of_notMem h]
    exact Nat.le_add_right _ _

theorem mem_entries_insert {entry : String × Handle}
    (h : entry ∈ (catalog.insert identifier handle).entries) :
    entry ∈ catalog.entries ∨ entry = (identifier, handle) := by
  unfold insert at h
  split at h
  · exact Or.inl h
  · simpa using h

theorem insert_insert (catalog : Catalog) (identifier : String) (handle : Handle) :
    (catalog.insert identifier handle).insert identifier handle = catalog.insert identifier handle := by
  have hcontains : (catalog.insert identifier handle).contains identifier = true := by
    rw [contains, lookup_insert_self, Option.isSome_some]
  rw [insert, if_pos hcontains]

theorem nodup_keys_insert (h : (catalog.entries.map Prod.fst).Nodup) :
    ((catalog.insert identifier handle).entries.map Prod.fst).Nodup := by
  unfold insert
  split
  · exact h
  · rename_i hnew
    have hkeys : identifier ∉ catalog.entries.map Prod.fst := by
      intro hmem
      obtain ⟨entry, hentry, rfl⟩ := List.mem_map.mp hmem
      exact hnew (by rw [contains, lookup_of_mem_entries h hentry]; rfl)
    rw [List.map_append, List.nodup_append]
    refine ⟨h, by simp, fun key hkey other hother => ?_⟩
    obtain rfl : other = identifier := by simpa using hother
    rintro rfl
    exact hkeys hkey

end Catalog

namespace RuleBook

/-- A rule has one identifier, so that it is registered once. -/
theorem nodup_handles_of_sealedAs {book : RuleBook} (hkeys : (book.catalog.entries.map Prod.fst).Nodup)
    (hsealed : ∀ {identifier handle}, (identifier, handle) ∈ book.catalog.entries →
      book.graph.SealedAs handle identifier) : book.catalog.handles.Nodup := by
  have hnames : (book.catalog.handles.map book.graph.identifier).Nodup := by
    have hmap : book.catalog.handles.map book.graph.identifier =
        (book.catalog.entries.map Prod.fst).map .ok := by
      rw [Catalog.handles, List.map_map, List.map_map]
      apply List.map_congr_left
      intro entry hentry
      exact (hsealed hentry).identifier_eq
    rw [hmap]
    exact List.Nodup.map (fun _ _ heq => Except.ok.inj heq) hkeys
  exact List.Nodup.of_map _ hnames

/-- What the catalog of a book says about its rules. -/
structure Consistent (book : RuleBook) : Prop where
  nodup_keys : (book.catalog.entries.map Prod.fst).Nodup
  /-- A registered rule is sealed with the identifier that it is registered under. -/
  sealedAs_of_mem : ∀ {identifier handle}, (identifier, handle) ∈ book.catalog.entries →
    book.graph.SealedAs handle identifier
  /-- Some rule is registered under the identifier of a sealed rule. -/
  exists_lookup : ∀ {handle identifier}, book.graph.SealedAs handle identifier →
    ∃ first, book.catalog.lookup identifier = some first
  /-- A child is registered, and before its container. -/
  child_before : ∀ {parent child}, child ∈ book.graph.childrenOf parent →
    book.catalog.position child < book.catalog.position parent
  /-- The identifier of a sealed rule stands for its content. -/
  exists_content : ∀ {handle identifier}, book.graph.SealedAs handle identifier →
    ∃ content, book.graph.contentOf handle = .ok content ∧ identifier = Identifier.ofContent content
  paired : book.graph.Paired

namespace Consistent

variable {book : RuleBook} {handle : Handle} {identifier : String}

theorem sealedAs_of_lookup (h : book.Consistent) (hlookup : book.catalog.lookup identifier = some handle) :
    book.graph.SealedAs handle identifier :=
  h.sealedAs_of_mem (Catalog.mem_entries_of_lookup hlookup)

theorem exists_sealedAs (h : book.Consistent) (hmem : handle ∈ book.catalog.handles) :
    ∃ identifier, book.graph.SealedAs handle identifier ∧
      book.catalog.lookup identifier = some handle := by
  obtain ⟨identifier, hentry⟩ := Catalog.mem_handles_iff.mp hmem
  exact ⟨identifier, h.sealedAs_of_mem hentry, Catalog.lookup_of_mem_entries h.nodup_keys hentry⟩

theorem child_mem_handles (h : book.Consistent) {parent child : Handle}
    (hchild : child ∈ book.graph.childrenOf parent) : child ∈ book.catalog.handles := by
  have hlt := h.child_before hchild
  have hle : book.catalog.position parent ≤ book.catalog.handles.length := List.idxOf_le_length
  exact Catalog.mem_handles_iff_position_lt.mpr (by omega)

theorem child_sealed (h : book.Consistent) {parent child : Handle}
    (hchild : child ∈ book.graph.childrenOf parent) : ∃ name, book.graph.SealedAs child name := by
  obtain ⟨name, hname, -⟩ := h.exists_sealedAs (h.child_mem_handles hchild)
  exact ⟨name, hname⟩

theorem nodup_handles (h : book.Consistent) : book.catalog.handles.Nodup :=
  nodup_handles_of_sealedAs h.nodup_keys h.sealedAs_of_mem

theorem length_handles_le (h : book.Consistent) : book.catalog.handles.length ≤ book.graph.size := by
  have hnodup : (book.catalog.handles.map Handle.index).Nodup :=
    List.Nodup.map (fun _ _ heq => Handle.index_inj.mp heq) h.nodup_handles
  have hsubset : book.catalog.handles.map Handle.index ⊆ List.range book.graph.size := by
    intro index hindex
    obtain ⟨handle, hhandle, rfl⟩ := List.mem_map.mp hindex
    obtain ⟨_, hsealed, -⟩ := h.exists_sealedAs hhandle
    exact List.mem_range.mpr (RuleGraph.exists_rule_iff.mp hsealed.exists_rule)
  simpa using (hnodup.subperm hsubset).length_le

/-- The order of registration ranks the rules of a consistent book. -/
theorem ranked (h : book.Consistent) : book.graph.Ranked book.catalog.position where
  le_size _ := Nat.le_trans List.idxOf_le_length h.length_handles_le
  child_lt := h.child_before
  child_exists hchild := by
    obtain ⟨_, hsealed⟩ := h.child_sealed hchild
    exact hsealed.exists_rule

theorem position_of_open (h : book.Consistent) {rule : Rule} (hrule : book.graph.rule handle = .ok rule)
    (hopen : rule.identifier = none) : book.catalog.position handle = book.catalog.handles.length := by
  apply List.idxOf_eq_length
  intro hmem
  obtain ⟨_, hsealed, -⟩ := h.exists_sealedAs hmem
  exact hsealed.not_open hrule hopen

end Consistent

theorem consistent_empty : Consistent {} where
  nodup_keys := List.nodup_nil
  sealedAs_of_mem h := by cases h
  exists_lookup h := by
    obtain ⟨_, ⟨⟩, -⟩ := h
  child_before h := by cases h
  exists_content h := by
    obtain ⟨_, ⟨⟩, -⟩ := h
  paired := RuleGraph.paired_empty

end RuleBook

end CssRules
