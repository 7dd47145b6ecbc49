import CssRules.Proofs.ZeroFree

/-! Hyphenated names read back. The hyphens that hyphenation puts in stand before small letters, so that a name
without hyphens of its own can be read off its hyphenated form, one letter ahead. -/

namespace CssRules.Text

/-- The letters of a camelCase name, read off its hyphenated form: a hyphen before a small letter stands for the
capital, and all other characters stand for themselves. -/
def camelCasedLetters : List Char → List Char
  | [] => []
  | [c] => [c]
  | c :: next :: rest =>
    if c = '-' ∧ next.isLower then next.toUpper :: camelCasedLetters rest
    else c :: camelCasedLetters (next :: rest)

/-- The camelCase name with a hyphenated form. -/
def camelCased (hyphenated : String) : String := String.ofList (camelCasedLetters hyphenated.toList)

variable {c : Char} {name : List Char}

theorem camelCasedLetters_hyphen (h : c.isLower) (rest : List Char) :
    camelCasedLetters ('-' :: c :: rest) = c.toUpper :: camelCasedLetters rest := by
  simp [camelCasedLetters, h]

theorem camelCasedLetters_cons (h : c ≠ '-') (rest : List Char) :
    camelCasedLetters (c :: rest) = c :: camelCasedLetters rest := by
  cases rest <;> simp [camelCasedLetters, h]

theorem toLower_of_isUpper (h : c.isUpper) :
    c.toLower.isLower = true ∧ c.toLower.isUpper = false ∧ c.toLower.toUpper = c := by
  have hascii : ∀ code < 0x80, (Char.ofNat code).isUpper → (Char.ofNat code).toLower.isLower = true ∧
      (Char.ofNat code).toLower.isUpper = false ∧ (Char.ofNat code).toLower.toUpper = Char.ofNat code := by decide
  exact forall_ascii (p := fun c => c.isUpper → c.toLower.isLower = true ∧ c.toLower.isUpper = false ∧
    c.toLower.toUpper = c) hascii (toNat_lt_of_isUpper h) h

/-- What one letter is hyphenated to is read as that letter, whatever follows. -/
theorem camelCasedLetters_hyphenatedLetter (h : c ≠ '-') (rest : List Char) :
    camelCasedLetters (hyphenatedLetter c ++ rest) = c :: camelCasedLetters rest := by
  unfold hyphenatedLetter
  split
  · rename_i hupper
    obtain ⟨hlower, -, hback⟩ := toLower_of_isUpper hupper
    exact (camelCasedLetters_hyphen hlower rest).trans (by rw [hback])
  · exact camelCasedLetters_cons h rest

theorem camelCasedLetters_hyphenatedLetters (h : '-' ∉ name) :
    camelCasedLetters (hyphenatedLetters name) = name := by
  induction name with
  | nil => rfl
  | cons c rest ih =>
      obtain ⟨hc, hrest⟩ := not_or.mp (mt List.mem_cons.mpr h)
      rw [hyphenatedLetters_cons, camelCasedLetters_hyphenatedLetter (Ne.symm hc), ih hrest]

theorem camelCased_hyphenated {name : String} (h : '-' ∉ name.toList) : camelCased (hyphenated name) = name := by
  rw [camelCased, toList_hyphenated, camelCasedLetters_hyphenatedLetters h, String.ofList_toList]

theorem isUpper_of_mem_hyphenatedLetters (h : c ∈ hyphenatedLetters name) : c.isUpper = false := by
  obtain ⟨letter, -, hc⟩ := List.mem_flatMap.mp h
  unfold hyphenatedLetter at hc
  split at hc
  · rename_i hupper
    rcases List.mem_cons.mp hc with rfl | hlower
    · rfl
    · rw [List.mem_singleton.mp hlower]
      exact (toLower_of_isUpper hupper).2.1
  · rename_i hupper
    rw [List.mem_singleton.mp hc]
    exact eq_false_of_ne_true hupper

/-- A name without capitals is hyphenated already. -/
theorem hyphenatedLetters_of_no_upper (h : ∀ c ∈ name, c.isUpper = false) : hyphenatedLetters name = name := by
  induction name with
  | nil => rfl
  | cons c rest ih =>
      have hc : hyphenatedLetter c = [c] := by simp [hyphenatedLetter, h c List.mem_cons_self]
      rw [hyphenatedLetters_cons, hc, ih fun other hmem => h other (List.mem_cons_of_mem _ hmem)]
      rfl

/-- **Hyphenation keeps names apart.** A name without hyphens is read back from its hyphenated form, so that
declarations with such names have the same property only if they have the same name. A name can be hyphenated in
parts. The outcome has no capitals, and hyphenating it again changes nothing. -/
theorem hyphenated_faithful :
    (∀ name, '-' ∉ name.toList → camelCased (hyphenated name) = name) ∧
    (∀ declaration other : Declaration, '-' ∉ declaration.name.toList → '-' ∉ other.name.toList →
      declaration.property = other.property → declaration.name = other.name) ∧
    (∀ left right, hyphenated (left ++ right) = hyphenated left ++ hyphenated right) ∧
    (∀ name, ∀ c ∈ (hyphenated name).toList, c.isUpper = false) ∧
    ∀ name, hyphenated (hyphenated name) = hyphenated name := by
  have hcapitals (name : String) : ∀ c ∈ (hyphenated name).toList, c.isUpper = false := by
    intro c hc
    rw [toList_hyphenated] at hc
    exact isUpper_of_mem_hyphenatedLetters hc
  refine ⟨fun name => camelCased_hyphenated, fun declaration other hname hother hproperty => ?_,
    fun left right => ?_, hcapitals, fun name => ?_⟩
  · calc declaration.name = camelCased declaration.property := (camelCased_hyphenated hname).symm
      _ = camelCased other.property := by rw [hproperty]
      _ = other.name := camelCased_hyphenated hother
  · rw [hyphenated, hyphenated, hyphenated, String.toList_append, hyphenatedLetters_append, String.ofList_append]
  · apply String.toList_injective
    rw [toList_hyphenated, hyphenatedLetters_of_no_upper (hcapitals name)]

/-- A leading capital and a run of capitals. -/
theorem hyphenated_faithful_vendor :
    '-' ∉ "WebkitSVGFilter".toList ∧ hyphenated "WebkitSVGFilter" = "-webkit-s-v-g-filter" ∧
      camelCased "-webkit-s-v-g-filter" = "WebkitSVGFilter" := by
  have hname : '-' ∉ "WebkitSVGFilter".toList := by decide
  have hhyphenated : hyphenated "WebkitSVGFilter" = "-webkit-s-v-g-filter" := by decide
  exact ⟨hname, hhyphenated, hhyphenated ▸ hyphenated_faithful.1 "WebkitSVGFilter" hname⟩

end CssRules.Text
