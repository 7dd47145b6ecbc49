import CssRules.Proofs.Refusal
import CssRules.Proofs.Structure

/-! The form of identifiers. A word is written as the one canonical numeral of its value, and each canonical numeral
of a word is written for it. So an identifier is a letter and such a numeral, and two identifiers are equal exactly
if the fingerprints are that they are made of. -/

namespace CssRules

namespace Number

/-- The digits of numerals to the base 36. -/
def isBase36Digit (c : Char) : Bool := c.isDigit || c.isLower

/-- A canonical numeral to the base 36. -/
structure IsNumeral (digits : List Char) : Prop where
  ne_nil : digits ≠ []
  isBase36Digit : ∀ digit ∈ digits, isBase36Digit digit = true
  /-- No numeral but that of zero begins with a zero. -/
  leading : digits.head? = some '0' → digits = ['0']

section Digits

variable {digit : Char} {value : Nat}

theorem isBase36Digit_iff : isBase36Digit digit = true ↔
    (48 ≤ digit.toNat ∧ digit.toNat ≤ 57) ∨ (97 ≤ digit.toNat ∧ digit.toNat ≤ 122) := by
  have hlower : digit.isLower = true ↔ 97 ≤ digit.toNat ∧ digit.toNat ≤ 122 :=
    Bool.and_eq_true_iff.trans (and_congr decide_eq_true_iff decide_eq_true_iff)
  rw [isBase36Digit, Bool.or_eq_true, Char.isDigit_iff_toNat, hlower]
  rfl

theorem base36DigitValue_lt (h : isBase36Digit digit = true) : base36DigitValue digit < 36 := by
  rw [isBase36Digit_iff] at h
  unfold base36DigitValue
  split <;> omega

theorem base36Digit_base36DigitValue (h : isBase36Digit digit = true) :
    base36Digit (base36DigitValue digit) = digit := by
  rw [isBase36Digit_iff] at h
  have hcode : (if base36DigitValue digit < 10 then 48 + base36DigitValue digit
      else 87 + base36DigitValue digit) = digit.toNat := by
    unfold base36DigitValue
    split <;> split <;> omega
  rw [base36Digit, hcode, Char.ofNat_toNat]

theorem isBase36Digit_base36Digit (h : value < 36) : isBase36Digit (base36Digit value) = true := by
  have htable : ∀ value < 36, isBase36Digit (base36Digit value) = true := by decide
  exact htable value h

theorem eq_zero_of_base36Digit (h : value < 36) (hzero : base36Digit value = '0') : value = 0 := by
  have htable : ∀ value < 36, base36Digit value = '0' → value = 0 := by decide
  exact htable value h hzero

end Digits

section Written

variable {places n : Nat}

theorem length_base36Digits_le (places n : Nat) : (base36Digits places n).length ≤ places := by
  induction places generalizing n with
  | zero => exact Nat.le_refl 0
  | succ places ih =>
      unfold base36Digits
      split
      · simp
      · simpa using ih (n / 36)

theorem base36Digits_ne_nil (hplaces : places ≠ 0) (n : Nat) : base36Digits places n ≠ [] := by
  cases places with
  | zero => exact absurd rfl hplaces
  | succ places =>
      unfold base36Digits
      split <;> simp

/-- The first digit is zero only for zero. What is above 36 has a smaller number before its last digit. -/
theorem eq_zero_of_head?_base36Digits (hfits : n < Nat.pow 36 places)
    (hhead : (base36Digits places n).head? = some '0') : n = 0 := by
  induction places generalizing n with
  | zero => exact Nat.lt_one_iff.mp hfits
  | succ places ih =>
      unfold base36Digits at hhead
      split at hhead
      · rename_i hdigit
        exact eq_zero_of_base36Digit hdigit (by simpa using hhead)
      · rename_i hlarge
        have hhigh : n / 36 < Nat.pow 36 places := (Nat.div_lt_iff_lt_mul (by decide)).mpr hfits
        have hplaces : places ≠ 0 := by
          rintro rfl
          have : n / 36 < 1 := hhigh
          omega
        rw [List.head?_append_of_ne_nil _ (base36Digits_ne_nil hplaces _)] at hhead
        have := ih hhigh hhead
        omega

theorem isNumeral_base36Digits (hplaces : places ≠ 0) (hfits : n < Nat.pow 36 places) :
    IsNumeral (base36Digits places n) where
  ne_nil := base36Digits_ne_nil hplaces n
  isBase36Digit digit hmem := by
    obtain ⟨value, hvalue, rfl⟩ := exists_of_mem_base36Digits hmem
    exact isBase36Digit_base36Digit hvalue
  leading hhead := by
    obtain rfl := eq_zero_of_head?_base36Digits hfits hhead
    obtain ⟨places, rfl⟩ := Nat.exists_eq_succ_of_ne_zero hplaces
    rfl

end Written

section Canonical

variable {digits : List Char}

/-- The digits before the last one are a numeral too, and not that of zero. -/
theorem IsNumeral.before_last {digit : Char} (h : IsNumeral (digits ++ [digit])) (hne : digits ≠ []) :
    IsNumeral digits ∧ digits ≠ ['0'] := by
  have hhead : digits.head? ≠ some '0' := by
    intro hzero
    rw [← List.head?_append_of_ne_nil _ hne] at hzero
    have hlength := congrArg List.length (h.leading hzero)
    rw [List.length_append] at hlength
    exact hne (List.length_eq_zero_iff.mp (by simpa using hlength))
  refine ⟨⟨hne, fun digit hmem => h.isBase36Digit digit (List.mem_append_left _ hmem),
    fun hzero => absurd hzero hhead⟩, ?_⟩
  rintro rfl
  exact hhead rfl

theorem IsNumeral.readBase36_pos (h : IsNumeral digits) (hzero : digits ≠ ['0']) : 0 < readBase36 digits := by
  induction digits using List.reverseRecOn with
  | nil => exact absurd rfl h.ne_nil
  | append_singleton digits digit ih =>
      rw [readBase36_concat]
      by_cases hne : digits = []
      · have hdigit := base36Digit_base36DigitValue (h.isBase36Digit digit (by simp))
        have hvalue : base36DigitValue digit ≠ 0 := by
          intro hnone
          rw [hnone] at hdigit
          exact hzero (by rw [hne, ← hdigit]; rfl)
        omega
      · obtain ⟨hnumeral, hnonzero⟩ := h.before_last hne
        have := ih hnumeral hnonzero
        omega

/-- Writing the number of a numeral with enough places gives back the numeral. -/
theorem IsNumeral.base36Digits_readBase36 (h : IsNumeral digits) {places : Nat} (hplaces : places ≠ 0)
    (hfits : readBase36 digits < Nat.pow 36 places) : base36Digits places (readBase36 digits) = digits := by
  -- The last digit is the remainder, and all digits before it make up the quotient.
  induction digits using List.reverseRecOn generalizing places with
  | nil => exact absurd rfl h.ne_nil
  | append_singleton digits digit ih =>
      obtain ⟨places, rfl⟩ := Nat.exists_eq_succ_of_ne_zero hplaces
      have hdigit := h.isBase36Digit digit (by simp)
      have hvalue := base36DigitValue_lt hdigit
      rw [readBase36_concat] at hfits ⊢
      by_cases hne : digits = []
      · subst hne
        have hread : 36 * readBase36 [] + base36DigitValue digit = base36DigitValue digit := by
          simp [readBase36]
        rw [hread, base36Digits, if_pos hvalue, base36Digit_base36DigitValue hdigit]
        rfl
      · obtain ⟨hnumeral, hnonzero⟩ := h.before_last hne
        have hpos := hnumeral.readBase36_pos hnonzero
        have hquotient : (36 * readBase36 digits + base36DigitValue digit) / 36 = readBase36 digits := by omega
        have hremainder : (36 * readBase36 digits + base36DigitValue digit) % 36 = base36DigitValue digit := by omega
        have hhigh : readBase36 digits < Nat.pow 36 places := by
          have : 36 * readBase36 digits + base36DigitValue digit < Nat.pow 36 places * 36 := hfits
          omega
        have hmore : places ≠ 0 := by
          rintro rfl
          have : readBase36 digits < 1 := hhigh
          omega
        rw [base36Digits, if_neg (by omega), hquotient, hremainder, ih hnumeral hmore hhigh,
          base36Digit_base36DigitValue hdigit]

end Canonical

theorem isNumeral_base36 (word : UInt64) : IsNumeral (base36 word).toList := by
  rw [toList_base36]
  exact isNumeral_base36Digits (by decide) (word_lt_base36_bound word)

theorem length_base36_le (word : UInt64) : (base36 word).length ≤ 13 := by
  rw [← String.length_toList, toList_base36]
  exact length_base36Digits_le 13 word.toNat

theorem head?_base36_iff (word : UInt64) : (base36 word).toList.head? = some '0' ↔ word = 0 := by
  constructor
  · intro hhead
    rw [toList_base36] at hhead
    exact UInt64.toNat_inj.mp (eq_zero_of_head?_base36Digits (word_lt_base36_bound word) hhead)
  · rintro rfl
    decide

theorem base36_readBase36 {numeral : String} (h : IsNumeral numeral.toList)
    (hfits : readBase36 numeral.toList < UInt64.size) : base36 (.ofNat (readBase36 numeral.toList)) = numeral := by
  have hword : (UInt64.ofNat (readBase36 numeral.toList)).toNat = readBase36 numeral.toList :=
    UInt64.toNat_ofNat_of_lt hfits
  have hbound := word_lt_base36_bound (.ofNat (readBase36 numeral.toList))
  apply String.toList_injective
  rw [toList_base36]
  rw [hword] at hbound ⊢
  exact h.base36Digits_readBase36 (by decide) hbound

end Number

namespace Identifier

open Number

/-- The form of an identifier: a letter and a canonical numeral with at most thirteen digits. -/
structure Formed (name : String) : Prop where
  exists_numeral : ∃ numeral : String, name = "r" ++ numeral ∧ IsNumeral numeral.toList ∧ numeral.length ≤ 13
  zeroFree : ZeroFree name

theorem formed_ofFingerprint (fingerprint : Fingerprint) : Formed (ofFingerprint fingerprint) where
  exists_numeral := ⟨base36 fingerprint, rfl, isNumeral_base36 fingerprint, length_base36_le fingerprint⟩
  zeroFree := zeroFree_ofFingerprint fingerprint

theorem ofFingerprint_inj {fingerprint other : Fingerprint} :
    ofFingerprint fingerprint = ofFingerprint other ↔ fingerprint = other :=
  ⟨ofFingerprint_injective, congrArg ofFingerprint⟩

end Identifier

namespace RuleGraph

/-- Every identifier is made of a fingerprint, in the form of identifiers. -/
def NamesFormed (graph : RuleGraph) : Prop :=
  ∀ handle name, graph.identifier handle = .ok name →
    Identifier.Formed name ∧ ∃ fingerprint, name = Identifier.ofFingerprint fingerprint

theorem NamesHashed.namesFormed {graph : RuleGraph} (h : graph.NamesHashed) : graph.NamesFormed := by
  intro handle name hname
  obtain ⟨fingerprint, rfl⟩ := h.identifier hname
  exact ⟨Identifier.formed_ofFingerprint fingerprint, fingerprint, rfl⟩

theorem exists_rule_of_contentOf {graph : RuleGraph} {handle : Handle} {content : String}
    (h : graph.contentOf handle = .ok content) : ∃ rule, graph.rule handle = .ok rule := by
  cases hrule : graph.rule handle with
  | error error => simp [contentOf, hrule, bind, Except.bind] at h
  | ok rule => exact ⟨rule, rfl⟩

end RuleGraph

/-- The identifiers of rules are equal exactly if the hashes of their contents are. -/
theorem RuleBook.Consistent.identifier_eq_iff {book : RuleBook} (h : book.Consistent) {handle other : Handle}
    {content content' : String} (hcontent : book.graph.contentOf handle = .ok content)
    (hcontent' : book.graph.contentOf other = .ok content') :
    book.graph.identifier handle = book.graph.identifier other ↔
      Fingerprint.ofText content = Fingerprint.ofText content' := by
  have hname {handle : Handle} {content : String} (hcontent : book.graph.contentOf handle = .ok content) :
      book.graph.identifier handle = .ok (Identifier.ofContent content) := by
    obtain ⟨rule, hrule⟩ := RuleGraph.exists_rule_of_contentOf hcontent
    obtain ⟨same, hsame, hidentifier⟩ := h.current hrule
    rwa [Except.ok.inj (hsame.symm.trans hcontent)] at hidentifier
  rw [hname hcontent, hname hcontent', Except.ok.injEq]
  exact Identifier.ofFingerprint_inj

namespace Publisher

open Number

variable {σ : Type} [Sheet σ] {start : Publisher σ} {sheet : σ}

/-- **Identifiers are canonical numerals of fingerprints.** A word is read back from its numeral, which is canonical
and has at most thirteen digits. Each canonical numeral of a word is what is written for the word that is read from
it. So words with the same numeral are equal, and fingerprints with the same identifier as well. In every book that
is assembled by hand and in the book of every publisher the identifiers have this form. In a publisher two rules
have the same identifier exactly if the hashes of their contents are the same. -/
theorem identifiers_are_numerals (hstart : withSheet sheet = .ok start) :
    (∀ word, readBase36 (base36 word).toList = word.toNat ∧ IsNumeral (base36 word).toList ∧
      (base36 word).length ≤ 13 ∧ ((base36 word).toList.head? = some '0' ↔ word = 0)) ∧
    (∀ numeral : String, IsNumeral numeral.toList → readBase36 numeral.toList < UInt64.size →
      base36 (.ofNat (readBase36 numeral.toList)) = numeral) ∧
    Function.Injective base36 ∧
    (∀ fingerprint other, Identifier.ofFingerprint fingerprint = Identifier.ofFingerprint other ↔
      fingerprint = other) ∧
    (∀ operations, (RuleBook.assemble operations).graph.NamesFormed) ∧
    ∀ calls, (start.run calls).book.graph.NamesFormed ∧
      ∀ handle other content content', (start.run calls).book.graph.contentOf handle = .ok content →
        (start.run calls).book.graph.contentOf other = .ok content' →
          ((start.run calls).identifier handle = (start.run calls).identifier other ↔
            Fingerprint.ofText content = Fingerprint.ofText content') := by
  refine ⟨fun word => ?_, fun _ => base36_readBase36, fun _ _ => base36_injective,
    fun _ _ => Identifier.ofFingerprint_inj, fun operations => ?_, fun calls => ⟨?_, fun _ _ _ _ => ?_⟩⟩
  · exact ⟨readBase36_base36 word, isNumeral_base36 word, length_base36_le word, head?_base36_iff word⟩
  · have hnames : (RuleBook.assemble operations).graph.NamesHashed := RuleBook.namesHashed_assemble operations
    exact hnames.namesFormed
  · have hnames : (start.run calls).book.graph.NamesHashed := namesHashed_run hstart calls
    exact hnames.namesFormed
  · exact (consistent_run hstart calls).identifier_eq_iff

/-- The greatest word, a finished rule and an empty one. -/
theorem identifiers_are_numerals_nest :
    withSheet ({} : AbsentSheet) = .ok offline ∧ IsNumeral "3w5e11264sgsf".toList ∧
      base36 0xFFFFFFFFFFFFFFFF = "3w5e11264sgsf" ∧
      (∃ name, (offline.run nestCalls).identifier ⟨0⟩ = .ok name ∧ Identifier.Formed name) ∧
      (offline.run nestCalls).identifier ⟨0⟩ ≠ (offline.run nestCalls).identifier ⟨1⟩ := by
  have hstart : withSheet ({} : AbsentSheet) = .ok offline := rfl
  obtain ⟨-, hwritten, -, -, -, hrun⟩ := identifiers_are_numerals hstart
  obtain ⟨hformed, hnames⟩ := hrun nestCalls
  have hnumeral : IsNumeral "3w5e11264sgsf".toList :=
    ⟨by decide, List.all_eq_true.mp (by decide), by decide⟩
  have hread : readBase36 "3w5e11264sgsf".toList = 0xFFFFFFFFFFFFFFFF := by decide
  have hfits : readBase36 "3w5e11264sgsf".toList < UInt64.size := by
    rw [hread]
    exact Nat.lt_add_one _
  have hfinished : (offline.run nestCalls).identifier ⟨0⟩ = .ok (Identifier.ofContent "f:box\x00") := by
    decide +kernel
  have hcontent : (offline.run nestCalls).book.graph.contentOf ⟨0⟩ = .ok "f:box\x00" := by decide +kernel
  have hcontent' : (offline.run nestCalls).book.graph.contentOf ⟨1⟩ = .ok "" := by decide +kernel
  refine ⟨hstart, hnumeral, ?_, ⟨_, hfinished, (hformed _ _ hfinished).1⟩, fun hsame => ?_⟩
  · have hgreatest := hwritten "3w5e11264sgsf" hnumeral hfits
    rwa [hread] at hgreatest
  · exact absurd ((hnames _ _ _ _ hcontent hcontent').mp hsame) (by decide +kernel)

end Publisher

end CssRules
