import CssRules.Piece

/-! Texts without the zero character. Whatever is written for the pieces of a rule, a selector fragment
or a declaration, contains a zero character only where a text that was handed in contains one: none
comes in by hyphens, capitals, numbers, separators or brackets. -/

namespace CssRules

/-- A text without the zero character, which ends the fields of a content. -/
def ZeroFree (text : String) : Prop := '\x00' ∉ text.toList

instance (text : String) : Decidable (ZeroFree text) := inferInstanceAs (Decidable (_ ∉ _))

theorem zeroFree_append {left right : String} :
    ZeroFree (left ++ right) ↔ ZeroFree left ∧ ZeroFree right := by
  simp [ZeroFree, not_or]

theorem zeroFree_intercalate {separator : String} {texts : List String} (hseparator : ZeroFree separator)
    (htexts : ∀ text ∈ texts, ZeroFree text) : ZeroFree (separator.intercalate texts) := by
  induction texts with
  | nil => simp [ZeroFree]
  | cons text rest ih =>
      have hrest := ih fun other hother => htexts other (List.mem_cons_of_mem _ hother)
      cases rest with
      | nil => simpa using htexts text List.mem_cons_self
      | cons next rest =>
          rw [String.intercalate_cons_cons, zeroFree_append, zeroFree_append]
          exact ⟨⟨htexts text List.mem_cons_self, hseparator⟩, hrest⟩

namespace Text

/-- What holds of all codes below U+0080 holds of the characters there. -/
theorem forall_ascii {p : Char → Prop} (h : ∀ code < 0x80, p (Char.ofNat code)) {c : Char} (hc : c.toNat < 0x80) :
    p c := by
  have := h c.toNat hc
  rwa [Char.ofNat_toNat] at this

theorem toNat_lt_of_isUpper {c : Char} (h : c.isUpper) : c.toNat < 0x80 := by
  have hbounds : 'A'.val ≤ c.val ∧ c.val ≤ 'Z'.val := of_decide_eq_true h
  exact Nat.lt_of_le_of_lt (UInt32.le_iff_toNat_le.mp hbounds.2) (by decide)

theorem toLower_ne_zero {c : Char} (hupper : c.isUpper) : c.toLower ≠ '\x00' := by
  have hascii : ∀ code < 0x80, (Char.ofNat code).isUpper → (Char.ofNat code).toLower ≠ '\x00' := by decide
  exact forall_ascii (p := fun c => c.isUpper → c.toLower ≠ '\x00') hascii (toNat_lt_of_isUpper hupper) hupper

theorem toUpper_ne_zero {c : Char} (hc : c.toNat < 0x80) (hzero : c ≠ '\x00') : c.toUpper ≠ '\x00' := by
  have hascii : ∀ code < 0x80, Char.ofNat code ≠ '\x00' → (Char.ofNat code).toUpper ≠ '\x00' := by decide
  exact forall_ascii (p := fun c => c ≠ '\x00' → c.toUpper ≠ '\x00') hascii hc hzero

theorem zeroFree_hyphenated {name : String} (h : ZeroFree name) : ZeroFree (hyphenated name) := by
  unfold ZeroFree at h ⊢
  rw [toList_hyphenated, hyphenatedLetters, List.mem_flatMap]
  intro hzero
  obtain ⟨c, hc, hmem⟩ := hzero
  unfold hyphenatedLetter at hmem
  split at hmem
  · rename_i hupper
    simp only [List.mem_cons, List.not_mem_nil, or_false] at hmem
    rcases hmem with hhyphen | hlower
    · exact absurd hhyphen (by decide)
    · exact toLower_ne_zero hupper hlower.symm
  · rw [List.mem_singleton] at hmem
    exact h (hmem ▸ hc)

/-- A run ends before the codes that are no characters. -/
theorem upper_ne_zero {run : CaseRun} (hrun : run ∈ caseRuns) {code : Nat} (hcode : run.covers code) :
    run.upper code ≠ '\x00' := by
  have htable : ∀ run ∈ caseRuns, 0 < run.target ∧
      (run.target + (run.last - run.first) < 0xD800 ∨
        0xDFFF < run.target ∧ run.target + (run.last - run.first) < 0x110000) := by
    decide +kernel
  obtain ⟨htarget, hrange⟩ := htable run hrun
  simp only [CaseRun.covers, Bool.and_eq_true, decide_eq_true_eq] at hcode
  have hvalid : Nat.isValidChar (run.target + (code - run.first)) := by
    simp only [Nat.isValidChar]
    omega
  intro h
  have hnat := congrArg Char.toNat h
  rw [CaseRun.upper, Char.ofNat, dif_pos hvalid] at hnat
  change run.target + (code - run.first) = 0 at hnat
  omega

theorem zero_not_mem_uppercaseOf {c : Char} (hzero : c ≠ '\x00') : '\x00' ∉ uppercaseOf c := by
  have htable : ∀ entry ∈ expandingLetters, ∀ letter ∈ entry.2, Char.ofNat letter ≠ '\x00' := by
    decide +kernel
  unfold uppercaseOf
  split
  · rename_i hc
    simpa using (toUpper_ne_zero hc hzero).symm
  · split
    · rename_i run hrun
      have hcovers : run.covers c.toNat = true := by
        simpa using List.find?_some hrun
      simpa using (upper_ne_zero (List.mem_of_find?_eq_some hrun) hcovers).symm
    · split
      · rename_i letters hletters
        obtain ⟨left, right, hsplit, -⟩ := List.lookup_eq_some_iff.mp hletters
        have hentry : (c.toNat, letters) ∈ expandingLetters := by simp [hsplit]
        simp only [List.mem_map, not_exists, not_and]
        exact fun letter hletter => htable _ hentry letter hletter
      · simpa using hzero.symm

theorem zeroFree_uppercase {text : String} (h : ZeroFree text) : ZeroFree (uppercase text) := by
  unfold ZeroFree at h ⊢
  rw [toList_uppercase, List.mem_flatMap]
  intro hzero
  obtain ⟨c, hc, hmem⟩ := hzero
  exact zero_not_mem_uppercaseOf (fun hzero => h (hzero ▸ hc)) hmem

end Text

namespace Number

theorem zero_not_mem_toDigits (n : Nat) : '\x00' ∉ Nat.toDigits 10 n := by
  intro hmem
  have hdigit := Nat.isDigit_of_mem_toDigits (by decide) (by decide) hmem
  exact absurd hdigit (by decide)

theorem zero_not_mem_plain (decimal : Decimal) : '\x00' ∉ decimal.plain := by
  have hdigits := zero_not_mem_toDigits decimal.digits
  simp only [Decimal.plain]
  split
  · simp [hdigits]
  · split
    · have htake (i : Nat) : '\x00' ∉ (Nat.toDigits 10 decimal.digits).take i :=
        fun hmem => hdigits (List.mem_of_mem_take hmem)
      have hdrop (i : Nat) : '\x00' ∉ (Nat.toDigits 10 decimal.digits).drop i :=
        fun hmem => hdigits (List.mem_of_mem_drop hmem)
      simp [htake, hdrop]
    · simp [hdigits]

theorem zeroFree_signed {negative : Bool} {text : String} (h : ZeroFree text) :
    ZeroFree (signed negative text) := by
  unfold signed
  split
  · exact zeroFree_append.mpr ⟨by decide, h⟩
  · exact h

theorem zeroFree_text (x : Float) : ZeroFree (text x) := by
  unfold text Reading.text
  split
  · decide
  · exact zeroFree_signed (by decide)
  · refine zeroFree_signed ?_
    split
    · decide
    · simpa [ZeroFree] using zero_not_mem_plain _

end Number

namespace Value

mutual

/-- The texts that a value was made from. -/
def strings : Value → List String
  | .text content => [content]
  | .number _ => []
  | .measure _ _ => []
  | .call name arguments => name :: stringsAll arguments
  | .layer items => stringsAll items

def stringsAll : List Value → List String
  | [] => []
  | value :: rest => value.strings ++ stringsAll rest

end

theorem zeroFree_callText {name : String} {arguments : List String} (hname : ZeroFree name)
    (harguments : ∀ text ∈ arguments, ZeroFree text) : ZeroFree (callText name arguments) := by
  simp only [callText, zeroFree_append]
  exact ⟨⟨⟨Text.zeroFree_hyphenated hname, by decide⟩,
    zeroFree_intercalate (by decide) harguments⟩, by decide⟩

mutual

theorem zeroFree_render :
    ∀ value : Value, (∀ text ∈ value.strings, ZeroFree text) → ZeroFree value.render
  | .text content, h => by simpa [render, strings] using h
  | .number x, _ => by
      rw [render]
      exact Number.zeroFree_text x
  | .measure x dimension, _ => by
      rw [render, zeroFree_append]
      exact ⟨Number.zeroFree_text x, by cases dimension <;> decide⟩
  | .call name arguments, h => by
      rw [render]
      refine zeroFree_callText (h name (by simp [strings])) ?_
      exact zeroFree_renderAll arguments fun text htext => h text (by simp [strings, htext])
  | .layer items, h => by
      rw [render]
      refine zeroFree_intercalate (by decide) ?_
      exact zeroFree_renderAll items fun text htext => h text (by simpa [strings] using htext)

theorem zeroFree_renderAll :
    ∀ values : List Value, (∀ text ∈ stringsAll values, ZeroFree text) →
      ∀ text ∈ renderAll values, ZeroFree text
  | [], _ => by simp [renderAll]
  | value :: rest, h => by
      intro text htext
      rw [renderAll] at htext
      rcases List.mem_cons.mp htext with rfl | htext
      · exact zeroFree_render value fun other hother => h other (by simp [stringsAll, hother])
      · exact zeroFree_renderAll rest (fun other hother => h other (by simp [stringsAll, hother]))
          text htext

end

end Value

/-- The texts that a declaration was made from. -/
def Declaration.strings (declaration : Declaration) : List String :=
  declaration.name :: Value.stringsAll declaration.values

theorem Declaration.zeroFree_render {declaration : Declaration}
    (h : ∀ text ∈ declaration.strings, ZeroFree text) : ZeroFree declaration.render := by
  have hvalues : ∀ text ∈ Value.renderAll declaration.values, ZeroFree text :=
    Value.zeroFree_renderAll _ fun text htext => h text (List.mem_cons_of_mem _ htext)
  have hseparator : ZeroFree declaration.separator := by
    unfold separator
    split <;> decide
  rw [Value.renderAll_eq_map] at hvalues
  simp only [render, property, valueText, zeroFree_append]
  exact ⟨⟨⟨Text.zeroFree_hyphenated (h _ List.mem_cons_self), by decide⟩,
    zeroFree_intercalate hseparator hvalues⟩, by decide⟩

namespace Piece

/-- The texts that a piece was made from. -/
def strings : Piece → List String
  | .index _ => []
  | .literal text => [text]
  | .nested identifier => [identifier]
  | .declaration content => content.strings
  | .function name => [name]

theorem zeroFree_indexFragment (n : Int64) : ZeroFree (indexFragment n) := by
  have hnat (n : Nat) : ZeroFree (toString n) := by
    simpa [ZeroFree] using Number.zero_not_mem_toDigits n
  have hint (n : Int) : ZeroFree (toString n) := by
    cases n with
    | ofNat n => exact hnat n
    | negSucc n => exact zeroFree_append.mpr ⟨by decide, hnat (n + 1)⟩
  unfold indexFragment
  split
  · exact zeroFree_append.mpr ⟨zeroFree_append.mpr ⟨by decide, hnat _⟩, by decide⟩
  · exact zeroFree_append.mpr ⟨zeroFree_append.mpr ⟨by decide, hint _⟩, by decide⟩

theorem zeroFree_functionFragment {name : String} (h : ZeroFree name) :
    ZeroFree (functionFragment name) :=
  zeroFree_append.mpr ⟨by decide, Text.zeroFree_uppercase h⟩

end Piece

end CssRules
