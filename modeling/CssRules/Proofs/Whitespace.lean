import CssRules.Declaration

/-! Texts without their white space. What counts as white space is left open, since style sheets and Unicode do not
agree on it. Taking it out of a text is done part by part, and takes away whatever stands between the parts. -/

namespace CssRules.Text

/-- The code points with the Unicode property White_Space. -/
def whitespaceCodes : List Nat :=
  [0x09, 0x0A, 0x0B, 0x0C, 0x0D, 0x20, 0x85, 0xA0, 0x1680, 0x2000, 0x2001, 0x2002, 0x2003, 0x2004, 0x2005, 0x2006,
    0x2007, 0x2008, 0x2009, 0x200A, 0x2028, 0x2029, 0x202F, 0x205F, 0x3000]

def isWhitespace (c : Char) : Bool := whitespaceCodes.contains c.toNat

variable {blank : Char → Bool}

/-- The text has no other characters than those of the kind. -/
def MadeOf (kind : Char → Bool) (text : String) : Prop := ∀ c ∈ text.toList, kind c = true

instance (kind : Char → Bool) (text : String) : Decidable (MadeOf kind text) :=
  List.decidableBAll (fun c => kind c = true) text.toList

theorem madeOf_append {kind : Char → Bool} {left right : String} :
    MadeOf kind (left ++ right) ↔ MadeOf kind left ∧ MadeOf kind right := by
  simp [MadeOf, or_imp, forall_and]

/-- The text without its white space. -/
def condense (blank : Char → Bool) (text : String) : String :=
  String.ofList (text.toList.filter fun c => !blank c)

@[simp] theorem toList_condense (text : String) :
    (condense blank text).toList = text.toList.filter fun c => !blank c := by
  simp [condense]

@[simp] theorem condense_append (left right : String) :
    condense blank (left ++ right) = condense blank left ++ condense blank right := by
  simp [condense]

theorem condense_of_blank {text : String} (h : MadeOf blank text) : condense blank text = "" := by
  have hnone : text.toList.filter (fun c => !blank c) = [] :=
    List.filter_eq_nil_iff.mpr fun c hc => by simp [h c hc]
  rw [condense, hnone, String.ofList_nil]

/-- White space at the beginning does not show. -/
theorem condense_lead {lead : String} (h : MadeOf blank lead) (text : String) :
    condense blank (lead ++ text) = condense blank text := by
  rw [condense_append, condense_of_blank h, String.empty_append]

theorem condense_join (texts : List String) :
    condense blank (String.join texts) = String.join (texts.map (condense blank)) := by
  induction texts with
  | nil => rfl
  | cons text rest ih => rw [List.map_cons, String.join_cons, String.join_cons, condense_append, ih]

/-- White space between texts does not show. -/
theorem condense_intercalate {separator : String} (h : MadeOf blank separator) (texts : List String) :
    condense blank (separator.intercalate texts) = condense blank (String.join texts) := by
  induction texts with
  | nil => rfl
  | cons text rest ih =>
      cases rest with
      | nil => simp
      | cons next rest =>
          rw [String.intercalate_cons_cons, String.join_cons, String.append_assoc, condense_append,
            condense_lead h, ih, ← condense_append]

/-- White space before each text does not show. -/
theorem condense_join_map {lead : String} (h : MadeOf blank lead) (texts : List String) :
    condense blank (String.join (texts.map (lead ++ ·))) = condense blank (String.join texts) := by
  rw [condense_join, condense_join, List.map_map]
  exact congrArg String.join (List.map_congr_left fun text _ => condense_lead h text)

end CssRules.Text
