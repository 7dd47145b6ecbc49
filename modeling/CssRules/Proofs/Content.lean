import CssRules.Identifier
import CssRules.Proofs.ZeroFree
import Mathlib.Data.List.Infix

/-! Reading the content of an identifier back. A content is a row of fields, each with a letter for
its kind and a zero character as its end, and the kinds stand in a fixed order. A text that has a zero
character with the start of a possible next field after it forges that field. Without forged fields a
content can be read back; with them it is also the content of other lists of texts. -/

namespace CssRules.Identifier

/-- The kinds of the fields of a content. -/
inductive Kind where
  | fragment
  | declaration
  | child
  deriving DecidableEq, Repr

namespace Kind

def letter : Kind → Char
  | .fragment => 'f'
  | .declaration => 'd'
  | .child => 'c'

/-- The place of a kind in the order of the fields. -/
def place : Kind → Nat
  | .fragment => 0
  | .declaration => 1
  | .child => 2

/-- What a field of the kind begins with. -/
def tag (kind : Kind) : List Char := [kind.letter, ':']

/-- The kind with the given letter, if a field of that kind may follow one of this kind. -/
def next? (kind : Kind) (letter : Char) : Option Kind :=
  [fragment, declaration, child].find? fun next => next.letter == letter && kind.place ≤ next.place

theorem letter_injective {kind kind' : Kind} (h : kind.letter = kind'.letter) : kind = kind' := by
  cases kind <;> cases kind' <;> simp_all [letter]

theorem next?_eq_some_iff {kind next : Kind} {letter : Char} :
    kind.next? letter = some next ↔ next.letter = letter ∧ kind.place ≤ next.place := by
  constructor
  · intro h
    simpa using List.find?_some h
  · rintro ⟨rfl, h⟩
    cases kind <;> cases next <;> first | rfl | simp [place] at h

end Kind

structure Field where
  kind : Kind
  text : List Char
  deriving DecidableEq, Repr

/-- The characters of several fields, each with the zero character after it. -/
def encode (fields : List Field) : List Char :=
  fields.flatMap fun field => field.kind.tag ++ field.text ++ ['\x00']

/-- The fields of a content, in their order. -/
def fields (fragments declarations children : List String) : List Field :=
  fragments.map (fun text => ⟨.fragment, text.toList⟩) ++
    declarations.map (fun text => ⟨.declaration, text.toList⟩) ++
    children.map fun text => ⟨.child, text.toList⟩

/-- A text of a field that contains an end of the field and the start of another one after it. -/
def Forges (kind : Kind) (text : List Char) : Prop :=
  ∃ next : Kind, kind.place ≤ next.place ∧ '\x00' :: next.tag <:+: text

/-- Lists of texts none of which forges a field. -/
def Unforged (fragments declarations children : List String) : Prop :=
  ∀ field ∈ fields fragments declarations children, ¬ Forges field.kind field.text

@[simp] theorem encode_nil : encode [] = [] := rfl

theorem encode_cons (field : Field) (rest : List Field) :
    encode (field :: rest) = field.kind.tag ++ (field.text ++ '\x00' :: encode rest) := by
  simp [encode]

theorem toList_content (fragments declarations children : List String) :
    (content fragments declarations children).toList =
      encode (fields fragments declarations children) := by
  have hfield (kind : Kind) (texts : List String) (name : String) (hname : name.toList = [kind.letter]) :
      (texts.map (field name)).flatMap String.toList =
        encode (texts.map fun text => ⟨kind, text.toList⟩) := by
    induction texts with
    | nil => rfl
    | cons text rest ih => simp [encode_cons, ih, field, hname, Kind.tag]
  have happend (left right : List Field) : encode (left ++ right) = encode left ++ encode right := by
    simp [encode]
  simp only [content, String.toList_join, List.flatMap_append, fields, happend,
    hfield .fragment _ "f" rfl, hfield .declaration _ "d" rfl, hfield .child _ "c" rfl]

theorem encode_ne_nil {field : Field} {rest : List Field} : encode (field :: rest) ≠ [] := by
  simp [encode_cons, Kind.tag]

theorem getLast?_encode (field : Field) (rest : List Field) :
    (field.text ++ '\x00' :: encode rest).getLast? = some '\x00' := by
  induction rest generalizing field with
  | nil => simp
  | cons next rest ih =>
      have hlast := ih next
      rw [encode_cons, List.getLast?_append_cons, List.getLast?_cons_of_ne_nil (by simp [Kind.tag]),
        List.getLast?_append_of_ne_nil _ (by simp), hlast]

/-- Puts a character in front of the text of the first field. -/
def extend (c : Char) : List Field → List Field
  | [] => []
  | field :: rest => { field with text := c :: field.text } :: rest

/-- The fields of a content after the tag of its first field. A field lasts until a zero character
that is the last character or has the start of a possible field after it. -/
def read (kind : Kind) : List Char → List Field
  | [] => [⟨kind, []⟩]
  | ['\x00'] => [⟨kind, []⟩]
  | '\x00' :: letter :: ':' :: rest =>
      match kind.next? letter with
      | some next => ⟨kind, []⟩ :: read next rest
      | none => extend '\x00' (read kind (letter :: ':' :: rest))
  | c :: rest => extend c (read kind rest)

/-- The kinds of a row of fields are in order, beginning with the given one. -/
def InOrder (kind : Kind) : List Field → Prop
  | [] => True
  | field :: rest => kind.place ≤ field.kind.place ∧ InOrder field.kind rest

theorem read_shape (kind : Kind) (letters : List Char) :
    ∃ text rest, read kind letters = ⟨kind, text⟩ :: rest ∧ InOrder kind rest := by
  fun_induction read kind letters with
  | case1 => exact ⟨[], [], rfl, trivial⟩
  | case2 => exact ⟨[], [], rfl, trivial⟩
  | case3 kind letter rest next hnext ih =>
      obtain ⟨text, others, hread, horder⟩ := ih
      exact ⟨[], _, rfl, by rw [hread]; exact ⟨(Kind.next?_eq_some_iff.mp hnext).2, horder⟩⟩
  | case4 kind letter rest hnext ih =>
      obtain ⟨text, others, hread, horder⟩ := ih
      exact ⟨_, others, by rw [hread]; rfl, horder⟩
  | case5 kind c rest _ _ ih =>
      obtain ⟨text, others, hread, horder⟩ := ih
      exact ⟨_, others, by rw [hread]; rfl, horder⟩

theorem encode_extend {field : Field} {rest : List Field} {letters : List Char} (c : Char)
    (h : encode (field :: rest) = field.kind.tag ++ letters) :
    encode (extend c (field :: rest)) = field.kind.tag ++ c :: letters := by
  rw [encode_cons, List.append_cancel_left_eq] at h
  rw [extend, encode_cons, ← h]
  rfl

/-- Reading loses no character. -/
theorem encode_read (kind : Kind) {letters : List Char} (hlast : letters.getLast? = some '\x00') :
    encode (read kind letters) = kind.tag ++ letters := by
  fun_induction read kind letters with
  | case1 => simp at hlast
  | case2 => simp [encode_cons]
  | case3 kind letter rest next hnext ih =>
      have hrest : rest ≠ [] := by
        rintro rfl
        simp at hlast
      rw [encode_cons, ih (by simpa [List.getLast?_cons_of_ne_nil, hrest] using hlast)]
      simp [Kind.tag, (Kind.next?_eq_some_iff.mp hnext).1]
  | case4 kind letter rest hnext ih =>
      have htail := ih (by simpa [List.getLast?_cons_of_ne_nil] using hlast)
      obtain ⟨text, others, hread, -⟩ := read_shape kind (letter :: ':' :: rest)
      rw [hread] at htail ⊢
      exact encode_extend _ htail
  | case5 kind c rest hne _ ih =>
      have hrest : rest ≠ [] := by
        rintro rfl
        exact hne (by simpa using hlast) rfl
      have htail := ih (by simpa [List.getLast?_cons_of_ne_nil, hrest] using hlast)
      obtain ⟨text, others, hread, -⟩ := read_shape kind rest
      rw [hread] at htail ⊢
      exact encode_extend _ htail

/-- A character that does not end the field belongs to it. -/
theorem read_cons {kind : Kind} {c : Char} {rest : List Char} (hne : rest ≠ [])
    (hstay : c = '\x00' → ∀ next : Kind, kind.place ≤ next.place → ¬ next.tag <+: rest) :
    read kind (c :: rest) = extend c (read kind rest) := by
  rw [read.eq_def]
  split
  · simp_all
  · simp_all
  · rename_i letter tail heq
    obtain ⟨rfl, rfl⟩ := List.cons.inj heq
    cases hnext : kind.next? letter with
    | none => rfl
    | some next =>
        obtain ⟨rfl, hplace⟩ := Kind.next?_eq_some_iff.mp hnext
        exact absurd (by simp [Kind.tag]) (hstay rfl next hplace)
  · rename_i heq
    obtain ⟨rfl, rfl⟩ := List.cons.inj heq
    rfl

theorem not_forges_tail {kind : Kind} {c : Char} {text : List Char} (h : ¬ Forges kind (c :: text)) :
    ¬ Forges kind text :=
  fun ⟨next, hplace, htag⟩ => h ⟨next, hplace, htag.trans (List.suffix_cons c text).isInfix⟩

theorem tag_not_prefix_of_not_forges {kind next : Kind} {text rest : List Char}
    (h : ¬ Forges kind ('\x00' :: text)) (hplace : kind.place ≤ next.place) :
    ¬ next.tag <+: text ++ '\x00' :: rest := by
  intro htag
  match text, htag with
  | [], htag => cases next <;> simp [Kind.tag, Kind.letter] at htag
  | [_], htag => simp [Kind.tag] at htag
  | l :: c :: text, htag =>
      simp only [Kind.tag, List.cons_append, List.cons_prefix_cons] at htag
      obtain ⟨rfl, rfl, -⟩ := htag
      exact h ⟨next, hplace, (List.prefix_append ('\x00' :: next.tag) text).isInfix⟩

/-- A text without forged fields is read up to its end. -/
theorem read_text {kind : Kind} {text rest : List Char} {others : List Field}
    (h : ¬ Forges kind text) (hend : read kind ('\x00' :: rest) = ⟨kind, []⟩ :: others) :
    read kind (text ++ '\x00' :: rest) = ⟨kind, text⟩ :: others := by
  induction text with
  | nil => exact hend
  | cons c text ih =>
      rw [List.cons_append, read_cons (by simp), ih (not_forges_tail h)]
      · rfl
      · rintro rfl next hplace
        exact tag_not_prefix_of_not_forges h hplace

/-- Reading gives back fields in their order, if none of them is forged. -/
theorem read_encode {kind : Kind} {text : List Char} {rest : List Field} (horder : InOrder kind rest)
    (h : ∀ field ∈ ⟨kind, text⟩ :: rest, ¬ Forges field.kind field.text) :
    read kind (text ++ '\x00' :: encode rest) = ⟨kind, text⟩ :: rest := by
  induction rest generalizing kind text with
  | nil => exact read_text (h _ List.mem_cons_self) rfl
  | cons next rest ih =>
      obtain ⟨hplace, hrest⟩ := horder
      refine read_text (h _ List.mem_cons_self) ?_
      have hnext : kind.next? next.kind.letter = some next.kind :=
        Kind.next?_eq_some_iff.mpr ⟨rfl, hplace⟩
      have hread := ih hrest fun field hfield => h field (List.mem_cons_of_mem _ hfield)
      simp only [encode_cons, Kind.tag, List.cons_append, List.nil_append, read, hnext, hread]

theorem not_forges_of_mem_extend {kind : Kind} {c : Char} {rest : List Char}
    (hlast : rest.getLast? = some '\x00')
    (hrest : ∀ field ∈ read kind rest, ¬ Forges field.kind field.text)
    (hstay : c = '\x00' → ∀ next : Kind, kind.place ≤ next.place → ¬ next.tag <+: rest) :
    ∀ field ∈ extend c (read kind rest), ¬ Forges field.kind field.text := by
  have hencode := encode_read kind hlast
  obtain ⟨text, others, hread, -⟩ := read_shape kind rest
  rw [hread] at hrest hencode ⊢
  rw [encode_cons, List.append_cancel_left_eq] at hencode
  intro field hfield
  rcases List.mem_cons.mp hfield with rfl | hfield
  · intro hforges
    obtain ⟨next, hplace, htag⟩ := hforges
    rcases List.infix_cons_iff.mp htag with hprefix | hinfix
    · obtain ⟨hc, htext⟩ := List.cons_prefix_cons.mp hprefix
      refine hstay hc.symm next hplace (htext.trans ?_)
      rw [← hencode]
      exact List.prefix_append _ _
    · exact hrest _ List.mem_cons_self ⟨next, hplace, hinfix⟩
  · exact hrest field (List.mem_cons_of_mem _ hfield)

/-- No field that was read is forged. -/
theorem not_forges_of_mem_read (kind : Kind) {letters : List Char}
    (hlast : letters.getLast? = some '\x00') :
    ∀ field ∈ read kind letters, ¬ Forges field.kind field.text := by
  have hempty (kind : Kind) : ¬ Forges kind [] := by
    intro hforges
    obtain ⟨next, -, htag⟩ := hforges
    simp at htag
  fun_induction read kind letters with
  | case1 => simpa using hempty _
  | case2 => simpa using hempty _
  | case3 kind letter rest next hnext ih =>
      have hrest : rest ≠ [] := by
        rintro rfl
        simp at hlast
      intro field hfield
      rcases List.mem_cons.mp hfield with rfl | hfield
      · exact hempty _
      · exact ih (by simpa [List.getLast?_cons_of_ne_nil, hrest] using hlast) field hfield
  | case4 kind letter rest hnext ih =>
      have htail : (letter :: ':' :: rest).getLast? = some '\x00' := by
        simpa [List.getLast?_cons_of_ne_nil] using hlast
      refine not_forges_of_mem_extend htail (ih htail) fun _ next hplace htag => ?_
      have hletter : next.letter = letter := by
        simpa [Kind.tag] using htag
      rw [Kind.next?_eq_some_iff.mpr ⟨hletter, hplace⟩] at hnext
      cases hnext
  | case5 kind c rest hne hcut ih =>
      have hrest : rest ≠ [] := by
        rintro rfl
        exact hne (by simpa using hlast) rfl
      have htail : rest.getLast? = some '\x00' := by
        simpa [List.getLast?_cons_of_ne_nil, hrest] using hlast
      refine not_forges_of_mem_extend htail (ih htail) fun hc next hplace htag => ?_
      obtain ⟨tail, rfl⟩ := htag
      exact hcut next.letter tail hc rfl

/-- The texts of the fields of one kind. -/
def texts (kind : Kind) (fields : List Field) : List String :=
  (fields.filter (·.kind = kind)).map fun field => String.ofList field.text

theorem texts_fields (fragments declarations children : List String) :
    texts .fragment (fields fragments declarations children) = fragments ∧
      texts .declaration (fields fragments declarations children) = declarations ∧
      texts .child (fields fragments declarations children) = children := by
  have hmap (kind kind' : Kind) (names : List String) :
      texts kind' (names.map fun text => ⟨kind, text.toList⟩) = if kind = kind' then names else [] := by
    induction names with
    | nil => simp [texts]
    | cons name rest ih =>
        simp only [texts, List.map_cons, List.filter_cons] at ih ⊢
        split <;> simp_all
  have happend (kind : Kind) (left right : List Field) :
      texts kind (left ++ right) = texts kind left ++ texts kind right := by
    simp [texts]
  simp only [fields, happend, hmap]
  simp

theorem texts_eq_nil {kind kind' : Kind} {row : List Field} (horder : InOrder kind row)
    (hplace : kind'.place < kind.place) : texts kind' row = [] := by
  induction row generalizing kind with
  | nil => rfl
  | cons field rest ih =>
      obtain ⟨hfield, hrest⟩ := horder
      have hne : field.kind ≠ kind' := by
        rintro rfl
        omega
      simpa [texts, hne] using ih hrest (by omega)

/-- Fields in order make up a content. -/
theorem fields_texts {kind : Kind} {row : List Field} (horder : InOrder kind row) :
    fields (texts .fragment row) (texts .declaration row) (texts .child row) = row := by
  induction row generalizing kind with
  | nil => rfl
  | cons field rest ih =>
      have hrest := ih horder.2
      obtain ⟨kind', text⟩ := field
      have hcons (other : Kind) : texts other (⟨kind', text⟩ :: rest) =
          if kind' = other then String.ofList text :: texts other rest else texts other rest := by
        simp only [texts, List.filter_cons]
        split <;> simp_all
      have hbefore (other : Kind) (h : other.place < kind'.place) : texts other rest = [] :=
        texts_eq_nil horder.2 h
      simp only [hcons]
      cases kind' with
      | fragment => simpa [fields] using hrest
      | declaration =>
          rw [hbefore .fragment (by decide)] at hrest ⊢
          simpa [fields] using hrest
      | child =>
          rw [hbefore .fragment (by decide), hbefore .declaration (by decide)] at hrest ⊢
          simpa [fields] using hrest

theorem inOrder_map_append {kind kind' : Kind} {row : List Field} (texts : List String)
    (hplace : kind.place ≤ kind'.place) (horder : InOrder kind' row) :
    InOrder kind (texts.map (fun text => ⟨kind', text.toList⟩) ++ row) := by
  induction texts generalizing kind with
  | nil =>
      cases row with
      | nil => trivial
      | cons field rest => exact ⟨hplace.trans horder.1, horder.2⟩
  | cons text texts ih => exact ⟨hplace, ih le_rfl⟩

theorem inOrder_fields (fragments declarations children : List String) :
    InOrder .fragment (fields fragments declarations children) := by
  have hchildren : InOrder .declaration (children.map (fun text => ⟨.child, text.toList⟩) ++ []) :=
    inOrder_map_append children (by decide) trivial
  rw [List.append_nil] at hchildren
  rw [fields, List.append_assoc]
  exact inOrder_map_append _ le_rfl (inOrder_map_append _ (by decide) hchildren)

/-- Rows of fields of which none is forged are determined by their characters. -/
theorem encode_injective {kind : Kind} {row row' : List Field} (horder : InOrder kind row)
    (horder' : InOrder kind row') (h : ∀ field ∈ row, ¬ Forges field.kind field.text)
    (h' : ∀ field ∈ row', ¬ Forges field.kind field.text) (heq : encode row = encode row') :
    row = row' := by
  cases row with
  | nil =>
      cases row' with
      | nil => rfl
      | cons field' rest' => exact absurd heq.symm encode_ne_nil
  | cons field rest =>
      cases row' with
      | nil => exact absurd heq encode_ne_nil
      | cons field' rest' =>
          obtain ⟨kind₁, text₁⟩ := field
          obtain ⟨kind₂, text₂⟩ := field'
          rw [encode_cons, encode_cons] at heq
          obtain ⟨htag, hrest⟩ := List.append_inj heq rfl
          obtain rfl : kind₁ = kind₂ := Kind.letter_injective (by simpa [Kind.tag] using htag)
          rw [← read_encode horder.2 h, ← read_encode horder'.2 h']
          exact congrArg (read kind₁) hrest

theorem mem_fields {fragments declarations children : List String} {field : Field}
    (hfield : field ∈ fields fragments declarations children) :
    ∃ text ∈ fragments ++ declarations ++ children, field.text = text.toList := by
  simp only [fields, List.mem_append, List.mem_map] at hfield ⊢
  rcases hfield with (⟨text, htext, rfl⟩ | ⟨text, htext, rfl⟩) | ⟨text, htext, rfl⟩
  · exact ⟨text, Or.inl (Or.inl htext), rfl⟩
  · exact ⟨text, Or.inl (Or.inr htext), rfl⟩
  · exact ⟨text, Or.inr htext, rfl⟩

/-- Texts without a zero character forge nothing. -/
theorem unforged_of_zeroFree {fragments declarations children : List String}
    (h : ∀ text ∈ fragments ++ declarations ++ children, ZeroFree text) :
    Unforged fragments declarations children := by
  intro field hfield hforges
  obtain ⟨next, -, htag⟩ := hforges
  obtain ⟨text, htext, htoList⟩ := mem_fields hfield
  rw [htoList] at htag
  exact h text htext (htag.subset List.mem_cons_self)

theorem content_injective {fragments declarations children fragments' declarations' children' : List String}
    (h : Unforged fragments declarations children) (h' : Unforged fragments' declarations' children')
    (heq : content fragments declarations children = content fragments' declarations' children') :
    fragments = fragments' ∧ declarations = declarations' ∧ children = children' := by
  have hencode := congrArg String.toList heq
  rw [toList_content, toList_content] at hencode
  have hrow := encode_injective (inOrder_fields ..) (inOrder_fields ..) h h' hencode
  obtain ⟨hfragments, hdeclarations, hchildren⟩ := texts_fields fragments declarations children
  obtain ⟨hfragments', hdeclarations', hchildren'⟩ := texts_fields fragments' declarations' children'
  rw [hrow] at hfragments hdeclarations hchildren
  exact ⟨hfragments.symm.trans hfragments', hdeclarations.symm.trans hdeclarations',
    hchildren.symm.trans hchildren'⟩

/-- Every content is the content of lists without forged fields. -/
theorem exists_unforged (fragments declarations children : List String) :
    ∃ fragments' declarations' children', Unforged fragments' declarations' children' ∧
      content fragments' declarations' children' = content fragments declarations children := by
  cases hrow : fields fragments declarations children with
  | nil => exact ⟨fragments, declarations, children, by simp [Unforged, hrow], rfl⟩
  | cons field rest =>
      have hlast := getLast?_encode field rest
      have hread := encode_read field.kind hlast
      have hforges := not_forges_of_mem_read field.kind hlast
      obtain ⟨text, others, hshape, horder⟩ :=
        read_shape field.kind (field.text ++ '\x00' :: encode rest)
      rw [hshape] at hread hforges
      have hrowOrder : InOrder field.kind (⟨field.kind, text⟩ :: others) := ⟨le_rfl, horder⟩
      have hfields := fields_texts hrowOrder
      refine ⟨_, _, _, fun field' hfield' => hforges field' (hfields ▸ hfield'), ?_⟩
      apply String.toList_injective
      rw [toList_content, hfields, hread, toList_content, hrow, encode_cons]

/-- **What the content of an identifier tells.** Exactly the lists without forged fields can be told from
all other such lists by their content: a list with a forged field shares its content with one without. -/
theorem content_unambiguous_iff_unforged (fragments declarations children : List String) :
    Unforged fragments declarations children ↔
      ∀ fragments' declarations' children', Unforged fragments' declarations' children' →
        content fragments declarations children = content fragments' declarations' children' →
          fragments = fragments' ∧ declarations = declarations' ∧ children = children' := by
  constructor
  · intro h fragments' declarations' children' h' heq
    exact content_injective h h' heq
  · intro hunique
    obtain ⟨fragments', declarations', children', h', heq⟩ :=
      exists_unforged fragments declarations children
    obtain ⟨rfl, rfl, rfl⟩ := hunique fragments' declarations' children' h' heq.symm
    exact h'

/-- One fragment with a forged field and two fragments have the same content. -/
theorem content_of_forged_fragment :
    content ["a\x00f:b"] [] [] = content ["a", "b"] [] [] ∧ ["a\x00f:b"] ≠ ["a", "b"] := by
  decide +kernel

end CssRules.Identifier
