import SyscallNames.Proofs.Template.FormReading
import SyscallNames.Proofs.Template.Unpaired

set_option autoImplicit false

namespace SyscallNames.Template

open Piece (Plain Unpaired)

/-- Behind pieces that leave the numbering `n`, the text starts with a fault: a field that cannot be
read, or a brace that does not pair up. -/
inductive Faulty (n : Numbering) : Text → TemplateError → Prop
  | field {body rest : Text} {e : FieldError} :
    Braceless body → Field.read n body = .error e →
      Faulty n ('{' :: (body ++ '}' :: rest)) (.field e)
  | brace {rest : Text} {e : BraceError} : Unpaired rest e → Faulty n rest (.brace e)

/-- All fields of the row can be read one after the other, and leave the numbering `n`. -/
structure Form.Faultless (t : Form) (n : Numbering) : Prop where
  fields : ∀ f ∈ t.fields, f.WellFormed
  numbering : Numbering.undecided.addAll (t.fields.map Field.Form.name) = .ok n

variable {n : Numbering} {source rest more : Text} {e : TemplateError}

section Faultless

variable {t : Form}

theorem Form.Faultless.plain (h : t.Faultless n) : Piece.Plain t.pieces :=
  plain_pieces fun f hf => (h.fields f hf).grammatical

theorem Form.Faultless.readFields (h : t.Faultless n) :
    Piece.readFields [] .undecided t.pieces = .ok t.meaning := by
  rw [Piece.readFields_pieces .undecided [] h.fields, h.numbering]
  rfl

theorem Form.Faultless.readFields_field {body : Text} {e : FieldError} (h : t.Faultless n)
    (he : Field.read n body = .error e) (later : List (Piece Text)) :
    Piece.readFields [] .undecided (t.pieces ++ .field body :: later) = .error e := by
  rw [Piece.readFields_pieces_append .undecided [] h.fields, h.numbering]
  change Piece.readFields _ n _ = _
  rw [Piece.readFields, he]

theorem parse_of_faulty (ht : t.Faultless n) (hf : Faulty n rest e) :
    parse (t.text ++ rest) = .error e := by
  cases hf with
  | @field body rest e hbody he =>
    have hplain : Plain (t.pieces ++ [.field body]) := by
      rintro b hb
      rcases List.mem_append.mp hb with hb | hb
      · exact ht.plain b hb
      · cases List.mem_singleton.mp hb
        exact hbody
    have htext : t.text ++ '{' :: (body ++ '}' :: rest) =
        (t.pieces ++ [Piece.field body]).flatMap Piece.text ++ rest := by
      simp [Form.text, Piece.text]
    rw [htext, parse, Piece.cut_flatMap_text_append hplain, List.append_assoc]
    simp only [List.singleton_append, ht.readFields_field he]
  | brace hrest =>
    rw [Form.text, parse, Piece.cut_flatMap_text_append ht.plain, Piece.cut_of_unpaired hrest,
      List.append_nil]
    simp only [ht.readFields]

end Faultless

theorem exists_faulty_of_parse (h : parse source = .error e) :
    (∃ (t : Form) (n : Numbering) (rest : Text),
      t.Faultless n ∧ source = t.text ++ rest ∧ Faulty n rest e) ∨
    (e = .noField ∧ ∃ t : Form, t.fields = [] ∧ source = t.text) := by
  have hplain := Piece.plain_cut source
  rw [parse] at h
  cases hcut : Piece.cut source with
  | mk pieces fault =>
    rw [hcut] at h hplain
    simp only at h
    split at h
    · -- A field that cannot be read is told before any brace behind it.
      rename_i fe _ hread
      cases h
      obtain ⟨t, n, body, later, hw, hadd, rfl, he⟩ := Piece.exists_field_of_readFields hplain hread
      obtain ⟨tail, hsource⟩ := Piece.exists_tail_of_cut hcut
      refine .inl ⟨t, n, '{' :: (body ++ '}' :: (later.flatMap Piece.text ++ tail)), ⟨hw, hadd⟩, ?_,
        .field (hplain body (by simp)) he⟩
      rw [hsource]
      simp [Form.text, Piece.text]
    · rename_i out be hread
      cases h
      obtain ⟨t, hw, hn, rfl, -⟩ := Piece.exists_form_of_readFields hplain hread
      obtain ⟨n, hn⟩ := Numbering.admits_iff.mp hn
      obtain ⟨rest, hrest, hsource⟩ := Piece.exists_unpaired_of_cut hcut
      exact .inl ⟨t, n, rest, ⟨hw, hn⟩, hsource, .brace hrest⟩
    · rename_i out hread
      split at h
      · cases h
      · rename_i hfield
        cases h
        obtain ⟨t, hw, hn, rfl, rfl⟩ := Piece.exists_form_of_readFields hplain hread
        rw [List.reverse_nil, List.nil_append, Form.any_isField_meaning, ne_eq,
          Classical.not_not] at hfield
        exact .inr ⟨rfl, t, hfield, (Piece.flatMap_text_cut hcut).symm⟩

theorem parse_of_fields_eq_nil {t : Form} (h : t.fields = []) :
    Template.parse t.text = .error .noField := by
  have ht : t.Faultless .undecided := by
    constructor
    · simp [h]
    · rw [h]
      rfl
  rw [Template.parse, Form.cut_text ht.fields]
  simp only [ht.readFields]
  exact if_neg fun hany => (Form.any_isField_meaning t).mp hany h

/-- A template is refused for the first fault in it, or for having no field. -/
theorem parse_eq_error_iff :
    parse source = .error e ↔
      (∃ (t : Form) (n : Numbering) (rest : Text),
        t.Faultless n ∧ source = t.text ++ rest ∧ Faulty n rest e) ∨
      (e = .noField ∧ ∃ t : Form, t.fields = [] ∧ source = t.text) := by
  refine ⟨exists_faulty_of_parse, ?_⟩
  rintro (⟨t, n, rest, ht, rfl, hf⟩ | ⟨rfl, t, ht, rfl⟩)
  · exact parse_of_faulty ht hf
  · exact parse_of_fields_eq_nil ht

theorem exists_unpaired_of_parse {e : BraceError} (h : parse source = .error (.brace e)) :
    ∃ (t : Form) (n : Numbering) (rest : Text),
      t.Faultless n ∧ source = t.text ++ rest ∧ Unpaired rest e := by
  obtain ⟨t, n, rest, ht, hsource, hf⟩ | ⟨hno, -⟩ := parse_eq_error_iff.mp h
  · cases hf with
    | brace hrest => exact ⟨t, n, rest, ht, hsource, hrest⟩
  · cases hno

section Append

theorem parse_append_of_field {e : FieldError} (h : parse source = .error (.field e))
    (more : Text) : parse (source ++ more) = .error (.field e) := by
  obtain ⟨t, n, rest, ht, rfl, hf⟩ | ⟨hno, -⟩ := parse_eq_error_iff.mp h
  · cases hf with
    | @field body rest e hbody he =>
      have hf : Faulty n ('{' :: (body ++ '}' :: (rest ++ more))) (.field e) := .field hbody he
      simpa using parse_of_faulty ht hf
  · cases hno

theorem parse_append_of_nested (h : parse source = .error (.brace .nested)) (more : Text) :
    parse (source ++ more) = .error (.brace .nested) := by
  obtain ⟨t, n, rest, ht, rfl, hrest⟩ := exists_unpaired_of_parse h
  cases hrest with
  | @nested body rest hne hbody =>
    have hrest : Unpaired ('{' :: (body ++ '{' :: (rest ++ more))) .nested := .nested hne hbody
    simpa using parse_of_faulty ht (.brace hrest)

theorem exists_form_of_loneClose (h : parse source = .error (.brace .loneClose)) :
    ∃ (t : Form) (n : Numbering) (rest : Text),
      t.Faultless n ∧ source = t.text ++ '}' :: rest ∧ rest.head? ≠ some '}' := by
  obtain ⟨t, n, rest, ht, rfl, hrest⟩ := exists_unpaired_of_parse h
  cases hrest with
  | @loneClose rest hhead => exact ⟨t, n, rest, ht, rfl, hhead⟩

theorem parse_append_of_loneClose {t : Form} (ht : t.Faultless n) (hhead : rest.head? ≠ some '}')
    (hmore : rest ≠ [] ∨ more.head? ≠ some '}') :
    parse (t.text ++ '}' :: rest ++ more) = .error (.brace .loneClose) := by
  have hnext : (rest ++ more).head? ≠ some '}' := by
    cases rest with
    | nil => exact hmore.resolve_left fun hne => hne rfl
    | cons c rest => exact hhead
  rw [List.append_assoc]
  exact parse_of_faulty ht (.brace (.loneClose hnext))

theorem exists_form_of_loneOpen (h : parse source = .error (.brace .loneOpen)) :
    ∃ (t : Form) (n : Numbering), t.Faultless n ∧ source = t.text ++ ['{'] := by
  obtain ⟨t, n, rest, ht, rfl, hrest⟩ := exists_unpaired_of_parse h
  cases hrest with
  | loneOpen => exact ⟨t, n, ht, rfl⟩

theorem exists_form_of_unclosed (h : parse source = .error (.brace .unclosed)) :
    ∃ (t : Form) (n : Numbering) (body : Text),
      t.Faultless n ∧ body ≠ [] ∧ Braceless body ∧ source = t.text ++ '{' :: body := by
  obtain ⟨t, n, rest, ht, rfl, hrest⟩ := exists_unpaired_of_parse h
  cases hrest with
  | @unclosed body hne hbody => exact ⟨t, n, body, ht, hne, hbody, rfl⟩

theorem exists_form_of_noField (h : parse source = .error .noField) :
    ∃ t : Form, t.fields = [] ∧ source = t.text := by
  obtain ⟨t, n, rest, -, -, hf⟩ | ⟨-, hno⟩ := parse_eq_error_iff.mp h
  · cases hf
  · exact hno

theorem eq_of_parse_append_ne (h : parse source = .error e)
    (hne : parse (source ++ more) ≠ .error e) :
    e = .brace .loneOpen ∨ e = .brace .unclosed ∨ e = .noField ∨
      (e = .brace .loneClose ∧ source.getLast? = some '}' ∧ more.head? = some '}') := by
  match e with
  | .field fault => exact absurd (parse_append_of_field h more) hne
  | .brace .nested => exact absurd (parse_append_of_nested h more) hne
  | .brace .loneOpen => exact .inl rfl
  | .brace .unclosed => exact .inr (.inl rfl)
  | .noField => exact .inr (.inr (.inl rfl))
  | .brace .loneClose =>
    obtain ⟨t, n, rest, ht, rfl, hhead⟩ := exists_form_of_loneClose h
    have hboth := mt (parse_append_of_loneClose ht hhead) hne
    rw [not_or, Classical.not_not, Classical.not_not] at hboth
    obtain ⟨rfl, hmore⟩ := hboth
    exact .inr (.inr (.inr ⟨rfl, by simp, hmore⟩))

end Append

/-- A template that is refused for a field stays refused with the same text, whatever is put behind
it, and so does one with a brace inside a field; one with a single closing brace does so unless the
brace is its last character and another one is put behind it. Refusals of any other kind say that no
piece in front of the end has a fault. -/
theorem parse_append_of_error (h : parse source = .error e) (more : Text) :
    (∀ fault, e = .field fault →
      parse (source ++ more) = .error e ∧ e.message (source ++ more) = e.message source) ∧
    (e = .brace .nested →
      parse (source ++ more) = .error e ∧
        e.message (source ++ more) =
          "Nested replacement fields are not supported in '" ++ String.ofList (source ++ more)
            ++ "'") ∧
    (e = .brace .loneClose →
      ∃ (t : Form) (n : Numbering) (rest : Text), t.Faultless n ∧ source = t.text ++ '}' :: rest ∧
        rest.head? ≠ some '}' ∧
        (rest ≠ [] ∨ more.head? ≠ some '}' → parse (source ++ more) = .error e)) ∧
    (e = .brace .loneOpen →
      ∃ (t : Form) (n : Numbering), t.Faultless n ∧ source = t.text ++ ['{']) ∧
    (e = .brace .unclosed →
      ∃ (t : Form) (n : Numbering) (body : Text), t.Faultless n ∧ body ≠ [] ∧ Braceless body ∧
        source = t.text ++ '{' :: body) ∧
    (e = .noField → ∃ t : Form, t.fields = [] ∧ source = t.text) ∧
    (parse (source ++ more) ≠ .error e →
      e = .brace .loneOpen ∨ e = .brace .unclosed ∨ e = .noField ∨
        (e = .brace .loneClose ∧ source.getLast? = some '}' ∧ more.head? = some '}')) := by
  refine ⟨?_, ?_, ?_, ?_, ?_, ?_, eq_of_parse_append_ne h⟩
  · rintro fault rfl
    exact ⟨parse_append_of_field h more, rfl⟩
  · rintro rfl
    exact ⟨parse_append_of_nested h more, rfl⟩
  · rintro rfl
    obtain ⟨t, n, rest, ht, rfl, hhead⟩ := exists_form_of_loneClose h
    exact ⟨t, n, rest, ht, rfl, hhead, parse_append_of_loneClose ht hhead⟩
  · rintro rfl
    exact exists_form_of_loneOpen h
  · rintro rfl
    exact exists_form_of_unclosed h
  · rintro rfl
    exact exists_form_of_noField h

/-- Of the three faults the first one decides, and the closing brace behind it hides nothing. -/
theorem parse_append_later_faults :
    let source := "\x7d\x7d\x7b0\x7d\x7b\x7b\x7b0!r:+5\x7d\x7b\x7d\x7d".toList
    let more := "\x7d\x7bname\x7d".toList
    parse source = .error (.field .sign) ∧ parse (source ++ more) = .error (.field .sign) := by
  intro source more
  have h : parse source = .error (.field .sign) := rfl
  exact ⟨h, ((parse_append_of_error h more).1 _ rfl).1⟩

/-- A brace that is put behind a single closing brace at the end makes a pair of the two. -/
example :
    let source := "\x7b0\x7d\x7d".toList
    parse source = .error (.brace .loneClose) ∧
      ∃ template, parse (source ++ ['}']) = .ok template :=
  ⟨rfl, _, rfl⟩

end SyscallNames.Template
