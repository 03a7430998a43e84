import SyscallNames.Proofs.Template.Language

set_option autoImplicit false

namespace SyscallNames

def Field.nameIn (body : Text) : Text := body.takeWhile fun c => !isNameEnd c

/-- No name, or the index `0`. -/
def FieldName.Documented (name : Text) : Prop := ∀ c ∈ name, c = '0'

/-- A row of pieces that is written as this text has a field of this name. -/
def Template.HasFieldName (source name : Text) : Prop :=
  ∃ pieces, Piece.Plain pieces ∧ pieces.flatMap Piece.text = source ∧
    ∃ body, .field body ∈ pieces ∧ Field.nameIn body = name

namespace FieldName

variable {name : Text}

theorem Documented.eq_replicate (h : Documented name) : name = List.replicate name.length '0' :=
  List.eq_replicate_of_mem h

theorem documented_replicate (n : Nat) : Documented (List.replicate n '0') :=
  fun _ hc => List.eq_of_mem_replicate hc

theorem exists_form_iff :
    (∃ f : Form, f.text = name) ↔
      Documented name ∨ ∃ zeros, zeros ≠ [] ∧ Documented zeros ∧ name = '+' :: zeros := by
  constructor
  · rintro ⟨f, rfl⟩
    cases f with
    | automatic => exact .inl (documented_replicate 0)
    | zeros plus more =>
      cases plus with
      | false => exact .inl (documented_replicate (more + 1))
      | true => exact .inr ⟨_, List.cons_ne_nil _ _, documented_replicate (more + 1), rfl⟩
  · rintro (h | ⟨zeros, hne, h, rfl⟩)
    · cases name with
      | nil => exact ⟨.automatic, rfl⟩
      | cons c more => exact ⟨.zeros false more.length, h.eq_replicate.symm⟩
    · obtain ⟨c, more, rfl⟩ := List.exists_cons_of_ne_nil hne
      exact ⟨.zeros true more.length, congrArg ('+' :: ·) h.eq_replicate.symm⟩

end FieldName

namespace Template

variable {source name : Text} {template : Template}

theorem exists_form_of_hasFieldName (hparse : parse source = .ok template)
    (h : HasFieldName source name) : ∃ f : FieldName.Form, f.text = name := by
  obtain ⟨t, ht, htext, -⟩ := exists_form_of_parse hparse
  obtain ⟨pieces, hplain, rfl, body, hbody, rfl⟩ := h
  have hpieces : t.pieces = pieces :=
    Piece.flatMap_text_injective (Form.plain_pieces ht.grammatical.fields) hplain htext
  rw [← hpieces] at hbody
  obtain ⟨f, -, rfl⟩ := Form.field_mem_map.mp hbody
  exact ⟨f.name, f.takeWhile_text.symm⟩

theorem exists_parse_of_form (f : FieldName.Form) :
    ∃ source template, parse source = .ok template ∧ HasFieldName source f.text := by
  let field : Field.Form := { name := f }
  let t : Form := [.field field]
  have ht : t.WellFormed := by
    constructor
    · intro g hg
      obtain rfl := List.mem_singleton.mp hg
      simp [field, Field.Form.WellFormed]
    · cases f with
      | automatic => exact .inl rfl
      | zeros plus more =>
        refine .inr ⟨List.cons_ne_nil _ _, fun g hg => ?_⟩
        obtain rfl := List.mem_singleton.mp hg
        simp [field]
  exact ⟨t.text, _, Form.parse_text ht, t.pieces, Form.plain_pieces ht.grammatical.fields, rfl,
    field.text, List.mem_cons_self, field.takeWhile_text⟩

/-- The names that fields of templates have are the documented ones, none or a row of zeros, and
those that are a plus sign and a row of zeros. A template with a field of any other name is
refused. -/
theorem fieldName_accepted_iff (name : Text) :
    (∃ source template, parse source = .ok template ∧ HasFieldName source name) ↔
      FieldName.Documented name ∨
        ∃ zeros, zeros ≠ [] ∧ FieldName.Documented zeros ∧ name = '+' :: zeros := by
  rw [← FieldName.exists_form_iff]
  constructor
  · rintro ⟨source, template, hparse, h⟩
    exact exists_form_of_hasFieldName hparse h
  · rintro ⟨f, rfl⟩
    exact exists_parse_of_form f

/-- A template is read although the name of its one field is none of the documented ones. -/
theorem parse_plus_zero :
    let source := "\x7b+0\x7d".toList
    (∃ template, parse source = .ok template) ∧ HasFieldName source ['+', '0'] ∧
      ¬ FieldName.Documented ['+', '0'] := by
  intro source
  have hfield : HasFieldName source ['+', '0'] := by
    refine ⟨[.field ['+', '0']], ?_, rfl, _, List.mem_cons_self, rfl⟩
    intro body hbody
    cases List.mem_singleton.mp hbody
    simp [Braceless]
  exact ⟨⟨_, rfl⟩, hfield, by simp [FieldName.Documented]⟩

end Template
end SyscallNames
