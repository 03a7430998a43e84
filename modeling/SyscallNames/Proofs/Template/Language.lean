import Mathlib.Logic.ExistsUnique
import SyscallNames.Proofs.Template.FormReading

set_option autoImplicit false

namespace SyscallNames

theorem FieldSpec.Form.pad_cut (s : Form) (value : Text) :
    s.spec.pad (s.spec.cut value) = s.render value := by
  have hcut : s.spec.cut value = value.take (s.precision.elim value.length Decimal.value) := by
    cases hp : s.precision <;> simp [FieldSpec.cut, spec, hp]
  rw [hcut, render, FieldSpec.pad]
  cases ha : s.align with
  | none => simp [spec, before, ha]
  | some a => cases a <;> simp [spec, before, ha]

theorem Conversion.Form.apply_conversion (f : Form) (name : Text) :
    f.conversion.apply name = f.render name := by
  cases f <;> rfl

theorem Field.Form.render_field (f : Form) (name : Text) : f.field.render name = f.render name := by
  rw [Field.render, render, field, Conversion.Form.apply_conversion]
  cases f.spec with
  | none => simp [FieldSpec.cut, FieldSpec.pad]
  | some s => exact s.pad_cut _

theorem Segment.flatMap_render_ofPiece (p : Piece Field) (segments : List Segment) (name : Text) :
    (ofPiece p segments).flatMap (·.render name) =
      (ofPiece p []).flatMap (·.render name) ++ segments.flatMap (·.render name) := by
  cases p with
  | field f => simp [ofPiece]
  | literal c =>
    match segments with
    | [] => simp [ofPiece]
    | .literal text :: rest => simp [ofPiece, Segment.render]
    | .field f :: rest => simp [ofPiece]

namespace Template.Form

theorem render_ofPieces (t : Form) (name : Text) :
    (Segment.ofPieces t.meaning).flatMap (·.render name) = t.render name := by
  induction t with
  | nil => rfl
  | cons p t ih =>
    rw [meaning, List.map_cons, Segment.ofPieces, List.foldr_cons, Segment.flatMap_render_ofPiece,
      render, List.flatMap_cons]
    have hp : (Segment.ofPiece (p.map Field.Form.field) []).flatMap (·.render name) =
        renderPiece name p := by
      cases p with
      | literal c => rfl
      | field f =>
        simp only [Piece.map, Segment.ofPiece, List.flatMap_cons, List.flatMap_nil,
          List.append_nil, Segment.render, renderPiece]
        exact f.render_field name
    rw [hp]
    exact congrArg _ ih

theorem pieces_injective {t u : Form} (ht : ∀ f ∈ t.fields, f.WellFormed)
    (hu : ∀ f ∈ u.fields, f.WellFormed) (h : t.pieces = u.pieces) : t = u := by
  induction t generalizing u with
  | nil =>
    cases u with
    | nil => rfl
    | cons q u => cases h
  | cons p t ih =>
    cases u with
    | nil => cases h
    | cons q u =>
      simp only [pieces, List.map_cons, List.cons.injEq] at h
      obtain ⟨hp, hrest⟩ := h
      cases p with
      | literal c =>
        cases q with
        | literal d =>
          cases hp
          rw [ih (u := u) ht hu hrest]
        | field g => cases hp
      | field f =>
        cases q with
        | literal d => cases hp
        | field g =>
          rw [fields_field] at ht hu
          simp only [Piece.map, Piece.field.injEq] at hp
          rw [Field.Form.text_injective (ht f List.mem_cons_self) (hu g List.mem_cons_self) hp,
            ih (fun f hf => ht f (List.mem_cons_of_mem _ hf))
              (fun g hg => hu g (List.mem_cons_of_mem _ hg)) hrest]

theorem pieces_eq_of_text_eq {t u : Form} (ht : t.Grammatical) (hu : u.Grammatical)
    (h : t.text = u.text) : t.pieces = u.pieces :=
  Piece.flatMap_text_injective (plain_pieces ht.fields) (plain_pieces hu.fields) h

theorem WellFormed.grammatical {t : Form} (h : t.WellFormed) : t.Grammatical :=
  ⟨fun f hf => (h.fields f hf).grammatical, h.numbered⟩

theorem text_injective {t u : Form} (ht : t.WellFormed) (hu : u.WellFormed)
    (h : t.text = u.text) : t = u :=
  pieces_injective ht.fields hu.fields (pieces_eq_of_text_eq ht.grammatical hu.grammatical h)

end Template.Form

namespace Field.Form

def flagZero (f : Form) : Form := { f with spec := f.spec.map FieldSpec.Form.flagZero }

@[simp]
theorem text_flagZero (f : Form) : f.flagZero.text = f.text := by
  cases hs : f.spec <;> simp [flagZero, text, hs]

theorem wellFormed_flagZero {f : Form} (h : f.Grammatical) : f.flagZero.WellFormed := by
  intro s hs
  obtain ⟨r, hr, rfl⟩ := Option.map_eq_some_iff.mp hs
  exact FieldSpec.Form.wellFormed_flagZero (h r hr)

end Field.Form

namespace Template.Form

def flagZero (t : Form) : Form := t.map (Piece.map Field.Form.flagZero)

@[simp]
theorem fields_flagZero (t : Form) : t.flagZero.fields = t.fields.map Field.Form.flagZero := by
  induction t with
  | nil => rfl
  | cons p t ih =>
    cases p with
    | literal c => exact ih
    | field f => exact congrArg (f.flagZero :: ·) ih

@[simp]
theorem pieces_flagZero (t : Form) : t.flagZero.pieces = t.pieces := by
  rw [pieces, pieces, flagZero, List.map_map]
  apply List.map_congr_left
  intro p _
  cases p with
  | literal c => rfl
  | field f => simp [Piece.map]

/-- A grammatical form can be written with its zeros as flags. -/
theorem wellFormed_flagZero {t : Form} (h : t.Grammatical) : t.flagZero.WellFormed := by
  have hname : t.flagZero.fields.map Field.Form.name = t.fields.map Field.Form.name := by
    rw [fields_flagZero, List.map_map]
    rfl
  refine ⟨?_, ?_⟩
  · rw [fields_flagZero]
    intro f hf
    obtain ⟨g, hg, rfl⟩ := List.mem_map.mp hf
    exact Field.Form.wellFormed_flagZero (h.fields g hg)
  · rw [Numbered, hname, fields_flagZero]
    refine h.numbered.imp id fun hn => ⟨by simpa using hn.1, fun f hf => ?_⟩
    obtain ⟨g, hg, rfl⟩ := List.mem_map.mp hf
    exact hn.2 g hg

end Template.Form

namespace Template

/-- The templates are exactly the texts that can be cut into grammatical pieces. They can be cut in
one way only, the parts of their fields can be told in one way only, a zero in front of a width
being the zero flag, and for every name they show what their pieces show one after the other. -/
theorem parse_accepts_exactly_forms (source : Text) :
    ((∃ template, Template.parse source = .ok template) ↔
      ∃ t : Form, t.Grammatical ∧ t.text = source) ∧
    (∀ t u : Form, t.Grammatical → u.Grammatical → t.text = source → u.text = source →
      t.pieces = u.pieces) ∧
    ∀ template, Template.parse source = .ok template →
      (∃! t : Form, t.WellFormed ∧ t.text = source) ∧
      ∀ t : Form, t.WellFormed → t.text = source → ∀ name, template.render name = t.render name := by
  refine ⟨⟨?_, ?_⟩, ?_, ?_⟩
  · rintro ⟨template, h⟩
    obtain ⟨t, ht, htext, -⟩ := exists_form_of_parse h
    exact ⟨t, ht.grammatical, htext⟩
  · rintro ⟨t, ht, rfl⟩
    have h := Form.parse_text (Form.wellFormed_flagZero ht)
    rw [Form.text, Form.pieces_flagZero] at h
    exact ⟨_, h⟩
  · rintro t u ht hu rfl h
    exact Form.pieces_eq_of_text_eq ht hu h.symm
  · intro template h
    obtain ⟨t, ht, htext, rfl⟩ := exists_form_of_parse h
    refine ⟨⟨t, ⟨ht, htext⟩, fun u hu => ?_⟩, fun u hu hutext name => ?_⟩
    · exact Form.text_injective hu.1 ht (hu.2.trans htext.symm)
    · rw [Form.text_injective hu ht (hutext.trans htext.symm)]
      exact Form.render_ofPieces t name

end Template
end SyscallNames
