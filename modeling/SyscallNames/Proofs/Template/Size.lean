import Mathlib.Algebra.Group.Action.Defs
import Mathlib.Algebra.Order.BigOperators.Group.List
import Mathlib.Algebra.Order.Ring.Nat
import SyscallNames.Proofs.Template.Rendering
import SyscallNames.Proofs.Template.Segments

set_option autoImplicit false

namespace SyscallNames

def Conversion.size : Conversion → Nat → Nat
  | .plain, n => n
  | .quoted, n => n + 2

/-- How many characters a field shows for a name of `n` characters. -/
def Field.size (f : Field) (n : Nat) : Nat :=
  let uncut := f.conversion.size n
  max f.spec.width (f.spec.precision.elim uncut fun p => min p uncut)

namespace Segment

def literals (segments : List Segment) : List Text :=
  segments.filterMap fun
    | .literal text => some text
    | .field _ => none

def fields (segments : List Segment) : List Field :=
  segments.filterMap fun
    | .literal _ => none
    | .field f => some f

def literalSize (segments : List Segment) : Nat := ((literals segments).map List.length).sum

variable {segments : List Segment} {f : Field}

@[simp]
theorem fields_literal (text : Text) : fields (.literal text :: segments) = fields segments := rfl

@[simp]
theorem fields_field : fields (.field f :: segments) = f :: fields segments := rfl

@[simp]
theorem literalSize_literal (text : Text) :
    literalSize (.literal text :: segments) = text.length + literalSize segments := rfl

@[simp]
theorem literalSize_field : literalSize (.field f :: segments) = literalSize segments := rfl

@[simp]
theorem mem_fields : f ∈ fields segments ↔ .field f ∈ segments := by
  induction segments with
  | nil => simp [fields]
  | cons s segments ih =>
    cases s with
    | literal text => simp [ih]
    | field g => simp [ih]

end Segment

@[simp]
theorem Conversion.length_apply (conversion : Conversion) (name : Text) :
    (conversion.apply name).length = conversion.size name.length := by
  cases conversion with
  | plain => rfl
  | quoted => simp [apply, size]

@[simp]
theorem Field.length_render_eq_size (f : Field) (name : Text) :
    (f.render name).length = f.size name.length := by
  rw [length_render, f.conversion.length_apply, size]

theorem Field.WellFormed.size_le {f : Field} (h : f.WellFormed) (n : Nat) :
    f.size n ≤ max Template.maxFieldSize (n + 2) := by
  have hvalue : f.conversion.size n ≤ n + 2 := by
    cases f.conversion with
    | plain => exact Nat.le_add_right n 2
    | quoted => exact Nat.le_refl _
  have hwidth := h.width_le
  rw [size]
  cases f.spec.precision with
  | none =>
    rw [Option.elim_none]
    omega
  | some p =>
    rw [Option.elim_some]
    omega

theorem Segment.length_flatMap_render (segments : List Segment) (name : Text) :
    (segments.flatMap (·.render name)).length =
      literalSize segments + ((fields segments).map (·.size name.length)).sum := by
  induction segments with
  | nil => rfl
  | cons s segments ih =>
    rw [List.flatMap_cons, List.length_append, ih]
    cases s with
    | literal text =>
      rw [literalSize_literal, fields_literal, Nat.add_assoc]
      rfl
    | field f =>
      have hf : ((field f).render name).length = f.size name.length := f.length_render_eq_size name
      rw [hf, literalSize_field, fields_field, List.map_cons, List.sum_cons, Nat.add_left_comm]

section Sources

open Template (Form)

theorem Segment.literalSize_ofPiece (p : Piece Field) (segments : List Segment) :
    literalSize (ofPiece p segments) = (if p.isField then 0 else 1) + literalSize segments := by
  match p, segments with
  | .literal c, .literal text :: rest =>
    simp only [ofPiece, literalSize_literal, List.length_cons, Piece.isField, Bool.false_eq_true,
      if_false]
    omega
  | .literal c, [] => rfl
  | .literal c, .field f :: rest => rfl
  | .field f, segments => simp [ofPiece, Piece.isField]

theorem Piece.length_text_pos (p : Piece Text) : 0 < p.text.length := by
  cases p with
  | literal c =>
    rw [text]
    split <;> simp
  | field body => simp [text]

theorem Template.Form.literalSize_le (t : Form) :
    Segment.literalSize (Segment.ofPieces t.meaning) ≤ t.text.length := by
  induction t with
  | nil => exact Nat.le_refl _
  | cons p t ih =>
    have hpiece := (p.map Field.Form.text).length_text_pos
    have htext : text (p :: t) = (p.map Field.Form.text).text ++ text t := rfl
    have hmeaning : Segment.ofPieces (meaning (p :: t)) =
        Segment.ofPiece (p.map Field.Form.field) (Segment.ofPieces (meaning t)) := rfl
    rw [hmeaning, Segment.literalSize_ofPiece, htext, List.length_append]
    split <;> omega

end Sources

namespace Template

variable {source : Text} {template : Template}

theorem length_render (template : Template) (name : Text) :
    (template.render name).length = Segment.literalSize template.segments +
      ((Segment.fields template.segments).map (·.size name.length)).sum :=
  Segment.length_flatMap_render template.segments name

theorem literalSize_le_of_parse (h : parse source = .ok template) :
    Segment.literalSize template.segments ≤ source.length := by
  obtain ⟨t, -, rfl, rfl⟩ := exists_form_of_parse h
  exact t.literalSize_le

theorem sum_size_le_of_parse (h : parse source = .ok template) (n : Nat) :
    ((Segment.fields template.segments).map (·.size n)).sum ≤
      (Segment.fields template.segments).length * max maxFieldSize (n + 2) := by
  have hfields := (wellFormed_of_parse h).fields
  have hsum := List.sum_le_card_nsmul ((Segment.fields template.segments).map (·.size n))
    (max maxFieldSize (n + 2)) (by
      intro size hsize
      obtain ⟨f, hf, rfl⟩ := List.mem_map.mp hsize
      exact (hfields f (Segment.mem_fields.mp hf)).size_le n)
  rwa [List.length_map, smul_eq_mul] at hsum

/-- A rendering has the characters of the literals and, for each field, as many as its width asks
for or, if these are more, as its precision leaves of the name. This is never more than the
characters of the source and the largest size, or the quoted name, for each field; and a longer
name never makes it less. -/
theorem length_render_of_parse (h : parse source = .ok template) (name : Text) :
    (template.render name).length = Segment.literalSize template.segments +
      ((Segment.fields template.segments).map (·.size name.length)).sum ∧
    (template.render name).length ≤ source.length +
      (Segment.fields template.segments).length * max maxFieldSize (name.length + 2) ∧
    ∀ other : Text, name.length ≤ other.length →
      (template.render name).length ≤ (template.render other).length := by
  refine ⟨template.length_render name, ?_, fun other hle => ?_⟩
  · rw [template.length_render name]
    exact Nat.add_le_add (literalSize_le_of_parse h) (sum_size_le_of_parse h name.length)
  · exact length_flatMap_le fun s _ => s.length_render_le hle

/-- Characters of several bytes in a literal, as a fill and in the name; the name is cut inside its
quotes in one field and centered in the other. -/
theorem length_render_several_bytes :
    let source := "\u00e9\x7b\x7b\x7b0!r:\u20ac^9.3\x7d\x7b0:^7\x7d".toList
    let name := ['\u00fc', '\u00fc', '\u00fc', '\u00fc']
    ∃ template, parse source = .ok template ∧ (template.render name).length = 18 ∧
      (template.render name).length ≤ source.length + 2 * max maxFieldSize 6 := by
  intro source name
  obtain ⟨template, h, hsize, hsum, hcount⟩ : ∃ template, parse source = .ok template ∧
      Segment.literalSize template.segments = 2 ∧
      ((Segment.fields template.segments).map (·.size name.length)).sum = 16 ∧
      (Segment.fields template.segments).length = 2 :=
    ⟨_, rfl, rfl, rfl, rfl⟩
  obtain ⟨hlength, hle, -⟩ := length_render_of_parse h name
  refine ⟨template, h, ?_, ?_⟩
  · rw [hlength, hsize, hsum]
  · rwa [hcount] at hle

end Template
end SyscallNames
