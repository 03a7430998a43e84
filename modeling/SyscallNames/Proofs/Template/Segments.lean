import SyscallNames.Proofs.Template.FormReading
import SyscallNames.Template.Printer

set_option autoImplicit false

namespace SyscallNames

namespace Segment

variable {p : Piece Field} {segments : List Segment} {f : Field}

@[simp]
theorem separated_literal_cons {text : Text} :
    Separated (.literal text :: segments) ↔
      (∀ t, segments.head? ≠ some (.literal t)) ∧ Separated segments := by
  match segments with
  | [] => simp [Separated]
  | .literal t :: rest => simp [Separated]
  | .field f :: rest => simp [Separated]

@[simp]
theorem separated_field_cons : Separated (.field f :: segments) ↔ Separated segments := by
  rw [Separated]
  simp

section Joining

@[simp]
theorem field_mem_ofPiece :
    .field f ∈ ofPiece p segments ↔ p = .field f ∨ .field f ∈ segments := by
  match p, segments with
  | .literal c, .literal text :: rest => simp [ofPiece]
  | .literal c, [] => simp [ofPiece]
  | .literal c, .field g :: rest => simp [ofPiece]
  | .field g, segments => simp [ofPiece, eq_comm]

theorem literal_nil_not_mem_ofPiece (h : .literal [] ∉ segments) :
    .literal [] ∉ ofPiece p segments := by
  match p, segments with
  | .literal c, .literal text :: rest => simp_all [ofPiece]
  | .literal c, [] => simp [ofPiece]
  | .literal c, .field g :: rest => simp_all [ofPiece]
  | .field g, segments => simpa [ofPiece] using h

theorem separated_ofPiece (h : Separated segments) : Separated (ofPiece p segments) := by
  match p, segments with
  | .literal c, .literal text :: rest =>
    rw [separated_literal_cons] at h
    exact separated_literal_cons.mpr h
  | .literal c, [] => exact separated_literal_cons.mpr ⟨by simp, h⟩
  | .literal c, .field g :: rest => exact separated_literal_cons.mpr ⟨by simp, h⟩
  | .field g, segments => exact separated_field_cons.mpr h

variable {pieces : List (Piece Field)}

@[simp]
theorem field_mem_ofPieces : .field f ∈ ofPieces pieces ↔ .field f ∈ pieces := by
  induction pieces with
  | nil => simp [ofPieces]
  | cons p pieces ih =>
    rw [ofPieces, List.foldr_cons, field_mem_ofPiece, List.mem_cons, eq_comm (a := p)]
    exact or_congr_right ih

theorem literal_nil_not_mem_ofPieces (pieces : List (Piece Field)) :
    .literal [] ∉ ofPieces pieces := by
  induction pieces with
  | nil => simp [ofPieces]
  | cons p pieces ih => exact literal_nil_not_mem_ofPiece ih

theorem separated_ofPieces (pieces : List (Piece Field)) : Separated (ofPieces pieces) := by
  induction pieces with
  | nil => trivial
  | cons p pieces ih => exact separated_ofPiece ih

end Joining

def toPieces : Segment → List (Piece Field)
  | .literal text => text.map .literal
  | .field f => [.field f]

theorem ofPieces_literal_append {text : Text} (hne : text ≠ []) {pieces : List (Piece Field)}
    (h : ∀ t, (ofPieces pieces).head? ≠ some (.literal t)) :
    ofPieces (text.map .literal ++ pieces) = .literal text :: ofPieces pieces := by
  induction text with
  | nil => exact absurd rfl hne
  | cons c text ih =>
    rw [List.map_cons, List.cons_append, ofPieces, List.foldr_cons, ← ofPieces]
    cases text with
    | nil =>
      -- The last character starts the literal, since no literal stands behind it.
      rw [List.map_nil, List.nil_append]
      match hp : ofPieces pieces with
      | [] => rfl
      | .literal t :: rest => exact absurd (congrArg List.head? hp) (h t)
      | .field f :: rest => rfl
    | cons d text => rw [ih (List.cons_ne_nil d text), ofPiece]

theorem ofPieces_flatMap_toPieces (hne : .literal [] ∉ segments) (hs : Separated segments) :
    ofPieces (segments.flatMap toPieces) = segments := by
  induction segments with
  | nil => rfl
  | cons s segments ih =>
    rw [List.mem_cons, not_or] at hne
    rw [List.flatMap_cons]
    cases s with
    | literal text =>
      obtain ⟨hhead, hs⟩ := separated_literal_cons.mp hs
      have hrest := ih hne.2 hs
      have htext : text ≠ [] := by
        rintro rfl
        exact hne.1 rfl
      rw [toPieces, ofPieces_literal_append htext (hrest.symm ▸ hhead), hrest]
    | field f => exact congrArg (.field f :: ·) (ih hne.2 (separated_field_cons.mp hs))

end Segment

section Reading

theorem FieldSpec.Form.fillChar_ne_brace {s : Form} (h : s.Grammatical) :
    s.fillChar ≠ '{' ∧ s.fillChar ≠ '}' := by
  rw [fillChar]
  cases hf : s.fill with
  | some c => exact h.fill_ne_brace c hf
  | none =>
    rw [Option.getD_none]
    split <;> decide

theorem Field.Form.wellFormed_field {f : Form} (h : f.Grammatical) : f.field.WellFormed := by
  cases hs : f.spec with
  | none =>
    have hspec : f.field.spec = {} := by rw [field, hs, Option.elim_none]
    constructor <;> rw [hspec]
    · decide
    · decide
    · exact Nat.zero_le _
    · simp
  | some s =>
    have hspec : f.field.spec = s.spec := by rw [field, hs, Option.elim_some]
    have hg := h s hs
    have hfill := FieldSpec.Form.fillChar_ne_brace hg
    constructor <;> rw [hspec]
    · exact hfill.1
    · exact hfill.2
    · exact hg.width.2
    · intro p hp
      obtain ⟨ds, hds, rfl⟩ := Option.map_eq_some_iff.mp hp
      exact (hg.precision ds hds).2

/-- Whatever is read as a template has segments of this form. -/
theorem Template.wellFormed_of_parse {source : Text} {template : Template}
    (h : parse source = .ok template) : Segment.WellFormed template.segments := by
  obtain ⟨t, ht, -, rfl⟩ := exists_form_of_parse h
  refine ⟨?_, Segment.literal_nil_not_mem_ofPieces _, Segment.separated_ofPieces _, ?_⟩
  · obtain ⟨form, hform⟩ := List.exists_mem_of_ne_nil _ ht.numbered.fields_ne_nil
    exact ⟨form.field, Segment.field_mem_ofPieces.mpr (Form.field_mem_map.mpr ⟨form, hform, rfl⟩)⟩
  · intro f hf
    obtain ⟨form, hform, rfl⟩ := Form.field_mem_map.mp (Segment.field_mem_ofPieces.mp hf)
    exact Field.Form.wellFormed_field (ht.fields form hform).grammatical

end Reading
end SyscallNames
