import SyscallNames.Proofs.Template.Literals
import SyscallNames.Proofs.Template.Segments

set_option autoImplicit false

namespace SyscallNames

namespace FieldSpec

def printed (spec : FieldSpec) : Form where
  fill := some spec.fill
  align := some spec.align
  width := Decimal.digits spec.width
  precision := spec.precision.map Decimal.digits

theorem wellFormed_digits {n : Nat} (h : n ≤ Template.maxFieldSize) :
    FieldSize.WellFormed (Decimal.digits n) := by
  refine ⟨List.all_eq_true.mpr fun c hc => Decimal.isDigit_of_mem_digits hc, ?_⟩
  rwa [Decimal.value_digits]

@[simp]
theorem spec_printed (spec : FieldSpec) : spec.printed.spec = spec := by
  obtain ⟨fill, align, width, precision⟩ := spec
  simp [printed, Form.spec, Form.fillChar, Function.comp_def]

/-- With an alignment of its own, a spec means the same whether a zero is a flag or a digit. -/
theorem Form.spec_flagZero {s : Form} (h : s.align.isSome) : s.flagZero.spec = s.spec := by
  obtain ⟨a, ha⟩ := Option.isSome_iff_exists.mp h
  rw [flagZero]
  split
  · rename_i ds hz hw
    simp [spec, fillChar, ha, hw]
  · rfl

end FieldSpec

namespace Field

def printedConversion : Conversion → Conversion.Form
  | .plain => .s
  | .quoted => .r

def printed (f : Field) : Form where
  name := .zeros false 0
  conversion := printedConversion f.conversion
  spec := some f.spec.printed

theorem WellFormed.grammatical_printed {f : Field} (h : f.WellFormed) : f.printed.Grammatical := by
  rintro s ⟨⟩
  refine ⟨fun _ => rfl, ?_, FieldSpec.wellFormed_digits h.width_le, ?_, ?_⟩
  · rintro c ⟨⟩
    exact ⟨h.fill_ne_open, h.fill_ne_close⟩
  · intro hnil
    obtain ⟨p, -, hp⟩ := Option.map_eq_some_iff.mp hnil
    exact Nat.toDigits_ne_nil hp
  · intro ds hds
    obtain ⟨p, hp, rfl⟩ := Option.map_eq_some_iff.mp hds
    exact FieldSpec.wellFormed_digits (h.precision_le p hp)

theorem text_printed (f : Field) :
    Piece.text (.field f.printed.flagZero.text) = Template.printField f := by
  rw [Form.text_flagZero]
  obtain ⟨conversion, fill, align, width, precision⟩ := f
  cases conversion <;> cases precision <;>
    simp [Piece.text, Form.text, printed, printedConversion, FieldSpec.printed, FieldSpec.Form.text,
      FieldName.Form.text, Conversion.Form.text, Template.printField, Template.printPrecision,
      Conversion.code]

@[simp]
theorem field_printed (f : Field) : f.printed.flagZero.field = f := by
  have hspec : f.spec.printed.flagZero.spec = f.spec :=
    (FieldSpec.Form.spec_flagZero rfl).trans f.spec.spec_printed
  obtain ⟨conversion, spec⟩ := f
  have hconversion : (printedConversion conversion).conversion = conversion := by
    cases conversion <;> rfl
  simp only [Form.field, Form.flagZero, printed, Option.map_some, Option.elim_some, hspec,
    hconversion]

end Field

namespace Segment

/-- The form in which a segment is printed. A zero in front of other digits is the zero flag. -/
def printed : Segment → Template.Form
  | .literal text => Template.Form.literals text
  | .field f => [.field f.printed.flagZero]

theorem text_printed (s : Segment) : s.printed.text = Template.printSegment s := by
  cases s with
  | literal text => exact Template.Form.text_literals text
  | field f => exact (List.append_nil _).trans f.text_printed

@[simp]
theorem meaning_printed (s : Segment) : s.printed.meaning = s.toPieces := by
  cases s with
  | literal text =>
    rw [printed, Template.Form.meaning, Template.Form.literals, List.map_map]
    rfl
  | field f => exact congrArg (fun g => [Piece.field g]) f.field_printed

theorem fields_printed (s : Segment) :
    s.printed.fields = match s with
      | .literal _ => []
      | .field f => [f.printed.flagZero] := by
  cases s with
  | literal text => exact Template.Form.fields_literals text
  | field f => rfl

theorem mem_fields_flatMap_printed {segments : List Segment} {form : Field.Form} :
    form ∈ Template.Form.fields (segments.flatMap printed) ↔
      ∃ f, .field f ∈ segments ∧ form = f.printed.flagZero := by
  induction segments with
  | nil => simp [Template.Form.fields]
  | cons s segments ih =>
    rw [List.flatMap_cons, Template.Form.fields_append, List.mem_append, ih, fields_printed]
    cases s <;> simp [or_and_right, exists_or]

@[simp]
theorem text_flatMap_printed (segments : List Segment) :
    Template.Form.text (segments.flatMap printed) = Template.print segments := by
  induction segments with
  | nil => rfl
  | cons s segments ih =>
    rw [List.flatMap_cons, Template.Form.text_append, ih, s.text_printed]
    rfl

@[simp]
theorem meaning_flatMap_printed (segments : List Segment) :
    Template.Form.meaning (segments.flatMap printed) = segments.flatMap toPieces := by
  rw [Template.Form.meaning, List.map_flatMap]
  exact congrArg (segments.flatMap ·) (funext meaning_printed)

theorem WellFormed.wellFormed_flatMap_printed {segments : List Segment} (h : WellFormed segments) :
    Template.Form.WellFormed (segments.flatMap printed) := by
  refine ⟨fun form hform => ?_, .inr ⟨?_, fun form hform => ?_⟩⟩
  · obtain ⟨f, hf, rfl⟩ := mem_fields_flatMap_printed.mp hform
    exact Field.Form.wellFormed_flagZero (h.fields f hf).grammatical_printed
  · obtain ⟨f, hf⟩ := h.field_mem
    exact List.ne_nil_of_mem (mem_fields_flatMap_printed.mpr ⟨f, hf, rfl⟩)
  · obtain ⟨f, -, rfl⟩ := mem_fields_flatMap_printed.mp hform
    rintro ⟨⟩

theorem WellFormed.parse_print {segments : List Segment} (h : WellFormed segments) :
    Template.parse (Template.print segments) =
      .ok { source := Template.print segments, segments } := by
  have hparse := Template.Form.parse_text h.wellFormed_flatMap_printed
  rwa [text_flatMap_printed, meaning_flatMap_printed,
    ofPieces_flatMap_toPieces h.literal_ne_nil h.separated] at hparse

end Segment

namespace Template

/-- Well-formed segments are exactly what reading gives: each list of them is read back from its
printed text, and what any template is read as is one of them, so that it can be printed and read
again without a change to what it shows. -/
theorem parse_print_segments :
    (∀ segments, Segment.WellFormed segments →
      ∃ template, parse (print segments) = .ok template ∧ template.segments = segments) ∧
    ∀ source template, parse source = .ok template →
      Segment.WellFormed template.segments ∧
        ∃ again, parse (print template.segments) = .ok again ∧
          again.segments = template.segments ∧
          ∀ name, again.render name = template.render name := by
  refine ⟨fun segments h => ⟨_, h.parse_print, rfl⟩, fun source template h => ?_⟩
  have hwell := wellFormed_of_parse h
  exact ⟨hwell, _, hwell.parse_print, rfl, fun _ => rfl⟩

/-- Fills that elsewhere open a conversion, a spec or a line, a width of nothing, and the largest
sizes. -/
theorem parse_print_hostile_fills :
    let segments : List Segment :=
      [.literal ['{'],
        .field { spec := { fill := '!', align := .right } },
        .field { conversion := .quoted, spec := { fill := ':', width := 4096, precision := some 0 } },
        .field { spec := { fill := '\n', align := .center, precision := some 4096 } },
        .literal ['}']]
    Segment.WellFormed segments ∧
      ∃ template, parse (print segments) = .ok template ∧ template.segments = segments := by
  intro segments
  have h : Segment.WellFormed segments := by
    refine ⟨⟨_, List.mem_cons_of_mem _ List.mem_cons_self⟩, by decide, ?_, ?_⟩
    · simp [segments, Segment.Separated]
    · intro f hf
      simp only [segments, List.mem_cons, reduceCtorEq, Segment.field.injEq, List.not_mem_nil,
        false_or, or_false] at hf
      obtain rfl | rfl | rfl := hf <;> constructor <;> simp [maxFieldSize]
  exact ⟨h, parse_print_segments.1 segments h⟩

end Template
end SyscallNames
