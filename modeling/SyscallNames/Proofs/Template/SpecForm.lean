import SyscallNames.Proofs.Reading
import SyscallNames.Template.Form

set_option autoImplicit false

namespace SyscallNames

@[simp]
theorem Align.isMark_mark (a : Align) : isMark a.mark = true := by
  cases a <;> rfl

@[simp]
theorem Align.ofMark_mark (a : Align) : ofMark a.mark = .ok a := by
  cases a <;> rfl

theorem Align.eq_mark_of_ofMark {c : Char} {a : Align} (h : ofMark c = .ok a) : c = a.mark := by
  unfold ofMark at h
  split at h
  · cases h; rfl
  · cases h; rfl
  · cases h; rfl
  · cases h

def Braceless (text : Text) : Prop := ∀ c ∈ text, c ≠ '{' ∧ c ≠ '}'

theorem ne_brace_of_isDigit {c : Char} (h : c.isDigit = true) : c ≠ '{' ∧ c ≠ '}' := by
  constructor <;> rintro rfl <;> exact absurd h (by decide)

theorem Align.mark_ne_brace (a : Align) : a.mark ≠ '{' ∧ a.mark ≠ '}' := by
  cases a <;> decide

namespace FieldSpec

section Sizes

variable {size : FieldSize} {ds : Text}

theorem readSize_of_wellFormed (hne : ds ≠ []) (h : FieldSize.WellFormed ds) :
    readSize size ds = .ok (Decimal.value ds) := by
  have hlt : Decimal.value ds < Decimal.wordLimit :=
    Nat.lt_of_le_of_lt h.2 (by decide)
  rw [readSize, Decimal.word?_of_value_lt hne (List.all_eq_true.mp h.1) hlt]
  exact if_pos h.2

theorem readSize_eq_ok {n : Nat} (h : readSize size ds = .ok n) :
    ds ≠ [] ∧ FieldSize.WellFormed ds ∧ n = Decimal.value ds := by
  rw [readSize] at h
  split at h
  · cases h
  · rename_i m hw
    obtain ⟨hne, hd, rfl⟩ := Decimal.word?_eq_some hw
    split at h
    · rename_i hle
      cases h
      exact ⟨hne, ⟨List.all_eq_true.mpr hd, hle⟩, rfl⟩
    · cases h

end Sizes

namespace Form

def alignText (s : Form) : Text := s.fill.toList ++ (s.align.map Align.mark).toList

def flagText (s : Form) : Text := if s.zero then ['0'] else []

def precisionText (s : Form) : Text := s.precision.elim [] fun ds => '.' :: ds

def codeText (s : Form) : Text := if s.code then ['s'] else []

def sizesText (s : Form) : Text := s.width ++ (s.precisionText ++ s.codeText)

theorem text_eq (s : Form) : s.text = s.alignText ++ (s.flagText ++ s.sizesText) := by
  simp only [text, alignText, flagText, sizesText, precisionText, codeText, List.append_assoc]

def padding (s : Form) : Option (Char × Align) := s.align.map fun a => (s.fill.getD ' ', a)

def IsSizeChar (c : Char) : Prop := c.isDigit = true ∨ c = '.' ∨ c = 's'

theorem IsSizeChar.ne_brace {c : Char} (h : IsSizeChar c) : c ≠ '{' ∧ c ≠ '}' := by
  obtain h | rfl | rfl := h
  · exact ne_brace_of_isDigit h
  · decide
  · decide

theorem IsSizeChar.not_isMark {c : Char} (h : IsSizeChar c) : Align.isMark c = false := by
  obtain h | rfl | rfl := h
  · have hm : c ≠ '<' ∧ c ≠ '>' ∧ c ≠ '^' ∧ c ≠ '=' := by
      refine ⟨?_, ?_, ?_, ?_⟩ <;> rintro rfl <;> exact absurd h (by decide)
    simp [Align.isMark, hm]
  · decide
  · decide

variable {s : Form}

theorem eq_of_mem_codeText {c : Char} (hc : c ∈ s.codeText) : c = 's' := by
  rw [codeText] at hc
  split at hc
  · exact List.mem_singleton.mp hc
  · cases hc

theorem isSizeChar_of_mem_sizesText (h : s.Grammatical) {c : Char} (hc : c ∈ s.sizesText) :
    IsSizeChar c := by
  simp only [sizesText, List.mem_append] at hc
  obtain hc | hc | hc := hc
  · exact .inl (List.all_eq_true.mp h.width.1 c hc)
  · rw [precisionText] at hc
    cases hp : s.precision with
    | none => simp [hp] at hc
    | some ds =>
      rw [hp] at hc
      obtain rfl | hc := List.mem_cons.mp hc
      · exact .inr (.inl rfl)
      · exact .inl (List.all_eq_true.mp (h.precision ds hp).1 c hc)
  · exact .inr (.inr (eq_of_mem_codeText hc))

theorem isSizeChar_of_mem_flagText {c : Char} (hc : c ∈ s.flagText) : IsSizeChar c := by
  rw [flagText] at hc
  split at hc
  · rw [List.mem_singleton.mp hc]
    exact .inl (by decide)
  · cases hc

theorem braceless_text (h : s.Grammatical) : Braceless s.text := by
  intro c hc
  simp only [text_eq, alignText, List.mem_append, Option.mem_toList, Option.map_eq_some_iff] at hc
  obtain (hc | ⟨a, -, rfl⟩) | hc | hc := hc
  · exact h.fill_ne_brace c hc
  · exact a.mark_ne_brace
  · exact (isSizeChar_of_mem_flagText hc).ne_brace
  · exact (isSizeChar_of_mem_sizesText h hc).ne_brace

theorem isSizeChar_of_mem_head?_sizesText (h : s.Grammatical) {c : Char}
    (hc : c ∈ s.sizesText.head?) : IsSizeChar c :=
  isSizeChar_of_mem_sizesText h (List.mem_of_mem_head? hc)

theorem eq_of_mem_head?_precisionText {c : Char}
    (hc : c ∈ (s.precisionText ++ s.codeText).head?) : c = '.' ∨ c = 's' := by
  cases hp : s.precision with
  | none =>
    simp only [precisionText, hp, Option.elim_none, List.nil_append] at hc
    exact .inr (eq_of_mem_codeText (List.mem_of_mem_head? hc))
  | some ds =>
    simp only [precisionText, hp, Option.elim_some, List.cons_append, List.head?_cons,
      Option.mem_some_iff] at hc
    exact .inl hc.symm

theorem readAlign_alignText (h : s.Grammatical) {rest : Text}
    (hrest : ∀ c ∈ rest, Align.isMark c = false) :
    readAlign (s.alignText ++ rest) = .ok (s.padding, rest) := by
  cases ha : s.align with
  | none =>
    have hf : s.fill = none := by
      cases hf : s.fill with
      | none => rfl
      | some c => exact absurd (h.align_of_fill (by simp [hf])) (by simp [ha])
    simp only [alignText, padding, ha, hf, Option.map_none, Option.toList_none, List.nil_append]
    -- A mark in the first or the second place would be taken for an alignment.
    match rest, hrest with
    | [], _ => rfl
    | [c], hrest => simp [readAlign, hrest c]
    | c :: d :: rest, hrest => simp [readAlign, hrest c, hrest d]
  | some a =>
    cases hf : s.fill with
    | some c =>
      simp [alignText, padding, ha, hf, readAlign, Except.map]
    | none =>
      simp only [alignText, padding, ha, hf, Option.map_some, Option.toList_none,
        Option.toList_some, List.nil_append, List.singleton_append, Option.getD_none]
      cases rest with
      | nil => simp [readAlign, Except.map]
      | cons d rest =>
        simp [readAlign, hrest d, Except.map]

theorem readFlag_of_ne {text : Text}
    (h : ∀ c ∈ text.head?, c ≠ '+' ∧ c ≠ '-' ∧ c ≠ ' ' ∧ c ≠ '#' ∧ c ≠ '0') :
    readFlag text = .ok (false, text) := by
  unfold readFlag
  split <;> simp_all

theorem readFlag_flagText (h : s.WellFormed) :
    readFlag (s.flagText ++ s.sizesText) = .ok (s.zero, s.sizesText) := by
  cases hz : s.zero with
  | true => simp [flagText, hz, readFlag]
  | false =>
    simp only [flagText, hz, Bool.false_eq_true, if_false, List.nil_append]
    apply readFlag_of_ne
    intro c hc
    have hsize := isSizeChar_of_mem_head?_sizesText h.toGrammatical hc
    have hzero : c ≠ '0' := by
      rintro rfl
      cases hw : s.width with
      | nil =>
        simp only [sizesText, hw, List.nil_append] at hc
        exact absurd (eq_of_mem_head?_precisionText hc) (by decide)
      | cons d ds =>
        simp only [sizesText, hw, List.cons_append, List.head?_cons, Option.mem_some_iff] at hc
        exact absurd (h.zero_of_width (by simp [hw, hc])) (by simp [hz])
    obtain hd | rfl | rfl := hsize
    · refine ⟨?_, ?_, ?_, ?_, hzero⟩ <;> rintro rfl <;> exact absurd hd (by decide)
    · decide
    · decide

theorem readWidth_sizesText (h : s.Grammatical) :
    readWidth s.sizesText = .ok (Decimal.value s.width, s.precisionText ++ s.codeText) := by
  have hrun : ∀ c ∈ s.width, c.isDigit = true := List.all_eq_true.mp h.width.1
  have hrest : ∀ c ∈ (s.precisionText ++ s.codeText).head?, c.isDigit = false := by
    intro c hc
    obtain rfl | rfl := eq_of_mem_head?_precisionText hc <;> decide
  rw [readWidth, sizesText, takeWhile_run hrun hrest, dropWhile_run hrun hrest]
  split
  · rename_i hw
    simp [hw, Decimal.value]
  · rename_i hw
    rw [readSize_of_wellFormed hw h.width]
    rfl

theorem refuseGrouping_precisionText :
    refuseGrouping (s.precisionText ++ s.codeText) = .ok () := by
  unfold refuseGrouping
  split
  · rename_i heq
    exact absurd (eq_of_mem_head?_precisionText (s := s) (c := ',') (by simp [heq])) (by decide)
  · rename_i heq
    exact absurd (eq_of_mem_head?_precisionText (s := s) (c := '_') (by simp [heq])) (by decide)
  · rfl

theorem readPrecision_precisionText (h : s.Grammatical) :
    readPrecision (s.precisionText ++ s.codeText) =
      .ok (s.precision.map Decimal.value, s.codeText) := by
  cases hp : s.precision with
  | none =>
    cases hc : s.code <;> simp [precisionText, codeText, hp, hc, readPrecision]
  | some ds =>
    have hne : ds ≠ [] := by
      rintro rfl
      exact h.precision_ne_nil hp
    have hds := h.precision ds hp
    have hrun : ∀ c ∈ ds, c.isDigit = true := List.all_eq_true.mp hds.1
    have hrest : ∀ c ∈ s.codeText.head?, c.isDigit = false := by
      intro c hc
      rw [eq_of_mem_codeText (List.mem_of_mem_head? hc)]
      decide
    simp only [precisionText, hp, Option.elim_some, List.cons_append, readPrecision]
    rw [takeWhile_run hrun hrest, dropWhile_run hrun hrest]
    split
    · contradiction
    · rw [readSize_of_wellFormed hne hds]
      rfl

theorem readCode_codeText (spec : Text) : readCode spec s.codeText = .ok () := by
  cases hc : s.code <;> simp [codeText, hc, readCode]

theorem not_isMark_of_mem_flagText (h : s.Grammatical) {c : Char}
    (hc : c ∈ s.flagText ++ s.sizesText) : Align.isMark c = false := by
  obtain hc | hc := List.mem_append.mp hc
  · exact (isSizeChar_of_mem_flagText hc).not_isMark
  · exact (isSizeChar_of_mem_sizesText h hc).not_isMark

theorem readAlign_text (h : s.Grammatical) :
    readAlign s.text = .ok (s.padding, s.flagText ++ s.sizesText) := by
  rw [text_eq]
  exact readAlign_alignText h fun c hc => not_isMark_of_mem_flagText h hc

theorem read_text (h : s.WellFormed) : FieldSpec.read s.text = .ok s.spec := by
  have hg := h.toGrammatical
  rw [FieldSpec.read, readAlign_text hg]
  simp only [bind, Except.bind]
  rw [readFlag_flagText h]
  simp only []
  rw [readWidth_sizesText hg]
  simp only [refuseGrouping_precisionText, readPrecision_precisionText hg, readCode_codeText]
  have hfill : ∀ c ∈ s.fill, ∃ a, s.align = some a := fun c hc =>
    Option.isSome_iff_exists.mp (h.align_of_fill (by simp [Option.mem_def.mp hc]))
  cases ha : s.align with
  | none =>
    cases hf : s.fill with
    | none => simp [padding, spec, fillChar, ha, hf, pure, Except.pure]
    | some c =>
      obtain ⟨a, hs⟩ := hfill c hf
      rw [ha] at hs
      cases hs
  | some a => simp [padding, spec, fillChar, ha, pure, Except.pure]

end Form
end FieldSpec
end SyscallNames
