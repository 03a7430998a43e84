import SyscallNames.Proofs.Template.SpecForm

set_option autoImplicit false

namespace SyscallNames.FieldSpec

theorem exists_of_readAlign {text rest : Text} {padding : Option (Char × Align)}
    (h : readAlign text = .ok (padding, rest)) :
    ∃ (fill : Option Char) (align : Option Align), (fill.isSome → align.isSome) ∧
      text = fill.toList ++ (align.map Align.mark).toList ++ rest ∧
      padding = align.map fun a => (fill.getD ' ', a) := by
  unfold readAlign at h
  split at h
  · cases h
    exact ⟨none, none, by simp, rfl, rfl⟩
  · split at h
    · obtain ⟨a, ha, heq⟩ := map_eq_ok.mp h
      cases heq
      exact ⟨none, some a, by simp, by simp [Align.eq_mark_of_ofMark ha], rfl⟩
    · cases h
      exact ⟨none, none, by simp, rfl, rfl⟩
  · split at h
    · obtain ⟨a, ha, heq⟩ := map_eq_ok.mp h
      cases heq
      exact ⟨some _, some a, by simp, by simp [Align.eq_mark_of_ofMark ha], rfl⟩
    · split at h
      · obtain ⟨a, ha, heq⟩ := map_eq_ok.mp h
        cases heq
        exact ⟨none, some a, by simp, by simp [Align.eq_mark_of_ofMark ha], rfl⟩
      · cases h
        exact ⟨none, none, by simp, rfl, rfl⟩

theorem eq_of_readFlag {text rest : Text} {zero : Bool} (h : readFlag text = .ok (zero, rest)) :
    text = (if zero then ['0'] else []) ++ rest ∧ (rest.head? = some '0' → zero) := by
  unfold readFlag at h
  split at h
  · cases h
  · cases h
  · cases h
  · cases h
  · cases h
    simp
  · rename_i hzero
    cases h
    refine ⟨rfl, fun hhead => ?_⟩
    obtain ⟨tail, rfl⟩ := List.head?_eq_some_iff.mp hhead
    exact absurd rfl (hzero tail)

theorem exists_of_readWidth {text rest : Text} {n : Nat} (h : readWidth text = .ok (n, rest)) :
    ∃ ds, text = ds ++ rest ∧ FieldSize.WellFormed ds ∧ n = Decimal.value ds := by
  rw [readWidth] at h
  split at h
  · cases h
    exact ⟨[], rfl, ⟨rfl, by decide⟩, rfl⟩
  · obtain ⟨m, hm, heq⟩ := map_eq_ok.mp h
    cases heq
    obtain ⟨-, hw, hv⟩ := readSize_eq_ok hm
    exact ⟨text.takeWhile Char.isDigit, List.takeWhile_append_dropWhile.symm, hw, hv⟩

theorem exists_of_readPrecision {text rest : Text} {precision : Option Nat}
    (h : readPrecision text = .ok (precision, rest)) :
    ∃ p : Option Text, text = (p.elim [] fun ds => '.' :: ds) ++ rest ∧ p ≠ some [] ∧
      (∀ ds ∈ p, FieldSize.WellFormed ds) ∧ precision = p.map Decimal.value := by
  unfold readPrecision at h
  split at h
  · rename_i tail
    split at h
    · cases h
    · obtain ⟨m, hm, heq⟩ := map_eq_ok.mp h
      cases heq
      obtain ⟨hne, hw, hv⟩ := readSize_eq_ok hm
      refine ⟨some (tail.takeWhile Char.isDigit), ?_, ?_, ?_, by simp [hv]⟩
      · simp [List.takeWhile_append_dropWhile]
      · simpa using hne
      · rintro ds heq
        cases heq
        exact hw
  · cases h
    exact ⟨none, rfl, by simp, by simp, rfl⟩

theorem exists_of_readCode {spec rest : Text} (h : readCode spec rest = .ok ()) :
    ∃ code : Bool, rest = if code then ['s'] else [] := by
  unfold readCode at h
  split at h
  · exact ⟨false, rfl⟩
  · exact ⟨true, rfl⟩
  · cases h
  · cases h

theorem exists_form_of_read {text : Text} {spec : FieldSpec} (hb : Braceless text)
    (h : FieldSpec.read text = .ok spec) :
    ∃ s : Form, s.WellFormed ∧ s.text = text ∧ s.spec = spec := by
  simp only [FieldSpec.read, bind_eq_ok, Prod.exists] at h
  obtain ⟨padding, rest₁, halign, zero, rest₂, hflag, width, rest₃, hwidth, _, -, precision, rest₄,
    hprecision, _, hcode, heq⟩ := h
  obtain ⟨fill, align, hfill, rfl, rfl⟩ := exists_of_readAlign halign
  obtain ⟨rfl, hzero⟩ := eq_of_readFlag hflag
  obtain ⟨ds, rfl, hds, rfl⟩ := exists_of_readWidth hwidth
  obtain ⟨p, rfl, hne, hp, rfl⟩ := exists_of_readPrecision hprecision
  obtain ⟨code, rfl⟩ := exists_of_readCode hcode
  refine ⟨⟨fill, align, zero, ds, p, code⟩, ⟨⟨hfill, ?_, hds, hne, hp⟩, ?_⟩, ?_, ?_⟩
  · rintro c rfl
    exact hb c (by simp)
  · intro hhead
    apply hzero
    cases ds with
    | nil => cases hhead
    | cons d ds => exact hhead
  · simp [Form.text]
  · cases heq
    cases align with
    | none =>
      cases fill with
      | none => cases zero <;> rfl
      | some c => simp at hfill
    | some a => cases fill <;> simp [Form.spec, Form.fillChar]

namespace Form

theorem text_injective {s t : Form} (hs : s.WellFormed) (ht : t.WellFormed) (h : s.text = t.text) :
    s = t := by
  have hgs := hs.toGrammatical
  have hgt := ht.toGrammatical
  obtain ⟨hpad, hrest⟩ := read_unique h (readAlign_text hgs) (readAlign_text hgt)
  obtain ⟨hzero, hsizes⟩ := read_unique hrest (readFlag_flagText hs) (readFlag_flagText ht)
  obtain ⟨-, hpc⟩ := read_unique hsizes (readWidth_sizesText hgs) (readWidth_sizesText hgt)
  obtain ⟨-, hcode⟩ :=
    read_unique hpc (readPrecision_precisionText hgs) (readPrecision_precisionText hgt)
  -- Each reader leaves the same rest of both texts, so what it took is the same as well.
  have hprec : s.precisionText = t.precisionText :=
    List.append_cancel_right (hpc.trans (by rw [hcode]))
  have hw : s.width = t.width :=
    List.append_cancel_right (hsizes.trans (by rw [sizesText, hpc]))
  have ha : s.alignText = t.alignText := by
    rw [text_eq, text_eq, hrest] at h
    exact List.append_cancel_right h
  have hmark : s.align = t.align := by
    simpa [padding, Function.comp_def] using congrArg (Option.map Prod.snd) hpad
  have hfill : s.fill = t.fill := by
    rw [alignText, alignText, hmark] at ha
    simpa using congrArg List.head? (List.append_cancel_right ha)
  obtain ⟨fill, align, zero, width, precision, code⟩ := s
  obtain ⟨fill', align', zero', width', precision', code'⟩ := t
  simp only at hmark hfill hw hzero
  subst hmark hfill hw hzero
  have hp : precision = precision' := by
    simp only [precisionText] at hprec
    cases precision <;> cases precision' <;> simp_all
  have hc : code = code' := by
    cases code <;> cases code' <;> simp_all [codeText]
  rw [hp, hc]

/-- The form in which a zero in front of the width is the zero flag. -/
def flagZero (s : Form) : Form :=
  match s.zero, s.width with
  | false, '0' :: ds => { s with zero := true, width := ds }
  | _, _ => s

@[simp]
theorem text_flagZero (s : Form) : s.flagZero.text = s.text := by
  rw [flagZero]
  split
  · rename_i hz hw
    simp [text, hz, hw]
  · rfl

@[simp]
theorem value_zero_cons (ds : Text) : Decimal.value ('0' :: ds) = Decimal.value ds := by
  simp [Decimal.value_cons]

theorem wellFormed_flagZero {s : Form} (h : s.Grammatical) : s.flagZero.WellFormed := by
  rw [flagZero]
  split
  · rename_i ds hz hw
    have hwidth : FieldSize.WellFormed ds := by
      have := h.width
      rw [hw, FieldSize.WellFormed, value_zero_cons, List.all_cons] at this
      exact ⟨(Bool.and_eq_true_iff.mp this.1).2, this.2⟩
    exact ⟨⟨h.align_of_fill, h.fill_ne_brace, hwidth, h.precision_ne_nil, h.precision⟩,
      fun _ => rfl⟩
  · rename_i hne
    refine ⟨h, fun hhead => ?_⟩
    obtain ⟨ds, hw⟩ := List.head?_eq_some_iff.mp hhead
    cases hz : s.zero with
    | true => rfl
    | false => exact absurd hw (hne ds hz)

end Form
end SyscallNames.FieldSpec
