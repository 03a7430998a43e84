import SyscallNames.Proofs.Template.FieldParts

set_option autoImplicit false

namespace SyscallNames

namespace Field

namespace Form

def specText (f : Form) : Text := f.spec.elim [] fun s => ':' :: s.text

def tailText (f : Form) : Text := f.conversion.text ++ f.specText

theorem text_eq (f : Form) : f.text = f.name.text ++ f.tailText := by
  simp only [text, tailText, specText, List.append_assoc]

variable {f : Form}

theorem eq_of_mem_head?_specText {c : Char} (hc : c ∈ f.specText.head?) : c = ':' := by
  cases hs : f.spec with
  | none => simp [specText, hs] at hc
  | some s => simpa [specText, hs, eq_comm] using hc

theorem isNameEnd_of_mem_head?_tailText {c : Char} (hc : c ∈ f.tailText.head?) :
    isNameEnd c = true := by
  cases hconv : f.conversion with
  | absent =>
    simp only [tailText, hconv, Conversion.Form.text, List.nil_append] at hc
    rw [eq_of_mem_head?_specText hc]
    decide
  | s | r | a =>
    simp only [tailText, hconv, Conversion.Form.text, List.cons_append, List.head?_cons,
      Option.mem_some_iff] at hc
    rw [← hc]
    decide

theorem not_isNameEnd_of_mem_name {c : Char} (hc : c ∈ f.name.text) : (!isNameEnd c) = true := by
  obtain rfl | rfl := FieldName.Form.eq_of_mem_text hc <;> decide

theorem takeWhile_text (f : Form) : (f.text.takeWhile fun c => !isNameEnd c) = f.name.text := by
  rw [text_eq]
  exact takeWhile_run (fun c hc => not_isNameEnd_of_mem_name hc)
    fun c hc => by simp [isNameEnd_of_mem_head?_tailText hc]

theorem dropWhile_text (f : Form) : (f.text.dropWhile fun c => !isNameEnd c) = f.tailText := by
  rw [text_eq]
  exact dropWhile_run (fun c hc => not_isNameEnd_of_mem_name hc)
    fun c hc => by simp [isNameEnd_of_mem_head?_tailText hc]

theorem readConversion_tailText (f : Form) :
    Conversion.read f.tailText = .ok (f.conversion.conversion, f.specText) :=
  Conversion.read_text f.conversion fun _ hc => eq_of_mem_head?_specText hc

theorem readSpec_specText (h : f.WellFormed) : readSpec f.specText = .ok f.field.spec := by
  cases hs : f.spec with
  | none => simp [specText, field, readSpec, hs]
  | some s => simp [specText, field, readSpec, hs, FieldSpec.Form.read_text (h s hs)]

theorem read_text (h : f.WellFormed) (n : Numbering) :
    Field.read n f.text = (n.add f.name.name).map fun n' => (f.field, n') := by
  rw [Field.read]
  rw [takeWhile_text, dropWhile_text, FieldName.read_text, readConversion_tailText]
  cases hn : n.add f.name.name with
  | error e => simp [bind, Except.bind, Except.map, hn]
  | ok n' =>
    simp only [bind, Except.bind, Except.map, hn]
    rw [readSpec_specText h]
    rfl

theorem braceless_text (h : f.Grammatical) : Braceless f.text := by
  intro c hc
  simp only [text_eq, tailText, specText, List.mem_append] at hc
  obtain hc | hc | hc := hc
  · obtain rfl | rfl := FieldName.Form.eq_of_mem_text hc <;> decide
  · cases hconv : f.conversion <;> simp [hconv, Conversion.Form.text] at hc
    all_goals obtain rfl | rfl := hc <;> decide
  · cases hs : f.spec with
    | none => simp [hs] at hc
    | some s =>
      rw [hs] at hc
      obtain rfl | hc := List.mem_cons.mp hc
      · decide
      · exact FieldSpec.Form.braceless_text (h s hs) c hc

theorem text_injective {g : Form} (hf : f.WellFormed) (hg : g.WellFormed) (h : f.text = g.text) :
    f = g := by
  have hname : f.name = g.name := by
    apply FieldName.Form.text_injective
    rw [← takeWhile_text, ← takeWhile_text, h]
  have htail : f.tailText = g.tailText := by
    rw [← dropWhile_text, ← dropWhile_text, h]
  obtain ⟨-, hst⟩ := read_unique htail (readConversion_tailText f) (readConversion_tailText g)
  have hconversion : f.conversion = g.conversion := by
    -- `s` and nothing mean the same, so the texts are compared, not the conversions.
    apply Conversion.Form.text_injective
    rw [tailText, tailText, hst] at htail
    exact List.append_cancel_right htail
  have hspec : f.spec = g.spec := by
    cases hfs : f.spec with
    | none =>
      cases hgs : g.spec with
      | none => rfl
      | some t => simp [specText, hfs, hgs] at hst
    | some s =>
      cases hgs : g.spec with
      | none => simp [specText, hfs, hgs] at hst
      | some t =>
        simp only [specText, hfs, hgs, Option.elim_some, List.cons.injEq, true_and] at hst
        rw [FieldSpec.Form.text_injective (hf s hfs) (hg t hgs) hst]
  cases f
  cases g
  simp_all

end Form

theorem exists_form_of_read {n n' : Numbering} {body : Text} {f : Field} (hb : Braceless body)
    (h : Field.read n body = .ok (f, n')) :
    ∃ form : Form, form.WellFormed ∧ form.text = body ∧ form.field = f ∧
      n.add form.name.name = .ok n' := by
  simp only [Field.read, bind_eq_ok, Prod.exists] at h
  obtain ⟨name, hname, m, hadd, conversion, rest, hconv, spec, hspec, heq⟩ := h
  cases heq
  have hsplit := List.takeWhile_append_dropWhile (p := fun c => !isNameEnd c) (l := body)
  obtain ⟨nameForm, hnameText, rfl⟩ := FieldName.exists_form_of_read hname
    ((Numbering.eq_of_add hadd).imp (fun h => h.1) fun h => h.1)
  have hhead : ∀ c ∈ (body.dropWhile fun c => !isNameEnd c).head?, c = '!' ∨ c = ':' := by
    intro c hc
    have hend : isNameEnd c = true := by
      simpa only [Bool.not_eq_false'] using eq_false_of_mem_head?_dropWhile hc
    simpa [isNameEnd] using hend
  obtain ⟨convForm, hconvText, rfl, hcolon⟩ := Conversion.exists_form_of_read hhead hconv
  rw [hconvText, ← hnameText] at hsplit
  unfold readSpec at hspec
  split at hspec
  · rename_i specText
    have hbs : Braceless specText := fun c hc => hb c (by simp [← hsplit, hc])
    obtain ⟨s, hs, rfl, rfl⟩ := FieldSpec.exists_form_of_read hbs hspec
    refine ⟨⟨nameForm, convForm, some s⟩, ?_, ?_, rfl, hadd⟩
    · rintro t heq
      cases heq
      exact hs
    · simp [Form.text, ← hsplit]
  · rename_i hne
    cases hspec
    have hnil : rest = [] := by
      cases rest with
      | nil => rfl
      | cons c rest => exact absurd (by rw [hcolon c rfl]) (hne rest)
    exact ⟨⟨nameForm, convForm, none⟩, by simp [Form.WellFormed],
      by simp [Form.text, ← hsplit, hnil], rfl, hadd⟩

end Field
end SyscallNames
