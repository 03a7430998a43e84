import SyscallNames.Proofs.Template.FieldForm
import SyscallNames.Proofs.Template.Pieces
import SyscallNames.Template.Reader

set_option autoImplicit false

namespace SyscallNames

/-- The names that fields may have behind fields that were numbered so. -/
def Numbering.Admits : Numbering → List FieldName.Form → Prop
  | .undecided, names => names = [.automatic] ∨ ∀ name ∈ names, name ≠ .automatic
  | .automatic, names => names = []
  | .explicit, names => ∀ name ∈ names, name ≠ .automatic

theorem Numbering.add_automatic {n n' : Numbering} :
    n.add .automatic = .ok n' ↔ n = .undecided ∧ n' = .automatic := by
  cases n <;> simp [add, eq_comm]

theorem Numbering.add_index_zero {n n' : Numbering} :
    n.add (.index 0) = .ok n' ↔ n ≠ .automatic ∧ n' = .explicit := by
  cases n <;> simp [add, eq_comm]

@[simp]
theorem Numbering.admits_nil (n : Numbering) : n.Admits [] := by
  cases n <;> simp [Admits]

theorem Numbering.admits_cons {n : Numbering} {name : FieldName.Form}
    {names : List FieldName.Form} :
    n.Admits (name :: names) ↔ ∃ n', n.add name.name = .ok n' ∧ n'.Admits names := by
  cases name with
  | automatic =>
    simp only [FieldName.Form.name, add_automatic]
    cases n <;> simp [Admits]
  | zeros plus more =>
    simp only [FieldName.Form.name, add_index_zero]
    cases n <;> simp [Admits]

def Numbering.addAll (n : Numbering) (names : List FieldName.Form) : Except FieldError Numbering :=
  names.foldlM (fun n name => n.add name.name) n

@[simp]
theorem Numbering.addAll_nil (n : Numbering) : n.addAll [] = .ok n := rfl

theorem Numbering.addAll_cons (n : Numbering) (name : FieldName.Form)
    (names : List FieldName.Form) :
    n.addAll (name :: names) = n.add name.name >>= fun n' => n'.addAll names := rfl

theorem Numbering.addAll_append (n : Numbering) (names more : List FieldName.Form) :
    n.addAll (names ++ more) = n.addAll names >>= fun n' => n'.addAll more :=
  List.foldlM_append

theorem Numbering.admits_iff {n : Numbering} {names : List FieldName.Form} :
    n.Admits names ↔ ∃ n', n.addAll names = .ok n' := by
  induction names generalizing n with
  | nil => simp
  | cons name names ih =>
    rw [admits_cons, addAll_cons]
    simp only [bind_eq_ok, ih]
    constructor
    · rintro ⟨n', hadd, last, hlast⟩
      exact ⟨last, n', hadd, hlast⟩
    · rintro ⟨last, n', hadd, hlast⟩
      exact ⟨n', hadd, last, hlast⟩

namespace Template.Form

@[simp]
theorem fields_literal (c : Char) (t : Form) : fields (.literal c :: t) = fields t := rfl

@[simp]
theorem fields_field (f : Field.Form) (t : Form) : fields (.field f :: t) = f :: fields t := rfl

def meaning (t : Form) : List (Piece Field) := t.map (Piece.map Field.Form.field)

theorem field_mem_map {α : Type} {g : Field.Form → α} {t : Form} {a : α} :
    .field a ∈ t.map (Piece.map g) ↔ ∃ f ∈ t.fields, g f = a := by
  induction t with
  | nil => simp [fields]
  | cons p t ih =>
    rw [List.map_cons, List.mem_cons, ih]
    cases p with
    | literal c => simp [Piece.map]
    | field f => simp [Piece.map, eq_comm]

theorem admits_iff_numbered {t : Form} (h : t.fields ≠ []) :
    Numbering.undecided.Admits (t.fields.map Field.Form.name) ↔ t.Numbered := by
  simp [Numbering.Admits, Numbered, h]

theorem plain_pieces {t : Form} (h : ∀ f ∈ t.fields, f.Grammatical) : Piece.Plain t.pieces := by
  induction t with
  | nil => simp [Piece.Plain, pieces]
  | cons p t ih =>
    cases p with
    | literal c => exact Piece.plain_cons.mpr ⟨by simp [Piece.map], ih h⟩
    | field f =>
      rw [fields_field] at h
      refine Piece.plain_cons.mpr ⟨?_, ih fun g hg => h g (List.mem_cons_of_mem _ hg)⟩
      rintro body heq
      cases heq
      exact Field.Form.braceless_text (h f List.mem_cons_self)

end Template.Form

namespace Field.Form

theorem WellFormed.grammatical {f : Form} (h : f.WellFormed) : f.Grammatical :=
  fun s hs => (h s hs).toGrammatical

end Field.Form

namespace Piece

open Template (Form)

theorem readFields_pieces_append {t : Form} (n : Numbering) (done : List (Piece Field))
    (hw : ∀ f ∈ t.fields, f.WellFormed) (later : List (Piece Text)) :
    readFields done n (t.pieces ++ later) =
      n.addAll (t.fields.map Field.Form.name) >>= fun last =>
        readFields (t.meaning.reverse ++ done) last later := by
  induction t generalizing done n with
  | nil => rfl
  | cons p t ih =>
    cases p with
    | literal c =>
      rw [Form.fields_literal] at hw ⊢
      simpa [Form.pieces, Form.meaning, Piece.map, readFields] using ih n (.literal c :: done) hw
    | field f =>
      rw [Form.fields_field] at hw ⊢
      obtain ⟨hf, ht⟩ := List.forall_mem_cons.mp hw
      have hread := Field.Form.read_text hf n
      rw [List.map_cons, Numbering.addAll_cons]
      cases hadd : n.add f.name.name with
      | error e =>
        rw [hadd] at hread
        simp [Form.pieces, Piece.map, readFields, hread, Except.map, bind, Except.bind]
      | ok n' =>
        rw [hadd] at hread
        have h := ih n' (.field f.field :: done) ht
        simpa [Form.pieces, Form.meaning, Piece.map, readFields, hread, Except.map, bind,
          Except.bind] using h

theorem readFields_pieces {t : Form} (n : Numbering) (done : List (Piece Field))
    (hw : ∀ f ∈ t.fields, f.WellFormed) :
    readFields done n t.pieces =
      (n.addAll (t.fields.map Field.Form.name)).map fun _ => done.reverse ++ t.meaning := by
  have h := readFields_pieces_append n done hw []
  rw [List.append_nil] at h
  rw [h]
  cases n.addAll (t.fields.map Field.Form.name) with
  | error e => rfl
  | ok last =>
    change readFields (t.meaning.reverse ++ done) last [] = .ok _
    rw [readFields, List.reverse_append, List.reverse_reverse]

theorem exists_form_of_readFields {pieces : List (Piece Text)} {done out : List (Piece Field)}
    {n : Numbering} (hp : Plain pieces) (h : readFields done n pieces = .ok out) :
    ∃ t : Form, (∀ f ∈ t.fields, f.WellFormed) ∧ n.Admits (t.fields.map Field.Form.name) ∧
      t.pieces = pieces ∧ out = done.reverse ++ t.meaning := by
  induction pieces generalizing done n with
  | nil =>
    cases h
    exact ⟨[], by simp [Form.fields], n.admits_nil, rfl, by simp [Form.meaning]⟩
  | cons p pieces ih =>
    obtain ⟨hbody, hpieces⟩ := plain_cons.mp hp
    cases p with
    | literal c =>
      obtain ⟨t, hw, hn, rfl, rfl⟩ := ih hpieces h
      exact ⟨.literal c :: t, hw, hn, rfl, by simp [Form.meaning, Piece.map]⟩
    | field body =>
      rw [readFields] at h
      split at h
      · cases h
      · rename_i f n' hread
        obtain ⟨form, hform, rfl, rfl, hadd⟩ :=
          Field.exists_form_of_read (hbody body rfl) hread
        obtain ⟨t, hw, hn, rfl, rfl⟩ := ih hpieces h
        refine ⟨.field form :: t, ?_, ?_, rfl, by simp [Form.meaning, Piece.map]⟩
        · rw [Form.fields_field]
          exact List.forall_mem_cons.mpr ⟨hform, hw⟩
        · rw [Form.fields_field]
          exact Numbering.admits_cons.mpr ⟨n', hadd, hn⟩

theorem exists_field_of_readFields {pieces : List (Piece Text)} {done : List (Piece Field)}
    {n : Numbering} {e : FieldError} (hp : Plain pieces) (h : readFields done n pieces = .error e) :
    ∃ (t : Form) (last : Numbering) (body : Text) (later : List (Piece Text)),
      (∀ f ∈ t.fields, f.WellFormed) ∧ n.addAll (t.fields.map Field.Form.name) = .ok last ∧
      pieces = t.pieces ++ .field body :: later ∧ Field.read last body = .error e := by
  induction pieces generalizing done n with
  | nil => cases h
  | cons p pieces ih =>
    obtain ⟨hbody, hpieces⟩ := plain_cons.mp hp
    cases p with
    | literal c =>
      obtain ⟨t, last, body, later, hw, hadd, rfl, hread⟩ := ih hpieces h
      exact ⟨.literal c :: t, last, body, later, hw, hadd, rfl, hread⟩
    | field body =>
      rw [readFields] at h
      split at h
      · rename_i fault hread
        cases h
        exact ⟨[], n, body, pieces, by simp [Form.fields], rfl, rfl, hread⟩
      · rename_i f n' hread
        obtain ⟨form, hform, rfl, rfl, hadd⟩ := Field.exists_form_of_read (hbody body rfl) hread
        obtain ⟨t, last, body, later, hw, hall, rfl, hread⟩ := ih hpieces h
        refine ⟨.field form :: t, last, body, later, ?_, ?_, rfl, hread⟩
        · rw [Form.fields_field]
          exact List.forall_mem_cons.mpr ⟨hform, hw⟩
        · rw [Form.fields_field, List.map_cons, Numbering.addAll_cons, hadd]
          exact hall

end Piece

namespace Template

namespace Form

@[simp]
theorem any_isField_meaning (t : Form) : t.meaning.any Piece.isField = true ↔ t.fields ≠ [] := by
  induction t with
  | nil => simp [meaning, fields]
  | cons p t ih =>
    cases p with
    | literal c => simpa [meaning, Piece.map, Piece.isField] using ih
    | field f => simp [meaning, Piece.map, Piece.isField]

theorem Numbered.fields_ne_nil {t : Form} (h : t.Numbered) : t.fields ≠ [] := by
  obtain h | h := h
  · rintro hnil
    simp [hnil] at h
  · exact h.1

section Fields

variable {t : Form} (hw : ∀ f ∈ t.fields, f.WellFormed)

include hw

theorem cut_text : Piece.cut t.text = (t.pieces, none) :=
  Piece.cut_flatMap_text (plain_pieces fun f hf => (hw f hf).grammatical)

theorem parse_text_of_addAll_eq_error {e : FieldError}
    (he : Numbering.undecided.addAll (t.fields.map Field.Form.name) = .error e) :
    Template.parse t.text = .error (.field e) := by
  have hread := Piece.readFields_pieces .undecided [] hw
  rw [he] at hread
  rw [Template.parse, cut_text hw]
  simp only [hread, Except.map]

end Fields

/-- A well-formed form is read as what its pieces mean. -/
theorem parse_text {t : Form} (h : t.WellFormed) :
    Template.parse t.text = .ok { source := t.text, segments := Segment.ofPieces t.meaning } := by
  have hne := h.numbered.fields_ne_nil
  obtain ⟨n, hn⟩ := Numbering.admits_iff.mp ((admits_iff_numbered hne).mpr h.numbered)
  have hread := Piece.readFields_pieces .undecided [] h.fields
  rw [hn, List.reverse_nil, List.nil_append, Except.map] at hread
  simp only [Template.parse, cut_text h.fields, hread]
  exact if_pos ((any_isField_meaning t).mpr hne)

end Form

/-- What is read as a template is the text of a well-formed form and means the same. -/
theorem exists_form_of_parse {source : Text} {template : Template}
    (h : Template.parse source = .ok template) :
    ∃ t : Form, t.WellFormed ∧ t.text = source ∧
      template = { source, segments := Segment.ofPieces t.meaning } := by
  have hplain := Piece.plain_cut source
  rw [Template.parse] at h
  cases hcut : Piece.cut source with
  | mk pieces fault =>
    rw [hcut] at h hplain
    simp only at h
    split at h
    · cases h
    · cases h
    · rename_i hread
      split at h
      · rename_i hfield
        cases h
        obtain ⟨t, hw, hn, rfl, rfl⟩ := Piece.exists_form_of_readFields hplain hread
        rw [List.reverse_nil, List.nil_append] at hfield
        have hne := (Form.any_isField_meaning t).mp hfield
        exact ⟨t, ⟨hw, (Form.admits_iff_numbered hne).mp hn⟩, Piece.flatMap_text_cut hcut, rfl⟩
      · cases h

end Template
end SyscallNames
