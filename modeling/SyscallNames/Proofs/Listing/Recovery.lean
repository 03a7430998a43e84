import SyscallNames.Proofs.Declaration.Name
import SyscallNames.Proofs.Declaration.Splitting
import SyscallNames.Proofs.Listing.Run
import SyscallNames.Proofs.Reading
import SyscallNames.Proofs.Template.Literals
import SyscallNames.Proofs.Utf8

set_option autoImplicit false

namespace SyscallNames

namespace Template

/-- The keyword, the name, and some text behind it. -/
def declaring (suffix : Text) : Text :=
  Declaration.keywordText.toList ++ ['{', '}'] ++ escape suffix

theorem exists_parse_declaring (suffix : Text) :
    ∃ template, parse (declaring suffix) = .ok template ∧
      ∀ name, template.render name = Declaration.keywordText.toList ++ name ++ suffix := by
  let t : Form := Form.literals Declaration.keywordText.toList ++ [.field {}] ++ Form.literals suffix
  have hfields : t.fields = [{}] := by
    rw [Form.fields_append, Form.fields_append, Form.fields_literals, Form.fields_literals]
    rfl
  have ht : t.WellFormed := by
    refine ⟨?_, .inl (by rw [hfields]; rfl)⟩
    rw [hfields]
    intro f hf s hs
    obtain rfl := List.mem_singleton.mp hf
    cases hs
  have htext : t.text = declaring suffix := by
    rw [Form.text_append, Form.text_append, Form.text_literals, Form.text_literals]
    rfl
  refine ⟨_, htext ▸ Form.parse_text ht, fun name => ?_⟩
  rw [render, Form.render_ofPieces, Form.render_append, Form.render_append, Form.render_literals,
    Form.render_literals]
  simp [Form.render, Form.renderPiece, Field.Form.render, Conversion.Form.render]

end Template

namespace Declaration

variable {suffix rest : Bytes} {name : Text}

theorem extractFrom_eq_nil {text : Bytes} (h : extract text = []) (line offset : Nat) :
    extractFrom line offset text = [] := by
  have hone := extractFrom_moved 0 0 1 0 text
  have hall := extractFrom_moved 0 0 line offset text
  rw [Nat.zero_add, Nat.zero_add] at hone hall
  rw [extract, hone, List.map_eq_nil_iff] at h
  rw [hall, h, List.map_nil]

theorem nameAt_keyword_append (hname : ∀ c ∈ name, IsNameChar c)
    (hrest : ∀ b ∈ rest.head?, isNameByte b = false) :
    nameAt (keyword ++ (Utf8.encode name ++ rest)) = Utf8.encode name := by
  rw [nameAt, if_pos (List.isPrefixOf_iff_prefix.mpr (List.prefix_append _ _)), List.drop_left]
  exact takeWhile_run (isNameByte_of_mem_encode hname) hrest

theorem extractFrom_line (hname : IsName name) (hhead : ∀ b ∈ suffix.head?, isNameByte b = false)
    (hnone : extract suffix = []) (line offset : Nat) :
    extractFrom line offset (keyword ++ (Utf8.encode name ++ (suffix ++ newline :: rest))) =
      { name, line, offset } ::
        extractFrom (line + (suffix.count newline + 1))
          (offset + (keyword ++ Utf8.encode name ++ suffix ++ [newline]).length) rest := by
  have hrest : ∀ b ∈ (suffix ++ newline :: rest).head?, isNameByte b = false := by
    cases suffix with
    | nil => simpa using isSeparator_newline.not_isNameByte
    | cons b suffix => exact hhead
  have hfound := nameAt_keyword_append hname.isNameChar hrest
  have hne : Utf8.encode name ≠ [] := by
    intro hnil
    exact hname.ne_nil (Utf8.encode_injective (hnil.trans rfl))
  have hdrop : (keyword ++ (Utf8.encode name ++ (suffix ++ newline :: rest))).drop
      (keyword.length + (Utf8.encode name).length) = suffix ++ newline :: rest := by
    rw [← List.append_assoc, ← List.length_append, List.drop_left]
  rw [extractFrom_of_nameAt (by rwa [hfound]), hfound, nameText_encode hname.isNameChar, hdrop,
    extractFrom_append_separator isSeparator_newline, extractFrom_eq_nil hnone, List.nil_append]
  congr 2
  · simp [List.count_append]
  · simp only [List.length_append, List.length_singleton]
    omega

end Declaration

namespace Listing

open Declaration (IsName keywordText)

section Lines

variable {template : Template} {suffix : Text}
  (h : ∀ name, template.render name = keywordText.toList ++ name ++ suffix)
  (hhead : ∀ b ∈ (Utf8.encode suffix).head?, Declaration.isNameByte b = false)
  (hnone : Declaration.extract (Utf8.encode suffix) = [])

include h

theorem line_of_render (name : Text) :
    line template name = Declaration.keyword ++ Utf8.encode name ++ Utf8.encode suffix
      ++ [Declaration.newline] := by
  rw [line, h, Utf8.encode_append, Utf8.encode_append]
  rfl

include hhead hnone

theorem getElem?_extractFrom_bytes {names : List Text} (hnames : ∀ name ∈ names, IsName name)
    (start offset i : Nat) :
    (Declaration.extractFrom start offset (bytes template names))[i]? =
      names[i]?.map fun name => {
        name
        line := start + i * ((Utf8.encode suffix).count Declaration.newline + 1)
        offset := offset + (bytes template (names.take i)).length } := by
  induction names generalizing start offset i with
  | nil => simp [bytes, Declaration.extractFrom]
  | cons name names ih =>
    obtain ⟨hname, hrest⟩ := List.forall_mem_cons.mp hnames
    have hbytes : bytes template (name :: names) =
        Declaration.keyword ++ (Utf8.encode name ++
          (Utf8.encode suffix ++ Declaration.newline :: bytes template names)) := by
      simp [bytes, line_of_render h]
    rw [hbytes, Declaration.extractFrom_line hname hhead hnone, ← line_of_render h]
    cases i with
    | zero => simp [bytes]
    | succ i =>
      rw [List.getElem?_cons_succ, ih hrest, List.getElem?_cons_succ]
      congr 1
      funext name'
      congr 1
      · rw [Nat.succ_mul]
        omega
      · simp only [bytes, List.take_succ_cons, List.flatMap_cons, List.length_append]
        omega

theorem names_bytes {names : List Text} (hnames : ∀ name ∈ names, IsName name) :
    Declaration.names (bytes template names) = names := by
  apply List.ext_getElem?
  intro i
  rw [Declaration.names, List.getElem?_map, Declaration.extract,
    getElem?_extractFrom_bytes h hhead hnone hnames, Option.map_map]
  exact congrFun Option.map_id _

end Lines

theorem write_to_empty (template : Template) (ds : List Declaration) :
    ∃ after, write template ds {} = .ok () after ∧
      after.taken.toList = bytes template (ds.map Declaration.name) := by
  rw [write_of_fits ds rfl (Sink.fits_of_unlimited rfl _)]
  exact ⟨_, rfl, Sink.toList_taken_offered_of_unlimited rfl _⟩

/-- Names that are written as declarations are found again, in their order and number, whatever
text stands behind each of them, if only it does not go on with the name and holds no declaration
of its own. Where that text holds no line break, each is found at the start of its own line. -/
theorem extract_write_declaring (suffix : Text)
    (hhead : ∀ b ∈ (Utf8.encode suffix).head?, Declaration.isNameByte b = false)
    (hnone : Declaration.extract (Utf8.encode suffix) = []) :
    ∃ template, Template.parse (Template.declaring suffix) = .ok template ∧
      (∀ ds : List Declaration, (∀ d ∈ ds, IsName d.name) →
        ∃ after, write template ds {} = .ok () after ∧
          after.taken.toList = bytes template (ds.map Declaration.name) ∧
          Declaration.names after.taken.toList = ds.map Declaration.name ∧
          ('\n' ∉ suffix → ∀ i, (Declaration.extract after.taken.toList)[i]? =
            ds[i]?.map fun d => ({
              name := d.name
              line := i + 1
              offset := (bytes template ((ds.take i).map Declaration.name)).length } :
                Declaration))) ∧
      ∀ text, ∃ after, write template (Declaration.extract text) {} = .ok () after ∧
        Declaration.names after.taken.toList = Declaration.names text := by
  obtain ⟨template, hparse, hrender⟩ := Template.exists_parse_declaring suffix
  have hwrite : ∀ ds : List Declaration, (∀ d ∈ ds, IsName d.name) →
      ∃ after, write template ds {} = .ok () after ∧
        after.taken.toList = bytes template (ds.map Declaration.name) ∧
        Declaration.names after.taken.toList = ds.map Declaration.name := by
    intro ds hds
    obtain ⟨after, hafter, htaken⟩ := write_to_empty template ds
    refine ⟨after, hafter, htaken, ?_⟩
    rw [htaken]
    exact names_bytes hrender hhead hnone (List.forall_mem_map.mpr hds)
  refine ⟨template, hparse, fun ds hds => ?_, fun text => ?_⟩
  · obtain ⟨after, hafter, htaken, hnames⟩ := hwrite ds hds
    refine ⟨after, hafter, htaken, hnames, fun hline i => ?_⟩
    have hcount : (Utf8.encode suffix).count Declaration.newline = 0 :=
      (Utf8.count_encode (c := '\n') (by decide) suffix).trans (List.count_eq_zero.mpr hline)
    rw [htaken, Declaration.extract,
      getElem?_extractFrom_bytes hrender hhead hnone (List.forall_mem_map.mpr hds), hcount]
    simp [Function.comp_def, Nat.add_comm]
  · obtain ⟨after, hafter, -, hnames⟩ :=
      hwrite (Declaration.extract text) fun d hd => Declaration.isName_of_mem_extract hd
    exact ⟨after, hafter, hnames⟩

/-- Together with the suffix, the first name would read like the start of a second declaration. -/
theorem extract_write_declaring_keyword :
    let suffix := " long sys_x\x7b".toList
    let ds : List Declaration :=
      [{ name := "asmlinkage".toList, line := 7, offset := 7 },
        { name := "read".toList, line := 1, offset := 0 }]
    Declaration.extract (Utf8.encode suffix) = [] ∧ (∀ d ∈ ds, IsName d.name) ∧
      ∃ template, Template.parse (Template.declaring suffix) = .ok template ∧
        ∃ after, write template ds {} = .ok () after ∧
          Declaration.names after.taken.toList = ["asmlinkage".toList, "read".toList] ∧
          (Declaration.extract after.taken.toList).map Declaration.line = [1, 2] := by
  intro suffix ds
  have hhead : ∀ b ∈ (Utf8.encode suffix).head?, Declaration.isNameByte b = false := by
    rintro b ⟨⟩
    decide
  have hnone : Declaration.extract (Utf8.encode suffix) = [] := by decide +kernel
  have hds : ∀ d ∈ ds, IsName d.name := by decide
  obtain ⟨template, hparse, hwrite, -⟩ := extract_write_declaring suffix hhead hnone
  obtain ⟨after, hafter, -, hnames, hplaces⟩ := hwrite ds hds
  refine ⟨hnone, hds, template, hparse, after, hafter, hnames, ?_⟩
  apply List.ext_getElem?
  intro i
  rw [List.getElem?_map, hplaces (by decide), Option.map_map]
  match i with
  | 0 => rfl
  | 1 => rfl
  | i + 2 => rfl

end Listing
end SyscallNames
