import SyscallNames.Proofs.Declaration.Exactness
import SyscallNames.Proofs.Declaration.Splitting

set_option autoImplicit false

namespace SyscallNames.Declaration

variable {text : Bytes} {line scanned p q : Nat} {b : UInt8} {d : Declaration}

section Pieces

/-- The byte at which the piece behind `n` others starts, in the text cut at its line breaks. -/
def lineStart (text : Bytes) (n : Nat) : Nat :=
  (((text.splitOn newline).take n).flatMap (· ++ [newline])).length

@[simp]
theorem lineStart_zero (text : Bytes) : lineStart text 0 = 0 := rfl

@[simp]
theorem splitOn_newline_cons (rest : Bytes) :
    (newline :: rest).splitOn newline = [] :: rest.splitOn newline := by
  rw [List.splitOn_cons_eq_if_modifyHead, if_pos (beq_self_eq_true newline)]

theorem exists_splitOn_cons (h : b ≠ newline) (rest : Bytes) :
    ∃ first others, rest.splitOn newline = first :: others ∧
      (b :: rest).splitOn newline = (b :: first) :: others := by
  obtain ⟨first, others, hrest⟩ := List.exists_cons_of_ne_nil (List.splitOn_ne_nil newline rest)
  refine ⟨first, others, hrest, ?_⟩
  rw [List.splitOn_cons_eq_if_modifyHead, if_neg (by simpa using h), hrest]
  rfl

@[simp]
theorem lineStart_newline_cons (rest : Bytes) (n : Nat) :
    lineStart (newline :: rest) (n + 1) = lineStart rest n + 1 := by
  rw [lineStart, splitOn_newline_cons, List.take_succ_cons, List.flatMap_cons]
  rfl

theorem lineStart_cons_of_ne (h : b ≠ newline) (rest : Bytes) (n : Nat) :
    lineStart (b :: rest) (n + 1) = lineStart rest (n + 1) + 1 := by
  obtain ⟨first, others, hrest, hall⟩ := exists_splitOn_cons h rest
  rw [lineStart, hall, lineStart, hrest]
  rfl

theorem getElem?_zero_splitOn (text : Bytes) :
    (text.splitOn newline)[0]? = some (text.takeWhile (· ≠ newline)) := by
  induction text with
  | nil => rfl
  | cons b rest ih =>
    by_cases hb : b = newline
    · subst hb
      rw [splitOn_newline_cons]
      rfl
    · obtain ⟨first, others, hrest, hall⟩ := exists_splitOn_cons hb rest
      rw [hrest] at ih
      rw [hall, List.takeWhile_cons_of_pos (by simpa using hb)]
      exact congrArg (Option.map (b :: ·)) ih

theorem exists_piece (hp : p ≤ text.length) :
    ∃ piece column, (text.splitOn newline)[(text.take p).count newline]? = some piece ∧
      lineStart text ((text.take p).count newline) + column = p ∧
      piece.drop column = (text.drop p).takeWhile (· ≠ newline) := by
  induction text generalizing p with
  | nil =>
    obtain rfl : p = 0 := Nat.le_zero.mp hp
    exact ⟨[], 0, rfl, rfl, rfl⟩
  | cons b rest ih =>
    cases p with
    | zero => exact ⟨_, 0, getElem?_zero_splitOn (b :: rest), rfl, rfl⟩
    | succ p =>
      obtain ⟨piece, column, hpiece, hcolumn, hdrop⟩ := ih (Nat.le_of_succ_le_succ hp)
      by_cases hb : b = newline
      · subst hb
        refine ⟨piece, column, ?_, ?_, hdrop⟩
        · rw [List.take_succ_cons, List.count_cons_self, splitOn_newline_cons]
          exact hpiece
        · rw [List.take_succ_cons, List.count_cons_self, lineStart_newline_cons]
          omega
      · obtain ⟨first, others, hrest, hall⟩ := exists_splitOn_cons hb rest
        rw [List.take_succ_cons, List.count_cons_of_ne hb, hall]
        rw [hrest] at hpiece
        cases hn : (rest.take p).count newline with
        | zero =>
          -- On the first line the piece and the column both grow by the byte `b`.
          rw [hn, lineStart_zero] at hcolumn
          rw [hn] at hpiece
          obtain rfl : first = piece := Option.some.inj hpiece
          refine ⟨b :: first, column + 1, rfl, ?_, hdrop⟩
          rw [lineStart_zero]
          omega
        | succ n =>
          rw [hn] at hpiece hcolumn
          refine ⟨piece, column, hpiece, ?_, hdrop⟩
          rw [lineStart_cons_of_ne hb]
          omega

end Pieces

section Count

theorem count_take_add (h : p ≤ q) :
    (text.take p).count newline + ((text.take q).drop p).count newline =
      (text.take q).count newline := by
  have hfront : (text.take q).take p = text.take p := by rw [List.take_take, Nat.min_eq_left h]
  rw [← hfront, ← List.count_append, List.take_append_drop]

theorem count_take_nameEnd (h : OccursAt text p) :
    (text.take (nameEnd text p)).count newline = (text.take p).count newline := by
  have hname := nameAt_of_occursAt h
  have hdrop := count_newline_drop_of_nameAt_ne_nil (hname ▸ nameBytes_ne_nil h.2)
  rw [hname, List.drop_drop, length_keyword, ← Nat.add_assoc, ← nameEnd] at hdrop
  have hall := congrArg (List.count newline) (List.take_append_drop p text)
  have hend := congrArg (List.count newline) (List.take_append_drop (nameEnd text p) text)
  rw [List.count_append] at hall hend
  omega

theorem line_add_count (h : d ∈ extractFrom line p (text.drop p)) :
    d.line + (text.take p).count newline = line + (text.take d.offset).count newline := by
  induction p using scan_induction text generalizing line with
  | past p hp => simp [extractFrom_of_length_le line hp] at h
  | step p hp hno ih =>
    rw [extractFrom_of_not_occursAt line hp hno] at h
    have hline := ih h
    rw [nextLine_eq, List.take_add_one, List.getElem?_eq_getElem hp, Option.toList_some,
      List.count_append] at hline
    omega
  | found p ho ih =>
    rw [extractFrom_of_occursAt line ho] at h
    obtain rfl | h := List.mem_cons.mp h
    · rfl
    · rw [← count_take_nameEnd ho]
      exact ih h

theorem line_of_mem_extract (h : d ∈ extract text) :
    d.line = 1 + (text.take d.offset).count newline :=
  line_add_count (p := 0) h

end Count

section Counting

/-- The bytes from `first` on in front of `last`, if these are bounds in the text and in order. -/
def slice? (text : Bytes) (first last : Nat) : Option Bytes :=
  if first ≤ last ∧ last ≤ text.length then some ((text.take last).drop first) else none

/-- The declarations at these places and with these names, their lines counted from one to the next:
behind the place `scanned` on the line `line`, each looks only at the bytes from the last place to
its own. -/
def countLines (text : Bytes) : Nat → Nat → List (Nat × Text) → Option (List Declaration)
  | _, _, [] => some []
  | line, scanned, (offset, name) :: found => do
    let gap ← slice? text scanned offset
    let line := line + gap.count newline
    let rest ← countLines text line offset found
    return { name, line, offset } :: rest

theorem slice?_eq_some (h : p ≤ q) (hq : q ≤ text.length) :
    slice? text p q = some ((text.take q).drop p) :=
  if_pos ⟨h, hq⟩

theorem countLines_eq_some {ds : List Declaration}
    (hsorted : ds.Pairwise fun d e => d.offset ≤ e.offset) (hscanned : ∀ d ∈ ds, scanned ≤ d.offset)
    (hds : ∀ d ∈ ds, d.offset ≤ text.length ∧ d.line = 1 + (text.take d.offset).count newline) :
    countLines text (1 + (text.take scanned).count newline) scanned
      (ds.map fun d => (d.offset, d.name)) = some ds := by
  induction ds generalizing scanned with
  | nil => rfl
  | cons d ds ih =>
    obtain ⟨hd, hsorted⟩ := List.pairwise_cons.mp hsorted
    obtain ⟨⟨hlen, hline⟩, hds⟩ := List.forall_mem_cons.mp hds
    have hle := hscanned d List.mem_cons_self
    have hcount : 1 + (text.take scanned).count newline +
        ((text.take d.offset).drop scanned).count newline = d.line := by
      rw [Nat.add_assoc, count_take_add hle, hline]
    have hrest := ih hsorted hd hds
    rw [← hline] at hrest
    simp [countLines, slice?_eq_some hle hlen, hcount, hrest]

end Counting

theorem keyword_append_name_prefix (h : OccursAt text p) :
    keyword ++ nameBytes text p <+: (text.drop p).takeWhile (· ≠ newline) := by
  have hname := nameAt_of_occursAt h
  have hne : nameAt (text.drop p) ≠ [] := hname ▸ nameBytes_ne_nil h.2
  have htext := eq_keyword_append_of_nameAt_ne_nil hne
  rw [← List.append_assoc, hname] at htext
  rw [htext, List.takeWhile_append_of_pos]
  · exact List.prefix_append _ _
  · intro b hb
    simp only [decide_eq_true_eq]
    rintro rfl
    rcases List.mem_append.mp hb with hb | hb
    · exact isSeparator_newline.not_mem_keyword hb
    · exact absurd (isNameByte_of_mem_nameBytes hb) (by decide)

theorem offset_le_length (h : d ∈ extract text) : d.offset ≤ text.length := by
  have := (occursAt_of_mem_extract h).1.lt_length
  omega

theorem exists_piece_of_mem_extract (h : d ∈ extract text) :
    ∃ piece, (text.splitOn newline)[d.line - 1]? = some piece ∧
      lineStart text (d.line - 1) ≤ d.offset ∧
      keyword ++ Utf8.encode d.name <+: piece.drop (d.offset - lineStart text (d.line - 1)) := by
  obtain ⟨ho, hname⟩ := occursAt_of_mem_extract h
  obtain ⟨piece, column, hpiece, hcolumn, hdrop⟩ := exists_piece (offset_le_length h)
  rw [line_of_mem_extract h, Nat.add_sub_cancel_left]
  refine ⟨piece, hpiece, by omega, ?_⟩
  rw [Nat.sub_eq_of_eq_add' hcolumn.symm, hdrop, hname,
    encode_nameText fun b hb => isNameByte_of_mem_nameBytes hb]
  exact keyword_append_name_prefix ho

theorem pairwise_offset_le (text : Bytes) :
    (extract text).Pairwise fun d e => d.offset ≤ e.offset := by
  refine (pairwise_extract text).imp fun {d e} h => ?_
  have := le_nameEnd text d.offset
  omega

/-- The line of a declaration is one more than the number of line breaks in front of it, and
counting them from one declaration to the next comes to the same, with bounds that are always in
order and within the text. In the text cut at its line breaks, the piece of that number holds the
declaration at its column. Lines never go down along the list, and stay the same exactly where there
is no line break between two declarations. -/
theorem line_eq_count (text : Bytes) :
    (∀ d ∈ extract text, d.line = 1 + (text.take d.offset).count newline) ∧
    countLines text 1 0 ((extract text).map fun d => (d.offset, d.name)) = some (extract text) ∧
    (∀ d ∈ extract text,
      ∃ piece, (text.splitOn newline)[d.line - 1]? = some piece ∧
        lineStart text (d.line - 1) ≤ d.offset ∧
        keyword ++ Utf8.encode d.name <+:
          piece.drop (d.offset - lineStart text (d.line - 1))) ∧
    (extract text).Pairwise fun d e =>
      d.line ≤ e.line ∧ (d.line = e.line ↔ newline ∉ (text.take e.offset).drop d.offset) := by
  refine ⟨fun d => line_of_mem_extract, ?_, fun d => exists_piece_of_mem_extract, ?_⟩
  · have hstart : 1 = 1 + (text.take 0).count newline := rfl
    rw [hstart]
    exact countLines_eq_some (pairwise_offset_le text) (fun d _ => Nat.zero_le d.offset)
      fun d hd => ⟨offset_le_length hd, line_of_mem_extract hd⟩
  · refine (pairwise_offset_le text).imp_of_mem fun {d e} hd he hle => ?_
    have hcount : (text.take d.offset).count newline +
        ((text.take e.offset).drop d.offset).count newline = (text.take e.offset).count newline :=
      count_take_add hle
    rw [line_of_mem_extract hd, line_of_mem_extract he, ← List.count_eq_zero]
    omega

end SyscallNames.Declaration
