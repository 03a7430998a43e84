import SyscallNames.Proofs.Template.Pieces

set_option autoImplicit false

namespace SyscallNames.Piece

variable {done pieces : List (Piece Text)} {rest body : Text} {e : BraceError}

/-- The text starts with a brace that does not pair up, whatever stands in front of it. -/
inductive Unpaired : Text → BraceError → Prop
  | nested {body rest : Text} :
    body ≠ [] → Braceless body → Unpaired ('{' :: (body ++ '{' :: rest)) .nested
  | loneOpen : Unpaired ['{'] .loneOpen
  | unclosed {body : Text} : body ≠ [] → Braceless body → Unpaired ('{' :: body) .unclosed
  | loneClose {rest : Text} : rest.head? ≠ some '}' → Unpaired ('}' :: rest) .loneClose

theorem cut_of_unpaired (h : Unpaired rest e) : cut rest = ([], some e) := by
  rw [cut]
  cases h with
  | @nested body rest hne hbody =>
    obtain ⟨c, rev, hrev⟩ := List.exists_cons_of_ne_nil (mt List.reverse_eq_nil_iff.mp hne)
    rw [cutOnto_open_braceless hbody (absurd · hne), hrev, cutOnto]
    rfl
  | loneOpen => rfl
  | @unclosed body hne hbody =>
    obtain ⟨c, rev, hrev⟩ := List.exists_cons_of_ne_nil (mt List.reverse_eq_nil_iff.mp hne)
    have hopen : cutOnto [] none ('{' :: (body ++ [])) = cutOnto [] (some body.reverse) [] :=
      cutOnto_open_braceless hbody (absurd · hne)
    rw [List.append_nil] at hopen
    rw [hopen, hrev, cutOnto]
    rfl
  | loneClose hhead =>
    rw [cutOnto]
    · rfl
    · rintro tail rfl
      exact hhead rfl

theorem exists_unpaired_of_cutOnto {inner : Option Text}
    (hbraceless : ∀ body ∈ inner, Braceless body) (hopen : inner = some [] → rest.head? ≠ some '{')
    (h : cutOnto done inner rest = (pieces, some e)) :
    ∃ tail, Unpaired tail e ∧
      done.reverse.flatMap text ++ openText inner ++ rest = pieces.flatMap text ++ tail := by
  fun_induction cutOnto done inner rest with
  | case1 done => simp at h
  | case2 done rest ih => simpa [openText, text] using ih hbraceless (by simp) h
  | case3 done rest ih => simpa [openText, text] using ih hbraceless (by simp) h
  | case4 done rest hne ih =>
    have hhead : rest.head? ≠ some '{' := by
      intro hhead
      obtain ⟨tail, rfl⟩ := List.head?_eq_some_iff.mp hhead
      exact hne tail rfl
    simpa [openText] using ih (by simp [Braceless]) (fun _ => hhead) h
  | case5 done rest hne =>
    cases h
    refine ⟨'}' :: rest, .loneClose fun hhead => ?_, by simp [openText]⟩
    obtain ⟨tail, rfl⟩ := List.head?_eq_some_iff.mp hhead
    exact hne tail rfl
  | case6 done c rest _ _ ho hc ih =>
    have htext : (literal c : Piece Text).text = [c] := if_neg (not_or.mpr ⟨ho, hc⟩)
    simpa [openText, htext] using ih hbraceless (by simp) h
  | case7 done =>
    cases h
    exact ⟨['{'], .loneOpen, by simp [openText]⟩
  | case8 done c body =>
    cases h
    refine ⟨'{' :: (c :: body).reverse, .unclosed (by simp) fun d hd => ?_, by simp [openText]⟩
    exact hbraceless _ rfl d (List.mem_reverse.mp hd)
  | case9 done body rest ih => simpa [openText, text] using ih (by simp) (by simp) h
  | case10 done body rest =>
    cases h
    refine ⟨'{' :: (body.reverse ++ '{' :: rest), .nested ?_ fun d hd => ?_, by simp [openText]⟩
    · -- Two braces in a row are one piece, so the field has some text before the second one.
      intro hnil
      exact hopen (congrArg some (List.reverse_eq_nil_iff.mp hnil)) rfl
    · exact hbraceless _ rfl d (List.mem_reverse.mp hd)
  | case11 done body c rest hc ho ih =>
    have hbody : Braceless (c :: body) := List.forall_mem_cons.mpr ⟨⟨ho, hc⟩, hbraceless _ rfl⟩
    simpa [openText] using ih (fun b hb => Option.some.inj hb ▸ hbody) (by simp) h

theorem exists_unpaired_of_cut {source : Text} (h : cut source = (pieces, some e)) :
    ∃ tail, Unpaired tail e ∧ source = pieces.flatMap text ++ tail := by
  simpa [openText] using exists_unpaired_of_cutOnto (by simp) (by simp) h

theorem exists_tail_of_cut {source : Text} {fault : Option BraceError}
    (h : cut source = (pieces, fault)) : ∃ tail, source = pieces.flatMap text ++ tail := by
  cases fault with
  | none => exact ⟨[], by rw [List.append_nil, flatMap_text_cut h]⟩
  | some e =>
    obtain ⟨tail, -, hsource⟩ := exists_unpaired_of_cut h
    exact ⟨tail, hsource⟩

end SyscallNames.Piece
