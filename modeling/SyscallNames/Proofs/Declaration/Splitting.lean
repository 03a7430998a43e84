import SyscallNames.Declaration

set_option autoImplicit false

namespace SyscallNames.Declaration

/-- A byte that neither the keyword nor a name can hold. -/
structure IsSeparator (c : UInt8) : Prop where
  not_isNameByte : isNameByte c = false
  ne_blank : c ≠ 0x20

/-- The declaration as it is found that many lines and bytes further on. -/
def moved (lines bytes : Nat) (d : Declaration) : Declaration :=
  { d with line := d.line + lines, offset := d.offset + bytes }

theorem nextLine_eq (line : Nat) (b : UInt8) : nextLine line b = line + [b].count newline := by
  by_cases hb : b = newline <;> simp [nextLine, hb]

theorem isNameByte_or_blank_of_mem_keyword {b : UInt8} (h : b ∈ keyword) :
    isNameByte b = true ∨ b = 0x20 := by
  have hall : keyword.all (fun b => isNameByte b || b = 0x20) = true := by decide
  simpa using List.all_eq_true.mp hall b h

theorem IsSeparator.not_mem_keyword {c : UInt8} (hc : IsSeparator c) : c ∉ keyword := by
  intro hmem
  rcases isNameByte_or_blank_of_mem_keyword hmem with hname | hblank
  · rw [hc.not_isNameByte] at hname
    cases hname
  · exact hc.ne_blank hblank

theorem isSeparator_newline : IsSeparator newline := ⟨by decide, by decide⟩

section NameAt

variable {text a b : Bytes} {c : UInt8}

theorem eq_keyword_append_of_nameAt_ne_nil (h : nameAt text ≠ []) :
    text = keyword ++ (nameAt text ++ text.drop (keyword.length + (nameAt text).length)) := by
  by_cases hk : keyword.isPrefixOf text = true
  · obtain ⟨rest, rfl⟩ := List.isPrefixOf_iff_prefix.mp hk
    have hname : nameAt (keyword ++ rest) = rest.takeWhile isNameByte := by
      rw [nameAt, if_pos hk, List.drop_left]
    rw [hname, List.drop_append, List.drop_eq_nil_of_le (Nat.le_add_right _ _), List.nil_append,
      Nat.add_sub_cancel_left]
    congr 1
    exact (List.prefix_iff_eq_append.mp (List.takeWhile_prefix _)).symm
  · exact absurd (by rw [nameAt, if_neg hk]) h

theorem isNameByte_of_mem_nameAt {x : UInt8} (h : x ∈ nameAt text) : isNameByte x = true := by
  rw [nameAt] at h
  split at h
  · exact List.all_eq_true.mp List.all_takeWhile x h
  · cases h

theorem keyword_prefix_append_separator_iff (hc : IsSeparator c) :
    keyword <+: a ++ c :: b ↔ keyword <+: a := by
  constructor
  · intro h
    rcases List.prefix_or_prefix_of_prefix h (List.prefix_append a (c :: b)) with ha | ha
    · exact ha
    · -- Otherwise the keyword reaches behind `a`, and so up to the separator.
      obtain ⟨rest, hrest⟩ := ha
      rw [← hrest, List.prefix_append_right_inj] at h
      cases rest with
      | nil =>
        rw [List.append_nil] at hrest
        exact hrest ▸ List.prefix_rfl
      | cons x rest =>
        obtain ⟨rfl, -⟩ := List.cons_prefix_cons.mp h
        exact absurd (hrest ▸ by simp) hc.not_mem_keyword
  · intro h
    exact List.prefix_append_of_prefix h

theorem nameAt_append_separator (hc : IsSeparator c) (a b : Bytes) :
    nameAt (a ++ c :: b) = nameAt a := by
  rw [nameAt, nameAt]
  by_cases hk : keyword <+: a
  · rw [if_pos (List.isPrefixOf_iff_prefix.mpr ((keyword_prefix_append_separator_iff hc).mpr hk)),
      if_pos (List.isPrefixOf_iff_prefix.mpr hk), List.drop_append_of_le_length hk.length_le,
      List.takeWhile_append, List.takeWhile_cons_of_neg (by simp [hc.not_isNameByte]),
      List.append_nil, ite_eq_right_iff]
    intro hlen
    exact ((List.takeWhile_prefix _).eq_of_length hlen).symm
  · have hk' := mt (keyword_prefix_append_separator_iff (b := b) hc).mp hk
    rw [if_neg (by rwa [List.isPrefixOf_iff_prefix]), if_neg (by rwa [List.isPrefixOf_iff_prefix])]

theorem length_le_of_nameAt_ne_nil (h : nameAt text ≠ []) :
    keyword.length + (nameAt text).length ≤ text.length := by
  have hlen := congrArg List.length (eq_keyword_append_of_nameAt_ne_nil h)
  simp only [List.length_append] at hlen
  omega

theorem count_newline_drop_of_nameAt_ne_nil (h : nameAt text ≠ []) :
    (text.drop (keyword.length + (nameAt text).length)).count newline = text.count newline := by
  have hkeyword : keyword.count newline = 0 :=
    List.count_eq_zero.mpr isSeparator_newline.not_mem_keyword
  have hname : (nameAt text).count newline = 0 :=
    List.count_eq_zero.mpr fun hmem => absurd (isNameByte_of_mem_nameAt hmem) (by decide)
  have hcount := congrArg (List.count newline) (eq_keyword_append_of_nameAt_ne_nil h)
  rw [List.count_append, List.count_append, hkeyword, hname, Nat.zero_add, Nat.zero_add] at hcount
  exact hcount.symm

theorem extractFrom_of_nameAt (h : nameAt text ≠ []) (line offset : Nat) :
    extractFrom line offset text =
      { name := nameText (nameAt text), line, offset } ::
        extractFrom line (offset + (keyword.length + (nameAt text).length))
          (text.drop (keyword.length + (nameAt text).length)) := by
  cases text with
  | nil => exact absurd rfl h
  | cons x rest =>
    rw [extractFrom_of_nameAt_ne_nil h, length_keyword, Nat.add_right_comm 19 1, List.drop_succ_cons]
    rfl

end NameAt

/-- What holds of the empty text, and of a text if it holds of what the scan leaves of it, holds of
every text. -/
theorem front_induction {motive : Bytes → Prop} (nil : motive [])
    (step : ∀ x rest, nameAt (x :: rest) = [] → motive rest → motive (x :: rest))
    (found : ∀ text, nameAt text ≠ [] →
      motive (text.drop (keyword.length + (nameAt text).length)) → motive text)
    (text : Bytes) : motive text :=
  match text with
  | [] => nil
  | x :: rest =>
    if h : nameAt (x :: rest) = [] then step x rest h (front_induction nil step found rest)
    else found (x :: rest) h (front_induction nil step found _)
termination_by text.length
decreasing_by
  · simp
  · rw [List.length_drop, List.length_cons, length_keyword]
    omega

theorem extractFrom_moved (line offset lines bytes : Nat) (text : Bytes) :
    extractFrom (line + lines) (offset + bytes) text =
      (extractFrom line offset text).map (moved lines bytes) := by
  induction text using front_induction generalizing line offset with
  | nil => rw [extractFrom, extractFrom, List.map_nil]
  | step x rest hname ih =>
    rw [extractFrom_of_nameAt_eq_nil hname, extractFrom_of_nameAt_eq_nil hname, ← ih,
      nextLine_eq, nextLine_eq, Nat.add_right_comm line, Nat.add_right_comm offset]
  | found text hname ih =>
    rw [extractFrom_of_nameAt hname, extractFrom_of_nameAt hname, List.map_cons, ← ih,
      Nat.add_right_comm offset]
    rfl

theorem extractFrom_append_separator {c : UInt8} (hc : IsSeparator c) (a b : Bytes)
    (line offset : Nat) :
    extractFrom line offset (a ++ c :: b) =
      extractFrom line offset a ++
        extractFrom (line + (a ++ [c]).count newline) (offset + (a.length + 1)) b := by
  -- The front is scanned as if it stood alone, since nothing found in it reaches the separator.
  induction a using front_induction generalizing line offset with
  | nil =>
    have hname : nameAt (c :: b) = [] := nameAt_append_separator hc [] b
    rw [List.nil_append, extractFrom_of_nameAt_eq_nil hname, extractFrom, nextLine_eq]
    rfl
  | step x a hname ih =>
    have hname' : nameAt (x :: (a ++ c :: b)) = [] :=
      (nameAt_append_separator hc (x :: a) b).trans hname
    have hcount : (x :: a ++ [c]).count newline = [x].count newline + (a ++ [c]).count newline := by
      rw [← List.count_append]
      rfl
    rw [List.cons_append, extractFrom_of_nameAt_eq_nil hname', extractFrom_of_nameAt_eq_nil hname,
      ih, nextLine_eq, hcount, List.length_cons, Nat.add_assoc line, Nat.add_assoc offset,
      Nat.add_comm 1]
  | found a hname ih =>
    have hname' := nameAt_append_separator hc a b
    have hlen := length_le_of_nameAt_ne_nil hname
    rw [extractFrom_of_nameAt (hname' ▸ hname), hname', extractFrom_of_nameAt hname,
      List.drop_append_of_le_length hlen, ih, List.cons_append, List.count_append,
      count_newline_drop_of_nameAt_ne_nil hname, ← List.count_append, List.length_drop]
    congr 3
    omega

/-- What stands on both sides of a separator is found as if each side were a text of its own. -/
theorem extract_append_separator {c : UInt8} (hc : IsSeparator c) (a b : Bytes) :
    extract (a ++ [c] ++ b) =
        extract a ++ (extract b).map (moved ((a ++ [c]).count newline) (a.length + 1)) ∧
      names (a ++ [c] ++ b) = names a ++ names b := by
  have hextract : extract (a ++ [c] ++ b) =
      extract a ++ (extract b).map (moved ((a ++ [c]).count newline) (a.length + 1)) := by
    rw [List.append_assoc, List.singleton_append, extract, extractFrom_append_separator hc,
      extractFrom_moved]
    rfl
  refine ⟨hextract, ?_⟩
  rw [names, hextract, List.map_append, List.map_map]
  rfl

/-- The separator cuts one keyword in two, and the name behind it takes in the start of another. -/
theorem extract_cut_keyword :
    let front := Utf8.encode "asmlinkage long sys_read\nasmlinkage long".toList
    let back := Utf8.encode "sys_open asmlinkage long sys_asmlinkage long sys_close".toList
    IsSeparator 0xFF ∧
      extract (front ++ [0xFF] ++ back) =
        [{ name := "read".toList, line := 1, offset := 0 },
          { name := "asmlinkage".toList, line := 2, offset := 50 }] := by
  intro front back
  have hc : IsSeparator 0xFF := ⟨by decide, by decide⟩
  refine ⟨hc, ?_⟩
  rw [(extract_append_separator hc front back).1]
  decide +kernel

end SyscallNames.Declaration
