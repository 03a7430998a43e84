import SyscallNames.Proofs.Declaration.Occurrence

set_option autoImplicit false

namespace SyscallNames.Declaration

section Names

def IsNameChar (c : Char) : Prop := ('a' ≤ c ∧ c ≤ 'z') ∨ ('0' ≤ c ∧ c ≤ '9') ∨ c = '_'

theorem toNat_of_isNameByte {b : UInt8} (h : isNameByte b = true) :
    (0x61 ≤ b.toNat ∧ b.toNat ≤ 0x7A) ∨ (0x30 ≤ b.toNat ∧ b.toNat ≤ 0x39) ∨ b.toNat = 0x5F := by
  simpa [isNameByte, UInt8.le_iff_toNat_le, ← UInt8.toNat_inj, or_assoc] using h

theorem toNat_ofNat_of_isNameByte {b : UInt8} (h : isNameByte b = true) :
    (Char.ofNat b.toNat).toNat = b.toNat := by
  have hb := toNat_of_isNameByte h
  rw [Char.ofNat, dif_pos (.inl (by omega))]
  rfl

theorem isNameChar_ofNat {b : UInt8} (h : isNameByte b = true) :
    IsNameChar (Char.ofNat b.toNat) := by
  have hb := toNat_of_isNameByte h
  have hc := toNat_ofNat_of_isNameByte h
  simp only [IsNameChar, Char.le_def, UInt32.le_iff_toNat_le, ← Char.toNat_inj]
  change (97 ≤ (Char.ofNat b.toNat).toNat ∧ (Char.ofNat b.toNat).toNat ≤ 122) ∨
    (48 ≤ (Char.ofNat b.toNat).toNat ∧ (Char.ofNat b.toNat).toNat ≤ 57) ∨
      (Char.ofNat b.toNat).toNat = 95
  omega

theorem encodeChar_of_isNameByte {b : UInt8} (h : isNameByte b = true) :
    String.utf8EncodeChar (Char.ofNat b.toNat) = [b] := by
  have hb := toNat_of_isNameByte h
  have hc := toNat_ofNat_of_isNameByte h
  rw [String.utf8EncodeChar]
  simp only [show (Char.ofNat b.toNat).val.toNat = (Char.ofNat b.toNat).toNat from rfl, hc]
  rw [if_pos (by omega)]
  simp

theorem encode_nameText {bs : Bytes} (h : ∀ b ∈ bs, isNameByte b = true) :
    Utf8.encode (nameText bs) = bs := by
  induction bs with
  | nil => rfl
  | cons b bs ih =>
    have hrest := ih fun c hc => h c (List.mem_cons_of_mem _ hc)
    simp only [Utf8.encode, nameText, List.map_cons, List.flatMap_cons] at hrest ⊢
    rw [encodeChar_of_isNameByte (h b List.mem_cons_self), hrest]
    rfl

end Names

variable {text : Bytes} {line p q : Nat} {d : Declaration}

theorem isNameByte_of_mem_nameBytes {b : UInt8} (h : b ∈ nameBytes text p) : isNameByte b = true := by
  have := List.all_takeWhile (p := isNameByte) (l := text.drop (p + 20))
  exact List.all_eq_true.mp this b h

theorem nameBytes_eq_take (text : Bytes) (p : Nat) :
    nameBytes text p = (text.drop (p + 20)).take (nameEnd text p - (p + 20)) := by
  have hlen : nameEnd text p - (p + 20) = (nameBytes text p).length := Nat.add_sub_cancel_left _ _
  rw [hlen]
  exact List.prefix_iff_eq_take.mp (List.takeWhile_prefix _)

theorem le_offset_of_mem (h : d ∈ extractFrom line p (text.drop p)) : p ≤ d.offset := by
  induction p using scan_induction text generalizing line with
  | past p hp => simp [extractFrom_of_length_le line hp] at h
  | step p hp hno ih =>
    rw [extractFrom_of_not_occursAt line hp hno] at h
    have := ih h
    omega
  | found p ho ih =>
    rw [extractFrom_of_occursAt line ho] at h
    obtain rfl | h := List.mem_cons.mp h
    · exact Nat.le_refl p
    · have := ih h
      have := le_nameEnd text p
      omega

theorem occursAt_of_mem (h : d ∈ extractFrom line p (text.drop p)) :
    OccursAt text d.offset ∧ d.name = nameText (nameBytes text d.offset) := by
  induction p using scan_induction text generalizing line with
  | past p hp => simp [extractFrom_of_length_le line hp] at h
  | step p hp hno ih =>
    rw [extractFrom_of_not_occursAt line hp hno] at h
    exact ih h
  | found p ho ih =>
    rw [extractFrom_of_occursAt line ho] at h
    obtain rfl | h := List.mem_cons.mp h
    · exact ⟨ho, rfl⟩
    · exact ih h

theorem pairwise_nameEnd_le (text : Bytes) (line p : Nat) :
    (extractFrom line p (text.drop p)).Pairwise fun d e => nameEnd text d.offset ≤ e.offset := by
  induction p using scan_induction text generalizing line with
  | past p hp => simp [extractFrom_of_length_le line hp]
  | step p hp hno ih =>
    rw [extractFrom_of_not_occursAt line hp hno]
    exact ih _
  | found p ho ih =>
    rw [extractFrom_of_occursAt line ho]
    exact List.pairwise_cons.mpr ⟨fun e he => le_offset_of_mem he, ih _⟩

/-- An occurrence is found, or a declaration in front of it reaches into it. -/
theorem exists_mem_of_occursAt (hq : OccursAt text q) (hpq : p ≤ q) (line : Nat) :
    ∃ d ∈ extractFrom line p (text.drop p),
      d.offset = q ∨ (d.offset < q ∧ q < nameEnd text d.offset) := by
  induction p using scan_induction text generalizing line with
  | past p hp =>
    have := hq.lt_length
    omega
  | step p hp hno ih =>
    rw [extractFrom_of_not_occursAt line hp hno]
    rcases Nat.eq_or_lt_of_le hpq with rfl | hlt
    · exact absurd hq hno
    · exact ih hlt _
  | found p ho ih =>
    rw [extractFrom_of_occursAt line ho]
    rcases Nat.lt_or_ge q (nameEnd text p) with hlt | hge
    · refine ⟨_, List.mem_cons_self, ?_⟩
      rcases Nat.eq_or_lt_of_le hpq with heq | hpq
      · exact .inl heq
      · exact .inr ⟨hpq, hlt⟩
    · obtain ⟨d, hd, h⟩ := ih hge line
      exact ⟨d, List.mem_cons_of_mem _ hd, h⟩

theorem line_add_le_of_mem (h : d ∈ extractFrom line p (text.drop p)) :
    d.line + p ≤ line + d.offset := by
  induction p using scan_induction text generalizing line with
  | past p hp => simp [extractFrom_of_length_le line hp] at h
  | step p hp hno ih =>
    rw [extractFrom_of_not_occursAt line hp hno] at h
    have hline := ih h
    have hnext : nextLine line text[p] ≤ line + 1 := by
      rw [nextLine]
      split <;> omega
    omega
  | found p ho ih =>
    rw [extractFrom_of_occursAt line ho] at h
    obtain rfl | h := List.mem_cons.mp h
    · exact Nat.le_refl _
    · have hline := ih h
      have hend := le_nameEnd text p
      omega

theorem length_extractFrom_le (text : Bytes) (line p : Nat) :
    (extractFrom line p (text.drop p)).length ≤ text.length - p := by
  induction p using scan_induction text generalizing line with
  | past p hp => simp [extractFrom_of_length_le line hp]
  | step p hp hno ih =>
    rw [extractFrom_of_not_occursAt line hp hno]
    have hrest := ih (nextLine line text[p])
    omega
  | found p ho ih =>
    rw [extractFrom_of_occursAt line ho, List.length_cons]
    have hrest := ih line
    have hlen := ho.lt_length
    have hend := le_nameEnd text p
    omega

end SyscallNames.Declaration
