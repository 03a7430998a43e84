import SyscallNames.Proofs.Declaration.Exactness

set_option autoImplicit false

namespace SyscallNames.Declaration

instance : DecidablePred IsNameChar := fun c =>
  inferInstanceAs (Decidable ((_ ∧ _) ∨ (_ ∧ _) ∨ c = _))

/-- At least one character, and only lower-case letters, digits and underscores. -/
structure IsName (name : Text) : Prop where
  ne_nil : name ≠ []
  isNameChar : ∀ c ∈ name, IsNameChar c

theorem isName_iff {name : Text} :
    IsName name ↔ name ≠ [] ∧ name.all (IsNameChar ·) = true := by
  constructor
  · intro h
    exact ⟨h.ne_nil, List.all_eq_true.mpr fun c hc => decide_eq_true (h.isNameChar c hc)⟩
  · rintro ⟨hne, hall⟩
    exact ⟨hne, fun c hc => of_decide_eq_true (List.all_eq_true.mp hall c hc)⟩

instance : DecidablePred IsName := fun _ => decidable_of_iff _ isName_iff.symm

theorem IsNameChar.toNat {c : Char} (h : IsNameChar c) :
    (0x61 ≤ c.toNat ∧ c.toNat ≤ 0x7A) ∨ (0x30 ≤ c.toNat ∧ c.toNat ≤ 0x39) ∨ c.toNat = 0x5F := by
  simp only [IsNameChar, Char.le_def, UInt32.le_iff_toNat_le, ← Char.toNat_inj] at h
  exact h

theorem IsNameChar.exists_byte {c : Char} (h : IsNameChar c) :
    ∃ b, isNameByte b = true ∧ Char.ofNat b.toNat = c := by
  have hc := h.toNat
  have hb : (UInt8.ofNat c.toNat).toNat = c.toNat := Utf8.toNat_ofNat (by omega)
  refine ⟨UInt8.ofNat c.toNat, ?_, by rw [hb, Char.ofNat_toNat]⟩
  simp only [isNameByte, Bool.or_eq_true, Bool.and_eq_true, decide_eq_true_eq,
    UInt8.le_iff_toNat_le, ← UInt8.toNat_inj, hb]
  change ((0x61 ≤ c.toNat ∧ c.toNat ≤ 0x7A) ∨ (0x30 ≤ c.toNat ∧ c.toNat ≤ 0x39)) ∨ c.toNat = 0x5F
  omega

section Encoding

variable {name : Text}

theorem exists_nameText_eq (h : ∀ c ∈ name, IsNameChar c) :
    ∃ bs, (∀ b ∈ bs, isNameByte b = true) ∧ nameText bs = name := by
  induction name with
  | nil => exact ⟨[], by simp, rfl⟩
  | cons c name ih =>
    obtain ⟨b, hb, rfl⟩ := (h c List.mem_cons_self).exists_byte
    obtain ⟨bs, hbs, rfl⟩ := ih fun d hd => h d (List.mem_cons_of_mem _ hd)
    exact ⟨b :: bs, List.forall_mem_cons.mpr ⟨hb, hbs⟩, rfl⟩

theorem isNameByte_of_mem_encode (h : ∀ c ∈ name, IsNameChar c) :
    ∀ b ∈ Utf8.encode name, isNameByte b = true := by
  obtain ⟨bs, hbs, rfl⟩ := exists_nameText_eq h
  rwa [encode_nameText hbs]

theorem nameText_encode (h : ∀ c ∈ name, IsNameChar c) : nameText (Utf8.encode name) = name := by
  obtain ⟨bs, hbs, rfl⟩ := exists_nameText_eq h
  rw [encode_nameText hbs]

end Encoding

theorem isName_of_mem_extract {text : Bytes} {d : Declaration} (h : d ∈ extract text) :
    IsName d.name := by
  obtain ⟨-, hne, hchars⟩ := name_of_mem_extract h
  exact ⟨hne, hchars⟩

theorem isName_of_mem_names {text : Bytes} {name : Text} (h : name ∈ names text) : IsName name := by
  obtain ⟨d, hd, rfl⟩ := List.mem_map.mp h
  exact isName_of_mem_extract hd

end SyscallNames.Declaration
