import SyscallNames.Utf8

set_option autoImplicit false

namespace SyscallNames.Utf8

variable {c d : Char}

theorem encode_injective {s t : Text} (h : encode s = encode t) : s = t := by
  have hd := congrArg decode? h
  rwa [decode?_encode, decode?_encode, Option.some.injEq] at hd

theorem encodeChar_of_lt (h : c.toNat < 0x80) :
    String.utf8EncodeChar c = [UInt8.ofNat c.toNat] := by
  rw [String.utf8EncodeChar]
  exact if_pos (Nat.le_of_lt_succ h)

theorem le_toNat_of_mem_encodeChar (h : 0x80 ≤ c.toNat) {b : UInt8}
    (hb : b ∈ String.utf8EncodeChar c) : 0x80 ≤ b.toNat := by
  have hc : c.toNat < 0xD800 ∨ (0xDFFF < c.toNat ∧ c.toNat < 0x110000) := c.valid
  have hbyte : ∀ n, 0x80 ≤ n → n < 0x100 → 0x80 ≤ (UInt8.ofNat n).toNat := by
    intro n hlow hhigh
    rwa [toNat_ofNat hhigh]
  rw [String.utf8EncodeChar] at hb
  simp only [show c.val.toNat = c.toNat from rfl] at hb
  split at hb
  · omega
  split at hb
  · simp only [List.mem_cons, List.not_mem_nil, or_false] at hb
    obtain rfl | rfl := hb <;> exact hbyte _ (by omega) (by omega)
  split at hb
  · simp only [List.mem_cons, List.not_mem_nil, or_false] at hb
    obtain rfl | rfl | rfl := hb <;> exact hbyte _ (by omega) (by omega)
  · simp only [List.mem_cons, List.not_mem_nil, or_false] at hb
    obtain rfl | rfl | rfl | rfl := hb <;> exact hbyte _ (by omega) (by omega)

theorem le_toNat_of_mem_encode {n : Nat} (hn : n ≤ 0x80) {t : Text} (h : ∀ c ∈ t, n ≤ c.toNat)
    {b : UInt8} (hb : b ∈ encode t) : n ≤ b.toNat := by
  obtain ⟨c, hc, hbc⟩ := List.mem_flatMap.mp hb
  rcases Nat.lt_or_ge c.toNat 0x80 with hlt | hge
  · rw [encodeChar_of_lt hlt, List.mem_singleton] at hbc
    rw [hbc, toNat_ofNat (by omega)]
    exact h c hc
  · exact Nat.le_trans hn (le_toNat_of_mem_encodeChar hge hbc)

theorem encode_cons_of_lt (h : c.toNat < 0x80) (t : Text) :
    encode (c :: t) = UInt8.ofNat c.toNat :: encode t := by
  rw [encode, List.flatMap_cons, encodeChar_of_lt h]
  rfl

@[simp]
theorem encode_eq_nil {t : Text} : encode t = [] ↔ t = [] := by
  constructor
  · intro h
    exact encode_injective h
  · rintro rfl
    rfl

theorem ofNat_toNat_inj (hc : c.toNat < 0x80) (hd : d.toNat < 0x80) :
    UInt8.ofNat c.toNat = UInt8.ofNat d.toNat ↔ c = d := by
  rw [← UInt8.toNat_inj, toNat_ofNat (by omega), toNat_ofNat (by omega), Char.toNat_inj]

theorem count_encodeChar (hc : c.toNat < 0x80) (d : Char) :
    (String.utf8EncodeChar d).count (UInt8.ofNat c.toNat) = [d].count c := by
  rcases Nat.lt_or_ge d.toNat 0x80 with hd | hd
  · rw [encodeChar_of_lt hd, List.count_singleton, List.count_singleton]
    simp only [beq_iff_eq, ofNat_toNat_inj hd hc]
  · have hne : d ≠ c := by
      rintro rfl
      omega
    have hmem : UInt8.ofNat c.toNat ∉ String.utf8EncodeChar d := by
      intro hmem
      have := le_toNat_of_mem_encodeChar hd hmem
      rw [toNat_ofNat (by omega)] at this
      omega
    rw [List.count_eq_zero.mpr hmem, List.count_singleton, if_neg (by simpa using hne)]

theorem head?_encode (hc : c.toNat < 0x80) {t : Text}
    (h : (encode t).head? = some (UInt8.ofNat c.toNat)) : t.head? = some c := by
  cases t with
  | nil => cases h
  | cons d t =>
    obtain ⟨b, bs, hd, -⟩ := readChar_encode d []
    have hcount := count_encodeChar hc d
    rw [encode, List.flatMap_cons, hd, List.cons_append, List.head?_cons, Option.some.injEq] at h
    rw [hd, h, List.count_cons_self] at hcount
    have hmem : c ∈ [d] := List.count_pos_iff.mp (by omega)
    rw [List.head?_cons, List.mem_singleton.mp hmem]

theorem count_encode (hc : c.toNat < 0x80) (t : Text) :
    (encode t).count (UInt8.ofNat c.toNat) = t.count c := by
  induction t with
  | nil => rfl
  | cons d t ih =>
    have hcons : (d :: t).count c = [d].count c + t.count c := by
      rw [← List.count_append]
      rfl
    rw [hcons, ← ih, ← count_encodeChar hc d, ← List.count_append]
    rfl

end SyscallNames.Utf8
