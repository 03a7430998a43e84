import SyscallNames.Proofs.Json.Document

set_option autoImplicit false

namespace SyscallNames

theorem toNat_ofNat_of_isValidChar {n : Nat} (h : n.isValidChar) : (Char.ofNat n).toNat = n := by
  rw [Char.ofNat, dif_pos h]
  rfl

theorem Hexadecimal.lt_of_digit?_eq_some {c : Char} {n : Nat} (h : digit? c = some n) :
    n < 16 := by
  have hle (d : Char) : c ≤ d ↔ c.toNat ≤ d.toNat := Iff.rfl
  have h9 : '9'.toNat = 57 := rfl
  have hf : 'f'.toNat = 102 := rfl
  have hF : 'F'.toNat = 70 := rfl
  simp only [digit?, hle, h9, hf, hF] at h
  split at h
  · cases h
    omega
  · split at h
    · cases h
      omega
    · split at h
      · cases h
        omega
      · cases h

namespace Json

variable {text digits rest s : Text} {c : Char} {unit : Nat}

section Units

theorem readUnit_of_isUnit (h : IsUnit digits unit) (rest : Text) :
    readUnit (digits ++ rest) = .ok (unit, rest) := by
  obtain ⟨hlength, hhex, rfl⟩ := h
  match digits, hlength with
  | [a, b, c, d], _ =>
    obtain ⟨i, hi⟩ := Option.isSome_iff_exists.mp (hhex a (by simp))
    obtain ⟨j, hj⟩ := Option.isSome_iff_exists.mp (hhex b (by simp))
    obtain ⟨k, hk⟩ := Option.isSome_iff_exists.mp (hhex c (by simp))
    obtain ⟨l, hl⟩ := Option.isSome_iff_exists.mp (hhex d (by simp))
    simp [readUnit, Hexadecimal.value, hi, hj, hk, hl]

theorem isUnit_of_readUnit (h : readUnit text = .ok (unit, rest)) :
    ∃ digits, text = digits ++ rest ∧ IsUnit digits unit ∧ unit < 0x10000 := by
  unfold readUnit at h
  split at h
  · rename_i a b c d tail
    split at h
    · rename_i i j k l hi hj hk hl
      cases h
      refine ⟨[a, b, c, d], rfl, ⟨rfl, by simp [hi, hj, hk, hl], ?_⟩, ?_⟩
      · simp [Hexadecimal.value, hi, hj, hk, hl]
      · have hi := Hexadecimal.lt_of_digit?_eq_some hi
        have hj := Hexadecimal.lt_of_digit?_eq_some hj
        have hk := Hexadecimal.lt_of_digit?_eq_some hk
        have hl := Hexadecimal.lt_of_digit?_eq_some hl
        omega
    · cases h
  · split at h <;> cases h

theorem isLeading_iff : isLeading unit = true ↔ 0xD800 ≤ unit ∧ unit < 0xDC00 := by
  simp [isLeading]

theorem isTrailing_iff : isTrailing unit = true ↔ 0xDC00 ≤ unit ∧ unit < 0xE000 := by
  simp [isTrailing]

/-- No character has the number of a surrogate. -/
theorem not_surrogate (c : Char) : isLeading c.toNat = false ∧ isTrailing c.toNat = false := by
  have hvalid : c.toNat < 0xD800 ∨ (0xDFFF < c.toNat ∧ c.toNat < 0x110000) := c.valid
  rw [← Bool.not_eq_true, ← Bool.not_eq_true, isLeading_iff, isTrailing_iff]
  omega

end Units

section Escapes

variable {digits' : Text} {leading trailing : Nat} {letter : Char}

theorem readEscape_letter (h : escaped? letter = some c) (rest : Text) :
    readEscape (letter :: rest) = .ok (c, rest) := by
  unfold readEscape
  split
  · simp at *
  · rename_i heq
    cases heq
    simp [escaped?] at h
  · rename_i heq
    cases heq
    simp only [h]

theorem readEscape_unit (h : IsUnit digits c.toNat) (rest : Text) :
    readEscape ('u' :: (digits ++ rest)) = .ok (c, rest) := by
  simp only [readEscape, readUnit_of_isUnit h, not_surrogate c, Char.ofNat_toNat]
  rfl

theorem readEscape_pair (h : IsUnit digits leading) (h' : IsUnit digits' trailing)
    (hleading : isLeading leading = true) (htrailing : isTrailing trailing = true)
    (hc : c.toNat = 0x10000 + (leading - 0xD800) * 0x400 + (trailing - 0xDC00)) (rest : Text) :
    readEscape ('u' :: (digits ++ '\\' :: 'u' :: (digits' ++ rest))) = .ok (c, rest) := by
  have hnot : isTrailing leading = false := by
    rw [isLeading_iff] at hleading
    rw [← Bool.not_eq_true, isTrailing_iff]
    omega
  simp only [readEscape, readUnit_of_isUnit h, hnot, hleading, readPair, readUnit_of_isUnit h',
    htrailing, ← hc, Char.ofNat_toNat]
  rfl

theorem exists_pair_of_readPair (hleading : isLeading leading = true)
    (h : readPair leading text = .ok (c, rest)) :
    ∃ digits trailing, text = '\\' :: 'u' :: (digits ++ rest) ∧ IsUnit digits trailing ∧
      isTrailing trailing = true ∧
      c.toNat = 0x10000 + (leading - 0xD800) * 0x400 + (trailing - 0xDC00) := by
  unfold readPair at h
  split at h
  · cases h
  · cases h
  · split at h
    · cases h
    · rename_i trailing tail hunit
      obtain ⟨digits, rfl, hdigits, -⟩ := isUnit_of_readUnit hunit
      split at h
      · rename_i htrailing
        simp only [Except.ok.injEq, Prod.mk.injEq] at h
        obtain ⟨rfl, rfl⟩ := h
        refine ⟨digits, trailing, rfl, hdigits, htrailing, ?_⟩
        rw [isLeading_iff] at hleading
        rw [isTrailing_iff] at htrailing
        apply toNat_ofNat_of_isValidChar
        unfold Nat.isValidChar
        omega
      · cases h
  · cases h

theorem spells_of_readEscape {tail : Text} (h : readEscape text = .ok (c, tail))
    (hs : Spells tail s rest) : Spells ('\\' :: text) (c :: s) rest := by
  unfold readEscape at h
  split at h
  · cases h
  · split at h
    · cases h
    · rename_i unit behind hunit
      obtain ⟨digits, rfl, hdigits, hlt⟩ := isUnit_of_readUnit hunit
      split at h
      · cases h
      · rename_i htrailing
        split at h
        · rename_i hleading
          obtain ⟨digits', trailing, rfl, hdigits', htrailing, hc⟩ :=
            exists_pair_of_readPair hleading h
          exact .pair hdigits hdigits' hleading htrailing hc hs
        · rename_i hleading
          cases h
          rw [isLeading_iff] at hleading
          rw [isTrailing_iff] at htrailing
          have hvalid : unit.isValidChar := by
            unfold Nat.isValidChar
            omega
          exact .unit (by rwa [toNat_ofNat_of_isValidChar hvalid]) hs
  · split at h
    · rename_i hletter
      cases h
      exact .letter hletter hs
    · cases h

end Escapes

section Strings

theorem Spells.readStringOnto_eq (h : Spells text s rest) (done : Text) :
    readStringOnto done text = .ok (done.reverse ++ s, rest) := by
  induction h generalizing done with
  | quote => simp
  | plain hq hb hc _ ih => simpa [readStringOnto_plain hq hb hc] using ih (_ :: done)
  | letter hletter _ ih =>
    simpa [readStringOnto_escape (readEscape_letter hletter _)] using ih (_ :: done)
  | unit hunit _ ih =>
    simpa [readStringOnto_escape (readEscape_unit hunit _)] using ih (_ :: done)
  | pair hunit hunit' hleading htrailing hc _ ih =>
    simpa [readStringOnto_escape (readEscape_pair hunit hunit' hleading htrailing hc _)] using
      ih (_ :: done)

theorem exists_spells_of_readStringOnto {done : Text}
    (h : readStringOnto done text = .ok (s, rest)) :
    ∃ s', s = done.reverse ++ s' ∧ Spells text s' rest := by
  fun_induction readStringOnto done text with
  | case1 => cases h
  | case2 done tail =>
    cases h
    exact ⟨[], by simp, .quote⟩
  | case3 => cases h
  | case4 done tail d behind hescape _ _ ih =>
    obtain ⟨s', rfl, hs⟩ := ih h
    exact ⟨d :: s', by simp, spells_of_readEscape hescape hs⟩
  | case5 => cases h
  | case6 done c tail hq hb hc ih =>
    obtain ⟨s', rfl, hs⟩ := ih h
    exact ⟨c :: s', by simp, .plain hq hb hc hs⟩

theorem readString_eq_ok_iff : readString text = .ok (s, rest) ↔ Spells text s rest := by
  constructor
  · intro h
    obtain ⟨s', rfl, hs⟩ := exists_spells_of_readStringOnto h
    exact hs
  · intro h
    exact h.readStringOnto_eq []

theorem Spells.inside (h : Spells text s rest) : Inside text rest := by
  induction h with
  | quote => exact .quote
  | plain hq hb hc _ ih => exact .plain hq hb hc ih
  | letter hletter _ ih => exact .letter hletter ih
  | unit hunit _ ih => exact .unit hunit ih
  | pair hunit hunit' _ _ _ _ ih => exact .unit hunit (.unit hunit' ih)

theorem Inside.skipString_eq (h : Inside text rest) : skipString text = .ok rest := by
  induction h with
  | quote => exact skipString_quote _
  | plain hq hb hc _ ih => rw [skipString_plain hq hb hc, ih]
  | letter hletter _ ih =>
    refine (skipString_escape ?_).trans ih
    unfold skipEscape
    split
    · simp at *
    · rename_i heq
      cases heq
      simp [escaped?] at hletter
    · rename_i heq
      cases heq
      simp [hletter]
  | unit hunit _ ih =>
    refine (skipString_escape ?_).trans ih
    simp only [skipEscape, readUnit_of_isUnit hunit]
    rfl

theorem inside_of_skipEscape {tail : Text} (h : skipEscape text = .ok tail)
    (hinside : Inside tail rest) : Inside ('\\' :: text) rest := by
  unfold skipEscape at h
  split at h
  · cases h
  · obtain ⟨⟨unit, behind⟩, hunit, rfl⟩ := map_eq_ok.mp h
    obtain ⟨digits, rfl, hdigits, -⟩ := isUnit_of_readUnit hunit
    exact .unit hdigits hinside
  · split at h
    · rename_i hletter
      cases h
      obtain ⟨d, hd⟩ := Option.isSome_iff_exists.mp hletter
      exact .letter hd hinside
    · cases h

theorem skipString_eq_ok_iff : skipString text = .ok rest ↔ Inside text rest := by
  refine ⟨fun h => ?_, Inside.skipString_eq⟩
  fun_induction skipString text with
  | case1 => cases h
  | case2 tail =>
    cases h
    exact .quote
  | case3 => cases h
  | case4 tail behind hescape _ _ ih => exact inside_of_skipEscape hescape (ih h)
  | case5 => cases h
  | case6 c tail hq hb hc ih => exact .plain hq hb hc (ih h)

theorem Quoted.inside {s : Option Text} (h : Quoted text s rest) : Inside text rest := by
  cases h with
  | text hs => exact hs.inside
  | noText h _ => exact h

theorem exists_quoted_of_inside (h : Inside text rest) : ∃ s, Quoted text s rest := by
  by_cases hs : ∃ s rest', Spells text s rest'
  · obtain ⟨s, rest', hs⟩ := hs
    have hrest := hs.inside.skipString_eq.symm.trans h.skipString_eq
    cases hrest
    exact ⟨some s, .text hs⟩
  · simp only [not_exists] at hs
    exact ⟨none, .noText h hs⟩

/-- A quote opens at most one string. -/
theorem Quoted.unique {s s' : Option Text} {rest' : Text} (h : Quoted text s rest)
    (h' : Quoted text s' rest') : s = s' ∧ rest = rest' := by
  cases h with
  | text hs =>
    cases h' with
    | text hs' =>
      cases (readString_eq_ok_iff.mpr hs).symm.trans (readString_eq_ok_iff.mpr hs')
      exact ⟨rfl, rfl⟩
    | noText _ hno => exact absurd hs (hno _ _)
  | noText hinside hno =>
    cases h' with
    | text hs' => exact absurd hs' (hno _ _)
    | noText hinside' _ =>
      cases hinside.skipString_eq.symm.trans hinside'.skipString_eq
      exact ⟨rfl, rfl⟩

end Strings

end Json
end SyscallNames
