import SyscallNames.Proofs.Json.Document

set_option autoImplicit false

namespace SyscallNames

namespace Decimal

theorem toNat_sub_lt_of_isDigit {c : Char} (h : c.isDigit = true) : c.toNat - 48 < 10 := by
  simp only [Char.isDigit, Bool.and_eq_true, decide_eq_true_eq] at h
  have hhigh : c.toNat ≤ 57 := h.2
  omega

theorem digits_of_isDigit {c : Char} (h : c.isDigit = true) : digits (c.toNat - 48) = [c] := by
  have hlt := toNat_sub_lt_of_isDigit h
  simp only [Char.isDigit, Bool.and_eq_true, decide_eq_true_eq] at h
  have hlow : 48 ≤ c.toNat := h.1
  rw [digits, Nat.toDigits_of_lt_base hlt, List.cons.injEq]
  refine ⟨Char.toNat_inj.mp ?_, rfl⟩
  rw [Nat.toNat_digitChar_of_lt_ten hlt]
  omega

theorem digits_ofDigitChars {n : Nat} {ds : Text} (hn : 0 < n)
    (hd : ∀ c ∈ ds, c.isDigit = true) :
    digits (Nat.ofDigitChars 10 ds n) = digits n ++ ds := by
  induction ds generalizing n with
  | nil => simp
  | cons c ds ih =>
    obtain ⟨hc, hds⟩ := List.forall_mem_cons.mp hd
    have hzero : '0'.toNat = 48 := rfl
    have hstep := Nat.toDigits_append_toDigits (by decide) hn (toNat_sub_lt_of_isDigit hc)
    rw [Nat.ofDigitChars_cons, hzero, ih (by omega) hds, digits, ← hstep]
    change digits n ++ digits (c.toNat - 48) ++ ds = _
    rw [digits_of_isDigit hc, List.append_assoc]
    rfl

theorem digits_value {ds : Text} (hne : ds ≠ []) (hd : ∀ c ∈ ds, c.isDigit = true)
    (hzero : ds.head? = some '0' → ds = ['0']) : digits (value ds) = ds := by
  obtain ⟨c, ds, rfl⟩ := List.exists_cons_of_ne_nil hne
  obtain ⟨hc, hds⟩ := List.forall_mem_cons.mp hd
  by_cases h : c = '0'
  · rw [hzero (congrArg some h)]
    decide
  · have hpos : 0 < c.toNat - 48 := by
      rcases Nat.eq_zero_or_pos (c.toNat - 48) with h0 | hpos
      · have hone := digits_of_isDigit hc
        rw [h0] at hone
        exact absurd (List.cons.inj hone).1.symm h
      · exact hpos
    have hvalue : value (c :: ds) = Nat.ofDigitChars 10 ds (c.toNat - 48) := by
      simp [value, Nat.ofDigitChars_cons]
    rw [hvalue, digits_ofDigitChars hpos hds, digits_of_isDigit hc]
    rfl

end Decimal

namespace Json

variable {text ds rest : Text} {n : Numeral}

section Readers

theorem Digits.readDigits_eq (h : Digits ds) (hrest : ∀ c ∈ rest.head?, c.isDigit = false) :
    readDigits (ds ++ rest) = .ok (ds, rest) :=
  readDigits_append h.1 h.2 hrest

theorem digits_of_readDigits (h : readDigits text = .ok (ds, rest)) :
    text = ds ++ rest ∧ Digits ds := by
  unfold readDigits at h
  split at h
  · cases h
  · rename_i c tail
    split at h
    · rename_i hc
      cases h
      refine ⟨List.takeWhile_append_dropWhile.symm, ?_, List.all_eq_true.mp List.all_takeWhile⟩
      rw [List.takeWhile_cons_of_pos hc]
      exact List.cons_ne_nil _ _
    · cases h

theorem exists_of_readInteger (h : readInteger text = .ok (ds, rest)) :
    ∃ n, ds = Decimal.digits n ∧ text = Decimal.digits n ++ rest := by
  unfold readInteger at h
  split at h
  · split at h
    · cases h
    · cases h
      exact ⟨0, rfl, rfl⟩
  · rename_i hzero
    obtain ⟨rfl, hne, hd⟩ := digits_of_readDigits h
    have hnumeral : Decimal.digits (Decimal.value ds) = ds := by
      refine Decimal.digits_value hne hd fun hhead => ?_
      obtain ⟨tail, rfl⟩ := List.head?_eq_some_iff.mp hhead
      cases tail with
      | nil => rfl
      | cons c tail => exact absurd rfl (hzero c (tail ++ rest))
    exact ⟨Decimal.value ds, hnumeral.symm, by rw [hnumeral]⟩

theorem Digits.skipDigits_eq (h : Digits ds) (hrest : ∀ c ∈ rest.head?, c.isDigit = false) :
    skipDigits (ds ++ rest) = .ok rest := by
  rw [skipDigits, h.readDigits_eq hrest]

theorem exists_of_skipDigits (h : skipDigits text = .ok rest) :
    ∃ ds, Digits ds ∧ text = ds ++ rest := by
  rw [skipDigits] at h
  split at h
  · cases h
  · rename_i ds _ hread
    cases h
    obtain ⟨rfl, hds⟩ := digits_of_readDigits hread
    exact ⟨ds, hds, rfl⟩

end Readers

section Numerals

theorem isDigit_head?_digits (n : Nat) : ∃ c ds, Decimal.digits n = c :: ds ∧ c.isDigit = true := by
  have hne : Decimal.digits n ≠ [] := Nat.toDigits_ne_nil
  obtain ⟨c, ds, h⟩ := List.exists_cons_of_ne_nil hne
  exact ⟨c, ds, h, Decimal.isDigit_of_mem_digits (by rw [h]; exact List.mem_cons_self)⟩

theorem Exponent.WellFormed.skipExponent_eq {e : Exponent} (h : e.WellFormed)
    (hrest : ∀ c ∈ rest.head?, c.isDigit = false) : skipExponent (e.text ++ rest) = .ok rest := by
  obtain ⟨mark, sign, ds⟩ := e
  obtain ⟨hmark, hsign, hds⟩ := h
  simp only at hmark hsign hds
  have hskip := hds.skipDigits_eq hrest
  simp only [Exponent.text, List.cons_append, skipExponent, hmark, if_true]
  cases sign with
  | some c =>
    obtain rfl | rfl := hsign c rfl
    · exact hskip
    · exact hskip
  | none =>
    obtain ⟨hne, hd⟩ := hds
    obtain ⟨c, tail, rfl⟩ := List.exists_cons_of_ne_nil hne
    have hc := hd c List.mem_cons_self
    simp only [Option.toList_none, List.nil_append, List.cons_append]
    split
    · rename_i heq
      cases heq
      exact absurd hc (by decide)
    · rename_i heq
      cases heq
      exact absurd hc (by decide)
    · exact hskip

theorem exists_of_skipExponent (h : skipExponent text = .ok rest) :
    ∃ e : Option Exponent, (∀ x ∈ e, x.WellFormed) ∧ text = e.elim [] Exponent.text ++ rest := by
  unfold skipExponent at h
  split at h
  · cases h
    exact ⟨none, by simp, rfl⟩
  · rename_i mark tail
    split at h
    · rename_i hmark
      have hsome (sign : Option Char) (hsign : ∀ c ∈ sign, c = '+' ∨ c = '-') {behind : Text}
          (hskip : skipDigits behind = .ok rest) :
          ∃ e : Option Exponent, (∀ x ∈ e, x.WellFormed) ∧
            mark :: (sign.toList ++ behind) = e.elim [] Exponent.text ++ rest := by
        obtain ⟨ds, hds, rfl⟩ := exists_of_skipDigits hskip
        refine ⟨some ⟨mark, sign, ds⟩, ?_, by simp [Exponent.text]⟩
        rintro e heq
        cases heq
        exact ⟨hmark, hsign, hds⟩
      split at h
      · exact hsome (some '-') (by simp) h
      · exact hsome (some '+') (by simp) h
      · exact hsome none (by simp) h
    · cases h
      exact ⟨none, by simp, rfl⟩

theorem Numeral.head?_exponentText (h : n.WellFormed) (hrest : Delimited rest) :
    ∀ c ∈ (n.exponentText ++ rest).head?, c.isDigit = false ∧ c ≠ '.' := by
  intro c hc
  cases he : n.exponent with
  | none =>
    rw [exponentText, he] at hc
    exact ⟨(hrest c hc).1, (hrest c hc).2.1⟩
  | some e =>
    rw [exponentText, he] at hc
    obtain rfl : e.mark = c := by simpa [Exponent.text] using hc
    have hmark := (h.exponent e he).mark
    simp only [isExponentMark, Bool.or_eq_true, decide_eq_true_eq] at hmark
    obtain hmark | hmark := hmark <;> rw [hmark] <;> decide

theorem Numeral.skipExponent_eq (h : n.WellFormed) (hrest : Delimited rest) :
    skipExponent (n.exponentText ++ rest) = .ok rest := by
  cases he : n.exponent with
  | none =>
    rw [exponentText, he]
    cases rest with
    | nil => rfl
    | cons c rest =>
      have hmark := (hrest c rfl).2.2
      simp [skipExponent, hmark]
  | some e =>
    rw [exponentText, he]
    exact (h.exponent e he).skipExponent_eq fun c hc => (hrest c hc).1

theorem Numeral.skipUnsigned_eq (h : n.WellFormed) (hrest : Delimited rest) :
    skipUnsigned (Decimal.digits n.integer ++ (n.fractionText ++ (n.exponentText ++ rest))) =
      .ok rest := by
  have hhead := head?_exponentText h hrest
  have hexponent := skipExponent_eq h hrest
  cases hf : n.fraction with
  | none =>
    simp only [fractionText, hf, Option.elim_none, List.nil_append]
    rw [skipUnsigned, readInteger_digits _ fun c hc => (hhead c hc).1]
    split
    · contradiction
    · rename_i heq
      simp only [Except.ok.injEq, Prod.mk.injEq] at heq
      exact absurd rfl (hhead '.' (by rw [heq.2]; rfl)).2
    · rename_i heq
      cases heq
      exact hexponent
  | some ds =>
    simp only [fractionText, hf, Option.elim_some, List.cons_append]
    rw [skipUnsigned, readInteger_digits _ (by simp)]
    simp only [(h.fraction ds hf).skipDigits_eq fun c hc => (hhead c hc).1]
    exact hexponent

theorem Numeral.WellFormed.skipNumber_eq (h : n.WellFormed) (hrest : Delimited rest) :
    skipNumber (n.text ++ rest) = .ok rest := by
  have hunsigned := skipUnsigned_eq h hrest
  simp only [text, signText, List.append_assoc]
  cases n.negative with
  | true => exact hunsigned
  | false =>
    obtain ⟨c, ds, hds, hc⟩ := isDigit_head?_digits n.integer
    rw [hds] at hunsigned ⊢
    simp only [Bool.false_eq_true, if_false, List.nil_append, List.cons_append, skipNumber]
    split
    · rename_i heq
      cases heq
      exact absurd hc (by decide)
    · exact hunsigned

theorem exists_of_skipUnsigned (h : skipUnsigned text = .ok rest) :
    ∃ n : Numeral, n.WellFormed ∧ n.negative = false ∧ text = n.text ++ rest := by
  unfold skipUnsigned at h
  split at h
  · cases h
  · rename_i hread
    obtain ⟨integer, rfl, rfl⟩ := exists_of_readInteger hread
    split at h
    · cases h
    · rename_i hdigits
      obtain ⟨fraction, hfraction, rfl⟩ := exists_of_skipDigits hdigits
      obtain ⟨exponent, hexponent, rfl⟩ := exists_of_skipExponent h
      refine ⟨⟨false, integer, some fraction, exponent⟩, ⟨?_, hexponent⟩, rfl, ?_⟩
      · rintro ds heq
        cases heq
        exact hfraction
      · simp [Numeral.text, Numeral.signText, Numeral.fractionText, Numeral.exponentText]
  · rename_i hread
    obtain ⟨integer, rfl, rfl⟩ := exists_of_readInteger hread
    obtain ⟨exponent, hexponent, rfl⟩ := exists_of_skipExponent h
    refine ⟨⟨false, integer, none, exponent⟩, ⟨by simp, hexponent⟩, rfl, ?_⟩
    simp [Numeral.text, Numeral.signText, Numeral.fractionText, Numeral.exponentText]

theorem exists_of_skipNumber (h : skipNumber text = .ok rest) :
    ∃ n : Numeral, n.WellFormed ∧ text = n.text ++ rest := by
  unfold skipNumber at h
  split at h
  · obtain ⟨n, hn, hnegative, rfl⟩ := exists_of_skipUnsigned h
    refine ⟨{ n with negative := true }, ⟨hn.fraction, hn.exponent⟩, ?_⟩
    simp [Numeral.text, Numeral.signText, Numeral.fractionText, Numeral.exponentText, hnegative]
  · obtain ⟨n, hn, -, rfl⟩ := exists_of_skipUnsigned h
    exact ⟨n, hn, rfl⟩

end Numerals

section Words

variable {m : Nat} {s : Scaled}

theorem ne_word_of_readScale (h : readScale s text = .ok (.word m, rest)) : False := by
  have hscaled : ∀ s behind, Number.ofScaled s behind ≠ .ok (.word m, rest) := by
    intro s behind
    rw [Number.ofScaled]
    split <;> simp
  unfold readScale at h
  split at h
  · exact hscaled _ _ h
  · split at h
    · split at h
      · cases h
      · exact hscaled _ _ h
    · exact hscaled _ _ h

/-- Only digits without a sign are read as a word, and only if a word holds their value. -/
theorem eq_digits_of_readUnsigned {negative : Bool}
    (h : readUnsigned negative text = .ok (.word m, rest)) :
    negative = false ∧ m < Decimal.wordLimit ∧ text = Decimal.digits m ++ rest := by
  unfold readUnsigned at h
  split at h
  · cases h
  · split at h
    · cases h
    · exact (ne_word_of_readScale h).elim
  · rename_i hread
    obtain ⟨integer, rfl, rfl⟩ := exists_of_readInteger hread
    rw [Decimal.value_digits] at h
    split at h
    · exact (ne_word_of_readScale h).elim
    · rename_i hsmall
      cases negative with
      | true => cases h
      | false =>
        cases h
        exact ⟨rfl, Nat.lt_of_not_le fun hle => hsmall (.inr hle), rfl⟩

theorem eq_digits_of_readNumber (h : readNumber text = .ok (.word m, rest)) :
    m < Decimal.wordLimit ∧ text = Decimal.digits m ++ rest := by
  unfold readNumber at h
  split at h
  · cases (eq_digits_of_readUnsigned h).1
  · exact (eq_digits_of_readUnsigned h).2

end Words

end Json
end SyscallNames
