import SyscallNames.Json.Layout
import SyscallNames.Json.Quoted

set_option autoImplicit false

namespace SyscallNames

theorem Hexadecimal.digit?_digitChar {n : Nat} (h : n < 16) :
    Hexadecimal.digit? (Nat.digitChar n) = some n := by
  have hdigits : ∀ n < 16, Hexadecimal.digit? (Nat.digitChar n) = some n := by decide
  exact hdigits n h

namespace Json

theorem readEscape_control {c : Char} (h : c < ' ') (rest : Text) :
    readEscape ('u' :: '0' :: '0' :: Nat.digitChar (c.toNat / 16) ::
      Nat.digitChar (c.toNat % 16) :: rest) = .ok (c, rest) := by
  have hlt : c.toNat < 32 := h
  have hzero : Hexadecimal.digit? '0' = some 0 := by decide
  have hhigh := Hexadecimal.digit?_digitChar (n := c.toNat / 16) (by omega)
  have hlow := Hexadecimal.digit?_digitChar (n := c.toNat % 16) (by omega)
  have hunit : (0 * 16 + 0) * 16 + c.toNat / 16 = c.toNat / 16 := by omega
  have hcode : c.toNat / 16 * 16 + c.toNat % 16 = c.toNat := by omega
  -- The code is below those of the surrogates.
  have htrailing : isTrailing c.toNat = false := by
    simp only [isTrailing, Bool.and_eq_false_imp, decide_eq_true_eq, decide_eq_false_iff_not]
    omega
  have hleading : isLeading c.toNat = false := by
    simp only [isLeading, Bool.and_eq_false_imp, decide_eq_true_eq, decide_eq_false_iff_not]
    omega
  simp only [readEscape, readUnit, hzero, hhigh, hlow, hunit, hcode, htrailing, hleading,
    Char.ofNat_toNat]
  rfl

@[simp]
theorem readStringOnto_escape_append (c : Char) (done rest : Text) :
    readStringOnto done (escape c ++ rest) = readStringOnto (c :: done) rest := by
  by_cases hletter : c ∈ ['"', '\\', '\n', '\t', '\r', '\x08', '\x0C']
  · simp only [List.mem_cons, List.not_mem_nil, or_false] at hletter
    obtain rfl | rfl | rfl | rfl | rfl | rfl | rfl := hletter <;>
      exact readStringOnto_escape rfl done
  · simp only [List.mem_cons, List.not_mem_nil, or_false, not_or] at hletter
    obtain ⟨hquote, hbackslash, hn, ht, hr, hb, hf⟩ := hletter
    rw [escape, if_neg hquote, if_neg hbackslash, if_neg hn, if_neg ht, if_neg hr, if_neg hb,
      if_neg hf]
    by_cases hcontrol : c < ' '
    · rw [if_pos hcontrol]
      exact readStringOnto_escape (readEscape_control hcontrol rest) done
    · rw [if_neg hcontrol]
      exact readStringOnto_plain hquote hbackslash hcontrol done rest

@[simp]
theorem readStringOnto_flatMap_escape (text done rest : Text) :
    readStringOnto done (text.flatMap escape ++ '"' :: rest) = .ok (done.reverse ++ text, rest) := by
  induction text generalizing done with
  | nil => simp
  | cons c text ih =>
    rw [List.flatMap_cons, List.append_assoc, readStringOnto_escape_append, ih]
    simp

@[simp]
theorem readString_flatMap_escape (text rest : Text) :
    readString (text.flatMap escape ++ '"' :: rest) = .ok (text, rest) :=
  readStringOnto_flatMap_escape text [] rest

end Json
end SyscallNames
