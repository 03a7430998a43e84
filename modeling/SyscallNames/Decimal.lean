import SyscallNames.Utf8

set_option autoImplicit false

namespace SyscallNames.Decimal

def digits (n : Nat) : Text := Nat.toDigits 10 n

def toString (n : Nat) : String := String.ofList (digits n)

def value (ds : Text) : Nat := Nat.ofDigitChars 10 ds 0

def wordLimit : Nat := UInt64.size

/-- A word in decimal: at least one digit, nothing but digits, leading zeros allowed. -/
def word? (ds : Text) : Option Nat :=
  if ds ≠ [] ∧ ds.all Char.isDigit ∧ value ds < wordLimit then some (value ds) else none

@[simp]
theorem value_digits (n : Nat) : value (digits n) = n :=
  Nat.ofDigitChars_ten_toDigits

theorem isDigit_of_mem_digits {n : Nat} {c : Char} (h : c ∈ digits n) : c.isDigit = true :=
  Nat.isDigit_of_mem_toDigits (by decide) (by decide) h

theorem word?_digits {n : Nat} (h : n < wordLimit) : word? (digits n) = some n := by
  have hne : digits n ≠ [] := Nat.toDigits_ne_nil
  have hall : (digits n).all Char.isDigit = true :=
    List.all_eq_true.mpr fun c hc => isDigit_of_mem_digits hc
  simp [word?, hne, hall, h]

end SyscallNames.Decimal
