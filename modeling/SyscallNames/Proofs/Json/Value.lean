import SyscallNames.Json.Value
import SyscallNames.Proofs.Json.Quoted
import SyscallNames.Proofs.Reading

set_option autoImplicit false

namespace SyscallNames

namespace Decimal

theorem head?_digits_ne {n : Nat} (h : 0 < n) : (digits n).head? ≠ some '0' := by
  induction n using Nat.strongRecOn with
  | ind n ih =>
    by_cases hn : n < 10
    · have hdigit : ∀ m < 10, 0 < m → Nat.digitChar m ≠ '0' := by decide
      rw [digits, Nat.toDigits_of_lt_base hn]
      simpa using hdigit n hn h
    · have hrest := ih (n / 10) (by omega) (by omega)
      have hne : digits (n / 10) ≠ [] := Nat.toDigits_ne_nil
      have hstep : digits n = digits (n / 10) ++ [Nat.digitChar (n % 10)] :=
        Nat.toDigits_of_base_le (by decide) (Nat.le_of_not_lt hn)
      rwa [hstep, List.head?_append, Option.or_of_isSome (List.isSome_head?.mpr hne)]

end Decimal

namespace Json

/-- What follows does not go on with a number that ends in front of it. -/
def Delimited (rest : Text) : Prop :=
  ∀ c ∈ rest.head?, c.isDigit = false ∧ c ≠ '.' ∧ isExponentMark c = false

def Blank (text : Text) : Prop := ∀ c ∈ text, isBlank c = true

/-- A reader takes the text off the front of a document and gives the value, whatever blanks stand
in front of the text and whatever comes behind it. -/
def Presents {α : Type} (reader : Reader α) (text : Text) (a : α) : Prop :=
  ∀ blank rest, Blank blank → Delimited rest → reader (blank ++ (text ++ rest)) = .ok (a, rest)

section Blanks

variable {blank : Text} {c : Char}

theorem blank_nil : Blank [] := by simp [Blank]

theorem isBlank_of_isDigit (h : c.isDigit = true) : isBlank c = false := by
  refine Bool.eq_false_iff.mpr fun hblank => ?_
  simp only [isBlank, Bool.or_eq_true, decide_eq_true_eq] at hblank
  obtain ((rfl | rfl) | rfl) | rfl := hblank <;> exact absurd h (by decide)

theorem skipBlank_append (h : Blank blank) (text : Text) :
    skipBlank (blank ++ text) = skipBlank text :=
  List.dropWhile_append_of_pos h

theorem skipBlank_cons (h : isBlank c = false) (rest : Text) : skipBlank (c :: rest) = c :: rest :=
  List.dropWhile_cons_of_neg (by simp [h])

theorem skipBlank_append_cons (hblank : Blank blank) (h : isBlank c = false) (rest : Text) :
    skipBlank (blank ++ c :: rest) = c :: rest := by
  rw [skipBlank_append hblank, skipBlank_cons h]

theorem expect_append_cons (hblank : Blank blank) (h : isBlank c = false) (rest : Text) :
    expect c (blank ++ c :: rest) = .ok rest := by
  simp [expect, skipBlank_append_cons hblank h]

end Blanks

section Scalars

theorem readDocument_of_presents {α : Type} {reader : Reader α} {text : Text} {a : α}
    (h : Presents reader text a) : readDocument reader text = .ok a := by
  have hread := h [] [] blank_nil (by simp [Delimited])
  rw [List.nil_append, List.append_nil] at hread
  simp [readDocument, hread, skipBlank]

theorem readDigits_append {ds rest : Text} (hne : ds ≠ []) (hd : ∀ c ∈ ds, c.isDigit = true)
    (hrest : ∀ c ∈ rest.head?, c.isDigit = false) : readDigits (ds ++ rest) = .ok (ds, rest) := by
  have htake := takeWhile_run hd hrest
  have hdrop := dropWhile_run hd hrest
  obtain ⟨c, tail, rfl⟩ := List.exists_cons_of_ne_nil hne
  rw [List.cons_append] at htake hdrop ⊢
  simp [readDigits, htake, hdrop, hd c List.mem_cons_self]

theorem readInteger_digits (n : Nat) {rest : Text} (hrest : ∀ c ∈ rest.head?, c.isDigit = false) :
    readInteger (Decimal.digits n ++ rest) = .ok (Decimal.digits n, rest) := by
  have hne : Decimal.digits n ≠ [] := Nat.toDigits_ne_nil
  have hreads := readDigits_append hne (fun _ hc => Decimal.isDigit_of_mem_digits hc) hrest
  unfold readInteger
  split
  · -- A zero in front is the whole numeral, so that no digit follows it.
    rename_i c tail heq
    rcases Nat.eq_zero_or_pos n with rfl | hn
    · obtain ⟨-, rfl⟩ : '0' = '0' ∧ rest = c :: tail := by
        simpa [Decimal.digits, Nat.toDigits_zero] using heq
      rw [if_neg (by simp [hrest c rfl])]
      rfl
    · refine absurd ?_ (Decimal.head?_digits_ne hn)
      obtain ⟨d, ds, hd⟩ := List.exists_cons_of_ne_nil hne
      rw [hd, List.cons_append] at heq
      rw [hd, List.head?_cons, (List.cons.inj heq).1]
  · exact hreads

theorem readUnsigned_digits {n : Nat} (h : n < Decimal.wordLimit) {rest : Text}
    (hrest : Delimited rest) :
    readUnsigned false (Decimal.digits n ++ rest) = .ok (.word n, rest) := by
  have hvalue := Decimal.value_digits n
  have hlow : ¬ Decimal.wordLimit ≤ n := Nat.not_le.mpr h
  rw [readUnsigned, readInteger_digits n fun c hc => (hrest c hc).1]
  cases rest with
  | nil => simp [hvalue, hlow]
  | cons c rest =>
    obtain ⟨-, hpoint, hmark⟩ := hrest c rfl
    simp [hpoint, hmark, hvalue, hlow]

theorem presents_digits {n : Nat} (h : n < Decimal.wordLimit) :
    Presents readWord (Decimal.digits n) n := by
  intro blank rest hblank hrest
  have hne : Decimal.digits n ≠ [] := Nat.toDigits_ne_nil
  obtain ⟨d, ds, hd⟩ := List.exists_cons_of_ne_nil hne
  have hdigit : d.isDigit = true := Decimal.isDigit_of_mem_digits (by rw [hd]; simp)
  have hsign : d ≠ '-' := by
    rintro rfl
    exact absurd hdigit (by decide)
  have hread := readUnsigned_digits h hrest
  rw [hd, List.cons_append] at hread ⊢
  rw [readWord, skipBlank_append_cons hblank (isBlank_of_isDigit hdigit)]
  simp [readNumber, hsign, hdigit, hread]

end Scalars

end Json
end SyscallNames
