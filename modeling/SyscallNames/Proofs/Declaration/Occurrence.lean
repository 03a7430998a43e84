import SyscallNames.Declaration

set_option autoImplicit false

namespace SyscallNames

section Runs

variable {α : Type} {p : α → Bool} {l : List α}

theorem exists_of_lt_length_takeWhile {i : Nat} (h : i < (l.takeWhile p).length) :
    ∃ a, l[i]? = some a ∧ p a = true := by
  induction l generalizing i with
  | nil => simp at h
  | cons a l ih =>
    by_cases ha : p a = true
    · rw [List.takeWhile_cons_of_pos ha] at h
      cases i with
      | zero => exact ⟨a, rfl, ha⟩
      | succ i => exact ih (Nat.lt_of_succ_lt_succ h)
    · rw [List.takeWhile_cons_of_neg ha] at h
      simp at h

theorem not_of_getElem?_length_takeWhile {a : α} (h : l[(l.takeWhile p).length]? = some a) :
    p a = false := by
  induction l with
  | nil => simp at h
  | cons b l ih =>
    by_cases hb : p b = true
    · rw [List.takeWhile_cons_of_pos hb] at h
      exact ih h
    · rw [List.takeWhile_cons_of_neg hb] at h
      cases h
      simpa using hb

end Runs

namespace Declaration

def NameByteAt (text : Bytes) (i : Nat) : Prop := ∃ b, text[i]? = some b ∧ isNameByte b = true

/-- The keyword stands at the byte `p`, and a byte of a name right behind it. -/
def OccursAt (text : Bytes) (p : Nat) : Prop :=
  (text.drop p).take 20 = keyword ∧ NameByteAt text (p + 20)

def nameBytes (text : Bytes) (p : Nat) : Bytes := (text.drop (p + 20)).takeWhile isNameByte

def nameEnd (text : Bytes) (p : Nat) : Nat := p + 20 + (nameBytes text p).length

variable {text : Bytes} {p q : Nat}

theorem le_nameEnd (text : Bytes) (p : Nat) : p + 20 ≤ nameEnd text p := Nat.le_add_right _ _

theorem nameByteAt_of_lt_nameEnd {i : Nat} (hi : p + 20 ≤ i) (h : i < nameEnd text p) :
    NameByteAt text i := by
  have hlt : i - (p + 20) < (nameBytes text p).length := by
    rw [nameEnd] at h
    omega
  obtain ⟨b, hb, hname⟩ := exists_of_lt_length_takeWhile hlt
  rw [List.getElem?_drop, Nat.add_sub_cancel' hi] at hb
  exact ⟨b, hb, hname⟩

theorem not_nameByteAt_nameEnd (text : Bytes) (p : Nat) : ¬ NameByteAt text (nameEnd text p) := by
  rintro ⟨b, hb, hname⟩
  have hd : (text.drop (p + 20))[(nameBytes text p).length]? = some b := by
    rw [List.getElem?_drop]
    exact hb
  rw [not_of_getElem?_length_takeWhile hd] at hname
  cases hname

theorem nameBytes_ne_nil (h : NameByteAt text (p + 20)) : nameBytes text p ≠ [] := by
  intro hnil
  have hend : nameEnd text p = p + 20 := by simp [nameEnd, hnil]
  exact not_nameByteAt_nameEnd text p (hend ▸ h)

theorem OccursAt.lt_nameEnd (h : OccursAt text p) : p + 20 < nameEnd text p := by
  have := List.length_pos_iff.mpr (nameBytes_ne_nil h.2)
  rw [nameEnd]
  omega

theorem OccursAt.getElem? (h : OccursAt text p) {i : Nat} (hi : i < 20) :
    text[p + i]? = keyword[i]? := by
  rw [← h.1, List.getElem?_take_of_lt hi, List.getElem?_drop]

theorem OccursAt.nameByteAt_iff (h : OccursAt text p) {i : Nat} (hi : i < 20) :
    NameByteAt text (p + i) ↔ NameByteAt keyword i := by
  rw [NameByteAt, NameByteAt, h.getElem? hi]

instance (text : Bytes) (i : Nat) : Decidable (NameByteAt text i) :=
  match h : text[i]? with
  | none => isFalse (by simp [NameByteAt, h])
  | some b => decidable_of_iff (isNameByte b = true) (by simp [NameByteAt, h])

theorem OccursAt.nameByteAt (h : OccursAt text p) {i : Nat} (hi : i < 10) :
    NameByteAt text (p + i) := by
  have hkeyword : ∀ j < 10, NameByteAt keyword j := by decide
  exact (h.nameByteAt_iff (by omega)).mpr (hkeyword i hi)

theorem OccursAt.not_nameByteAt (h : OccursAt text p) : ¬ NameByteAt text (p + 10) :=
  fun hb => absurd ((h.nameByteAt_iff (by decide)).mp hb) (by decide)

/-- The keyword does not overlap itself. -/
theorem OccursAt.add_le (hp : OccursAt text p) (hq : OccursAt text q) (h : p < q) : p + 20 ≤ q := by
  -- Shifted by any distance, the keyword differs from itself in some byte.
  have hkeyword : ∀ d < 20, 0 < d → ∃ i < 20 - d, keyword[i]? ≠ keyword[d + i]? := by decide
  rcases Nat.lt_or_ge q (p + 20) with hlt | hge
  · obtain ⟨i, hi, hne⟩ := hkeyword (q - p) (by omega) (by omega)
    have hqi := hq.getElem? (i := i) (by omega)
    have hpi := hp.getElem? (i := q - p + i) (by omega)
    rw [show p + (q - p + i) = q + i by omega, hqi] at hpi
    exact absurd hpi hne
  · exact hge

theorem OccursAt.nameEnd_eq (hp : OccursAt text p) (hq : OccursAt text q) (h : p < q)
    (hlt : q < nameEnd text p) : nameEnd text p = q + 10 := by
  have hge := hp.add_le hq h
  rcases Nat.lt_trichotomy (nameEnd text p) (q + 10) with hend | hend | hend
  · have hb := hq.nameByteAt (i := nameEnd text p - q) (by omega)
    rw [Nat.add_sub_cancel' (by omega)] at hb
    exact absurd hb (not_nameByteAt_nameEnd text p)
  · exact hend
  · exact absurd (nameByteAt_of_lt_nameEnd (by omega) hend) hq.not_nameByteAt

theorem OccursAt.lt_of_nameEnd_eq (hp : OccursAt text p) (h : nameEnd text p = q + 10) : p < q := by
  have := hp.lt_nameEnd
  omega

theorem nameAt_of_occursAt (h : OccursAt text p) : nameAt (text.drop p) = nameBytes text p := by
  have hk : keyword.isPrefixOf (text.drop p) = true :=
    List.isPrefixOf_iff_prefix.mpr (h.1 ▸ List.take_prefix 20 _)
  rw [nameAt, if_pos hk, nameBytes, List.drop_drop, length_keyword]

theorem nameAt_of_not_occursAt (h : ¬ OccursAt text p) : nameAt (text.drop p) = [] := by
  rw [nameAt]
  split
  · rename_i hk
    have htake : (text.drop p).take 20 = keyword := by
      rw [← length_keyword]
      exact (List.prefix_iff_eq_take.mp (List.isPrefixOf_iff_prefix.mp hk)).symm
    rw [List.drop_drop, length_keyword]
    refine Decidable.byContradiction fun hne => ?_
    have hlt := List.length_pos_iff.mpr hne
    obtain ⟨b, hb, hname⟩ := exists_of_lt_length_takeWhile hlt
    rw [List.getElem?_drop, Nat.add_zero] at hb
    exact h ⟨htake, b, hb, hname⟩
  · rfl

theorem OccursAt.lt_length (h : OccursAt text p) : p + 20 < text.length := by
  obtain ⟨b, hb, -⟩ := h.2
  exact (List.getElem?_eq_some_iff.mp hb).1

theorem extractFrom_of_length_le (line : Nat) (h : text.length ≤ p) :
    extractFrom line p (text.drop p) = [] := by
  rw [List.drop_eq_nil_of_le h, extractFrom]

theorem extractFrom_of_not_occursAt (line : Nat) (hp : p < text.length) (h : ¬ OccursAt text p) :
    extractFrom line p (text.drop p) =
      extractFrom (nextLine line text[p]) (p + 1) (text.drop (p + 1)) := by
  have hname := nameAt_of_not_occursAt h
  rw [List.drop_eq_getElem_cons hp] at hname ⊢
  exact extractFrom_of_nameAt_eq_nil hname line p

theorem extractFrom_of_occursAt (line : Nat) (h : OccursAt text p) :
    extractFrom line p (text.drop p) =
      { name := nameText (nameBytes text p), line, offset := p } ::
        extractFrom line (nameEnd text p) (text.drop (nameEnd text p)) := by
  have hp : p < text.length := by
    have := h.lt_length
    omega
  have hname := nameAt_of_occursAt h
  have hdrop := List.drop_eq_getElem_cons hp
  have hend : p + (keyword.length + (nameBytes text p).length) = nameEnd text p := by
    rw [length_keyword, nameEnd, Nat.add_assoc]
  have hrest : (text.drop (p + 1)).drop (keyword.length + (nameBytes text p).length - 1) =
      text.drop (nameEnd text p) := by
    rw [List.drop_drop]
    congr 1
    rw [length_keyword] at hend ⊢
    omega
  rw [hdrop] at hname ⊢
  rw [extractFrom_of_nameAt_ne_nil (by rw [hname]; exact nameBytes_ne_nil h.2), hname, hend, hrest]

/-- What holds behind the end of the text, and at every place if it holds where the scan goes on
from there, holds everywhere. -/
theorem scan_induction {motive : Nat → Prop} (text : Bytes)
    (past : ∀ p, text.length ≤ p → motive p)
    (step : ∀ p, p < text.length → ¬ OccursAt text p → motive (p + 1) → motive p)
    (found : ∀ p, OccursAt text p → motive (nameEnd text p) → motive p) (p : Nat) : motive p := by
  by_cases hp : text.length ≤ p
  · exact past p hp
  · by_cases h : OccursAt text p
    · have hlt := h.lt_nameEnd
      exact found p h (scan_induction text past step found (nameEnd text p))
    · exact step p (by omega) h (scan_induction text past step found (p + 1))
termination_by text.length - p
decreasing_by all_goals omega

end Declaration
end SyscallNames
