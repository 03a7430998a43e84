import SyscallNames.Unicode.CaseFolding

set_option autoImplicit false

namespace SyscallNames

namespace CharSet

/-- Ranges of code points that are ascending and apart, so that between any two there is a gap. -/
structure Normal (rs : List (Nat × Nat)) : Prop where
  valid : ∀ r ∈ rs, r.1 ≤ r.2
  apart : rs.Pairwise fun r s => r.2 + 1 < s.1

theorem Normal.nil : Normal [] := ⟨by simp, .nil⟩

theorem Normal.cons {r : Nat × Nat} {rs : List (Nat × Nat)} (hr : r.1 ≤ r.2)
    (hrs : ∀ s ∈ rs, r.2 + 1 < s.1) (h : Normal rs) : Normal (r :: rs) :=
  ⟨List.forall_mem_cons.mpr ⟨hr, h.valid⟩, h.apart.cons hrs⟩

theorem Normal.singleton {r : Nat × Nat} (hr : r.1 ≤ r.2) : Normal [r] := .cons hr (by simp) .nil

theorem Normal.tail {r : Nat × Nat} {rs : List (Nat × Nat)} (h : Normal (r :: rs)) : Normal rs :=
  ⟨fun s hs => h.valid s (List.mem_cons_of_mem r hs), h.apart.of_cons⟩

theorem Normal.gap {r : Nat × Nat} {rs : List (Nat × Nat)} (h : Normal (r :: rs)) :
    ∀ s ∈ rs, r.2 + 1 < s.1 :=
  (List.pairwise_cons.mp h.apart).1

end CharSet

structure CharSet where
  ranges : List (Nat × Nat)
  normal : CharSet.Normal ranges
deriving DecidableEq, Repr

namespace CharSet

def lastPoint : Nat := 0x10FFFF

def isWithin (n : Nat) : List (Nat × Nat) → Bool
  | [] => false
  | (low, high) :: rs => if n ≤ high then low ≤ n else isWithin n rs

def contains (s : CharSet) (c : Char) : Bool := isWithin c.toNat s.ranges

/-- Joins the ranges that overlap or touch. They have to ascend by their lower ends. -/
def join : List (Nat × Nat) → List (Nat × Nat)
  | [] => []
  | [r] => [r]
  | r :: s :: rs => if s.1 ≤ r.2 + 1 then join ((r.1, max r.2 s.2) :: rs) else r :: join (s :: rs)
termination_by rs => rs.length

def gaps (start : Nat) : List (Nat × Nat) → List (Nat × Nat)
  | [] => if start ≤ lastPoint then [(start, lastPoint)] else []
  | (low, high) :: rs =>
    if start < low then (start, low - 1) :: gaps (high + 1) rs else gaps (high + 1) rs

def isBelow (r s : Nat × Nat) : Bool := r.1 ≤ s.1

def isRange (r : Nat × Nat) : Bool := r.1 ≤ r.2

section Invariant

variable {r : Nat × Nat} {rs : List (Nat × Nat)}

theorem isBelow_of_mem_join {start : Nat} (h : ∀ s ∈ rs, start ≤ s.1) :
    ∀ s ∈ join rs, start ≤ s.1 := by
  fun_induction join rs with
  | case1 => simp
  | case2 r => exact h
  | case3 r s rs htouch ih =>
    refine ih (List.forall_mem_cons.mpr ⟨h r (by simp), fun t ht => h t (by simp [ht])⟩)
  | case4 r s rs _ ih =>
    exact List.forall_mem_cons.mpr ⟨h r (by simp), ih fun t ht => h t (List.mem_cons_of_mem r ht)⟩

theorem normal_join (hrs : rs.Pairwise fun r s => isBelow r s) (hvalid : ∀ r ∈ rs, r.1 ≤ r.2) :
    Normal (join rs) := by
  fun_induction join rs with
  | case1 => exact .nil
  | case2 r => exact .singleton (hvalid r (by simp))
  | case3 r s rs htouch ih =>
    obtain ⟨hr, hrs⟩ := List.pairwise_cons.mp hrs
    refine ih ((List.Pairwise.of_cons hrs).cons fun t ht => hr t (by simp [ht])) ?_
    refine List.forall_mem_cons.mpr ⟨?_, fun t ht => hvalid t (by simp [ht])⟩
    exact Nat.le_trans (hvalid r (by simp)) (Nat.le_max_left ..)
  | case4 r s rs hgap ih =>
    obtain ⟨-, hrs⟩ := List.pairwise_cons.mp hrs
    refine .cons (hvalid r (by simp)) ?_ (ih hrs fun t ht => hvalid t (List.mem_cons_of_mem r ht))
    have hs : ∀ t ∈ s :: rs, s.1 ≤ t.1 :=
      List.forall_mem_cons.mpr ⟨Nat.le_refl _, fun t ht => by
        simpa [isBelow] using (List.pairwise_cons.mp hrs).1 t ht⟩
    intro t ht
    exact Nat.lt_of_lt_of_le (Nat.lt_of_not_le hgap) (isBelow_of_mem_join hs t ht)

theorem le_of_mem_gaps {start : Nat} (h : Normal rs) (hstart : ∀ r ∈ rs, start ≤ r.1) :
    ∀ s ∈ gaps start rs, start ≤ s.1 := by
  induction rs generalizing start with
  | nil =>
    rw [gaps]
    split <;> simp
  | cons r rs ih =>
    have hr := hstart r (by simp)
    have hvalid := h.valid r (by simp)
    have hrest : ∀ s ∈ gaps (r.2 + 1) rs, start ≤ s.1 := by
      intro s hs
      have := ih h.tail (fun t ht => Nat.le_of_lt (h.gap t ht)) s hs
      omega
    rw [gaps]
    split
    · exact List.forall_mem_cons.mpr ⟨Nat.le_refl _, hrest⟩
    · exact hrest

theorem normal_gaps {start : Nat} (h : Normal rs) : Normal (gaps start rs) := by
  induction rs generalizing start with
  | nil =>
    rw [gaps]
    split
    · exact .singleton ‹_›
    · exact .nil
  | cons r rs ih =>
    have hvalid := h.valid r (by simp)
    rw [gaps]
    split
    · rename_i hlt
      refine .cons (show start ≤ r.1 - 1 by omega) ?_ (ih h.tail)
      intro s hs
      have hs := le_of_mem_gaps h.tail (fun t ht => Nat.le_of_lt (h.gap t ht)) s hs
      change r.1 - 1 + 1 < s.1
      omega
    · exact ih h.tail

theorem isBelow_trans (r s t : Nat × Nat) (hrs : isBelow r s) (hst : isBelow s t) :
    isBelow r t := by
  simp only [isBelow, decide_eq_true_eq] at *
  omega

theorem isBelow_total (r s : Nat × Nat) : isBelow r s || isBelow s r := by
  simp only [isBelow, Bool.or_eq_true, decide_eq_true_eq]
  omega

theorem Normal.ascending (h : Normal rs) : rs.Pairwise fun r s => isBelow r s := by
  refine h.apart.imp_of_mem fun {r s} hr _ hlt => ?_
  have := h.valid r hr
  simp only [isBelow, decide_eq_true_eq]
  omega

theorem Normal.ascending_merge {ss : List (Nat × Nat)} (hr : Normal rs) (hs : Normal ss) :
    (rs.merge ss isBelow).Pairwise fun r s => isBelow r s :=
  List.pairwise_merge isBelow_trans isBelow_total _ _ hr.ascending hs.ascending

theorem Normal.valid_merge {ss : List (Nat × Nat)} (hr : Normal rs) (hs : Normal ss) :
    ∀ t ∈ rs.merge ss isBelow, t.1 ≤ t.2 := by
  intro t ht
  rcases List.mem_merge.mp ht with ht | ht
  · exact hr.valid t ht
  · exact hs.valid t ht

theorem ascending_mergeSort (rs : List (Nat × Nat)) :
    (rs.mergeSort isBelow).Pairwise fun r s => isBelow r s :=
  List.pairwise_mergeSort isBelow_trans isBelow_total rs

theorem valid_mergeSort (rs : List (Nat × Nat)) :
    ∀ r ∈ (rs.filter isRange).mergeSort isBelow, r.1 ≤ r.2 := by
  intro r hr
  simpa [isRange] using (List.mem_filter.mp (List.mem_mergeSort.mp hr)).2

end Invariant

def ofRanges (rs : List (Nat × Nat)) : CharSet where
  ranges := join ((rs.filter isRange).mergeSort isBelow)
  normal := normal_join (ascending_mergeSort _) (valid_mergeSort rs)

def empty : CharSet := ⟨[], .nil⟩

def any : CharSet := ⟨[(0, lastPoint)], .singleton (Nat.zero_le _)⟩

def range (low high : Nat) : CharSet :=
  if h : low ≤ high then ⟨[(low, high)], .singleton h⟩ else empty

def single (c : Char) : CharSet := ⟨[(c.toNat, c.toNat)], .singleton (Nat.le_refl _)⟩

def union (s t : CharSet) : CharSet where
  ranges := join (s.ranges.merge t.ranges isBelow)
  normal := normal_join (s.normal.ascending_merge t.normal) (s.normal.valid_merge t.normal)

def complement (s : CharSet) : CharSet := ⟨gaps 0 s.ranges, normal_gaps s.normal⟩

def inter (s t : CharSet) : CharSet := (s.complement.union t.complement).complement

def diff (s t : CharSet) : CharSet := s.inter t.complement

def unions (sets : List CharSet) : CharSet := sets.foldr union empty

/-- All characters that differ from a member at most in case. -/
def foldCase (repertoire : Repertoire) (s : CharSet) : CharSet :=
  s.union (ofRanges (repertoire.caseShifts.flatMap fun shift => s.ranges.flatMap shift.variants))

def ofRows (rows : List String) : CharSet := ofRanges (Unicode.readRanges rows)

end CharSet
end SyscallNames
