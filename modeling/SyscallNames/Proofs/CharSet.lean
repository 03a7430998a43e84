import SyscallNames.CharSet

set_option autoImplicit false

namespace SyscallNames.CharSet

def Covers (rs : List (Nat × Nat)) (n : Nat) : Prop := ∃ r ∈ rs, r.1 ≤ n ∧ n ≤ r.2

variable {r : Nat × Nat} {rs ss : List (Nat × Nat)} {n : Nat}

@[simp]
theorem covers_nil : ¬ Covers [] n := by simp [Covers]

@[simp]
theorem covers_cons : Covers (r :: rs) n ↔ (r.1 ≤ n ∧ n ≤ r.2) ∨ Covers rs n := by
  simp [Covers]

theorem Covers.le {start : Nat} (h : Covers rs n) (hrs : ∀ r ∈ rs, start ≤ r.1) : start ≤ n := by
  obtain ⟨r, hr, hlow, -⟩ := h
  exact Nat.le_trans (hrs r hr) hlow

theorem isWithin_iff (h : Normal rs) : isWithin n rs = true ↔ Covers rs n := by
  induction rs with
  | nil => simp [isWithin]
  | cons r rs ih =>
    rw [isWithin, covers_cons]
    split
    · rename_i hhigh
      -- The ranges behind begin only behind this one.
      have hrest : ¬ Covers rs n := fun hc => by
        have := hc.le h.gap
        omega
      simp [hrest, hhigh]
    · rename_i hhigh
      rw [ih h.tail]
      simp [hhigh]

theorem covers_join (h : rs.Pairwise fun r s => isBelow r s) (hvalid : ∀ r ∈ rs, r.1 ≤ r.2) :
    Covers (join rs) n ↔ Covers rs n := by
  fun_induction join rs with
  | case1 => rfl
  | case2 => rfl
  | case3 r s rs htouch ih =>
    obtain ⟨hr, hrs⟩ := List.pairwise_cons.mp h
    have hbelow : r.1 ≤ s.1 := by simpa [isBelow] using hr s (by simp)
    have hvalid_r := hvalid r (by simp)
    have hvalid_s := hvalid s (by simp)
    rw [ih ((List.Pairwise.of_cons hrs).cons fun t ht => hr t (by simp [ht]))]
    · simp only [covers_cons]
      grind
    · exact List.forall_mem_cons.mpr ⟨by grind, fun t ht => hvalid t (by simp [ht])⟩
  | case4 r s rs _ ih =>
    rw [covers_cons, covers_cons, ih (List.pairwise_cons.mp h).2
      fun t ht => hvalid t (List.mem_cons_of_mem r ht)]

theorem covers_gaps {start : Nat} (h : Normal rs) (hstart : ∀ r ∈ rs, start ≤ r.1)
    (hn : n ≤ lastPoint) : Covers (gaps start rs) n ↔ start ≤ n ∧ ¬ Covers rs n := by
  induction rs generalizing start with
  | nil =>
    rw [gaps]
    split
    · simp [hn]
    · simp only [covers_nil, not_false_eq_true, and_true, false_iff]
      omega
  | cons r rs ih =>
    have hvalid := h.valid r (by simp)
    have hr := hstart r (by simp)
    have hbehind (hc : Covers rs n) : r.2 + 1 < n + 1 := Nat.lt_succ_of_le (hc.le fun s hs =>
      Nat.le_of_lt (h.gap s hs))
    have hrest := ih h.tail fun s hs => Nat.le_of_lt (h.gap s hs)
    rw [gaps]
    split
    · rw [covers_cons, covers_cons, hrest]
      grind
    · rw [covers_cons, hrest]
      grind

variable {s t : CharSet} {c : Char}

theorem contains_iff : s.contains c = true ↔ Covers s.ranges c.toNat := isWithin_iff s.normal

@[simp]
theorem contains_empty : empty.contains c = false := rfl

theorem toNat_le_lastPoint (c : Char) : c.toNat ≤ lastPoint := by
  have hvalid := c.valid
  simp only [UInt32.isValidChar, Nat.isValidChar] at hvalid
  simp only [Char.toNat, lastPoint]
  omega

@[simp]
theorem contains_any : any.contains c = true := by
  rw [contains_iff]
  simp [any, toNat_le_lastPoint]

@[simp]
theorem contains_range {low high : Nat} :
    (range low high).contains c = true ↔ low ≤ c.toNat ∧ c.toNat ≤ high := by
  rw [contains_iff, range]
  split
  · simp
  · simp [empty]
    omega

@[simp]
theorem contains_single {d : Char} : (single d).contains c = true ↔ c = d := by
  rw [contains_iff]
  simp only [single, covers_cons, covers_nil, or_false]
  rw [← Char.toNat_inj]
  omega

@[simp]
theorem contains_ofRanges {rs : List (Nat × Nat)} :
    (ofRanges rs).contains c = true ↔ Covers rs c.toNat := by
  rw [contains_iff, ofRanges, covers_join (ascending_mergeSort _) (valid_mergeSort rs)]
  simp only [Covers, List.mem_mergeSort, List.mem_filter, isRange, decide_eq_true_eq]
  grind

@[simp]
theorem contains_union : (s.union t).contains c = (s.contains c || t.contains c) := by
  rw [Bool.eq_iff_iff, Bool.or_eq_true, contains_iff, contains_iff, contains_iff, union,
    covers_join (s.normal.ascending_merge t.normal) (s.normal.valid_merge t.normal)]
  simp only [Covers, List.mem_merge]
  grind

@[simp]
theorem contains_complement : s.complement.contains c = !s.contains c := by
  rw [Bool.eq_iff_iff, Bool.not_eq_true', ← Bool.not_eq_true, contains_iff, contains_iff,
    complement, covers_gaps s.normal (fun _ _ => Nat.zero_le _) (toNat_le_lastPoint c)]
  simp

@[simp]
theorem contains_inter : (s.inter t).contains c = (s.contains c && t.contains c) := by
  simp [inter]

@[simp]
theorem contains_diff : (s.diff t).contains c = (s.contains c && !t.contains c) := by
  simp [diff]

@[simp]
theorem contains_unions {sets : List CharSet} :
    (unions sets).contains c = sets.any (·.contains c) := by
  induction sets with
  | nil => rfl
  | cons s sets ih => rw [unions, List.foldr_cons, ← unions, contains_union, ih, List.any_cons]

section Case

open Unicode

/-- The code point `n` is another case of `m`, by the shift from `m`. -/
structure Shifts (shift : CaseShift) (m n : Nat) : Prop where
  low : shift.low ≤ m
  high : m ≤ shift.high
  step : (m - shift.low) % shift.step = 0
  shifted : n = m + shift.shift

@[simp]
theorem covers_append : Covers (rs ++ ss) n ↔ Covers rs n ∨ Covers ss n := by
  simp [Covers, or_and_right, exists_or]

theorem covers_flatMap {α : Type} {f : α → List (Nat × Nat)} {items : List α} :
    Covers (items.flatMap f) n ↔ ∃ item ∈ items, Covers (f item) n := by
  simp only [Covers, List.mem_flatMap]
  grind

theorem covers_map_add (k : Nat) :
    Covers (rs.map fun (low, high) => (low + k, high + k)) n ↔ k ≤ n ∧ Covers rs (n - k) := by
  induction rs with
  | nil => simp
  | cons r rs ih =>
    rw [List.map_cons, covers_cons, covers_cons, ih]
    grind

theorem covers_part {shift : CaseShift} {low high : Nat} : Covers (shift.part low high) n ↔
    (low ≤ n ∧ n ≤ high) ∧ Shifts shift n (n + shift.shift) := by
  have hshifts : Shifts shift n (n + shift.shift) ↔
      shift.low ≤ n ∧ n ≤ shift.high ∧ (n - shift.low) % shift.step = 0 :=
    ⟨fun h => ⟨h.low, h.high, h.step⟩, fun ⟨hlow, hhigh, hstep⟩ => ⟨hlow, hhigh, hstep, rfl⟩⟩
  rw [hshifts, CaseShift.part]
  split
  · grind [covers_nil]
  · split
    · rename_i hstep
      rw [covers_cons, hstep, Nat.mod_one]
      grind [covers_nil]
    · simp only [Covers, List.mem_map, List.mem_filter, List.mem_range'_1, beq_iff_eq]
      constructor
      · rintro ⟨_, ⟨m, hm, rfl⟩, hlow, hhigh⟩
        grind
      · intro h
        exact ⟨(n, n), ⟨n, by grind, rfl⟩, Nat.le_refl n, Nat.le_refl n⟩

theorem covers_variants {shift : CaseShift} : Covers (shift.variants r) n ↔
    ∃ m, (r.1 ≤ m ∧ m ≤ r.2) ∧ (Shifts shift m n ∨ Shifts shift n m) := by
  rw [CaseShift.variants, covers_append, covers_map_add, covers_part]
  constructor
  · rintro (⟨hle, hrange, hshifts⟩ | hback)
    · exact ⟨n - shift.shift, hrange, .inl (by rwa [Nat.sub_add_cancel hle] at hshifts)⟩
    · split at hback
      · exact absurd hback covers_nil
      · obtain ⟨hrange, hshifts⟩ := covers_part.mp hback
        exact ⟨n + shift.shift, by omega, .inr hshifts⟩
  · rintro ⟨m, hrange, h | h⟩
    · obtain rfl := h.shifted
      rw [Nat.add_sub_cancel]
      exact .inl ⟨Nat.le_add_left .., hrange, h⟩
    · obtain rfl := h.shifted
      rw [if_neg (by omega), covers_part]
      exact .inr ⟨by omega, h⟩

/-- Without regard to case, a set holds its members and what is another case of one of them. -/
theorem contains_foldCase {repertoire : Repertoire} :
    (s.foldCase repertoire).contains c = true ↔ s.contains c = true ∨
      ∃ m, Covers s.ranges m ∧ ∃ shift ∈ repertoire.caseShifts,
        Shifts shift m c.toNat ∨ Shifts shift c.toNat m := by
  rw [foldCase, contains_union, Bool.or_eq_true, contains_ofRanges, covers_flatMap]
  simp only [covers_flatMap, covers_variants]
  refine or_congr_right ?_
  constructor
  · rintro ⟨shift, hshift, r, hr, m, hm, h⟩
    exact ⟨m, ⟨r, hr, hm⟩, shift, hshift, h⟩
  · rintro ⟨m, ⟨r, hr, hm⟩, shift, hshift, h⟩
    exact ⟨shift, hshift, r, hr, m, hm, h⟩

end Case

section Uniqueness

theorem low_le (h : Normal (r :: rs)) (hn : Covers (r :: rs) n) : r.1 ≤ n := by
  refine hn.le (List.forall_mem_cons.mpr ⟨Nat.le_refl _, fun s hs => ?_⟩)
  have := h.valid r (by simp)
  have := h.gap s hs
  omega

theorem high_le {s : Nat × Nat} (hr : Normal (r :: rs)) (hlow : r.1 = s.1)
    (h : ∀ n, Covers (s :: ss) n → Covers (r :: rs) n) : s.2 ≤ r.2 := by
  have hvalid := hr.valid r (by simp)
  refine Nat.le_of_not_lt fun hlt => ?_
  have hbehind : Covers (r :: rs) (r.2 + 1) := h _ (covers_cons.mpr (.inl (by omega)))
  rcases covers_cons.mp hbehind with hfirst | hrest
  · omega
  · have := hrest.le hr.gap
    omega

theorem covers_tail_iff (h : Normal (r :: rs)) :
    Covers rs n ↔ Covers (r :: rs) n ∧ r.2 < n := by
  rw [covers_cons]
  constructor
  · intro hn
    have := hn.le h.gap
    exact ⟨.inr hn, by omega⟩
  · rintro ⟨hfirst | hrest, hlt⟩
    · omega
    · exact hrest

theorem eq_of_covers (hr : Normal rs) (hs : Normal ss) (h : ∀ n, Covers rs n ↔ Covers ss n) :
    rs = ss := by
  induction rs generalizing ss with
  | nil =>
    cases ss with
    | nil => rfl
    | cons s ss => exact absurd ((h s.1).mpr (by simp [hs.valid])) covers_nil
  | cons r rs ih =>
    cases ss with
    | nil => exact absurd ((h r.1).mp (by simp [hr.valid])) covers_nil
    | cons s ss =>
      have hstart : r.1 = s.1 := Nat.le_antisymm
        (low_le hr ((h s.1).mpr (by simp [hs.valid]))) (low_le hs ((h r.1).mp (by simp [hr.valid])))
      have hstop : r.2 = s.2 := Nat.le_antisymm
        (high_le hs hstart.symm fun n => (h n).mp) (high_le hr hstart fun n => (h n).mpr)
      have hrest := ih hr.tail hs.tail fun n => by
        rw [covers_tail_iff hr, covers_tail_iff hs, h n, hstop]
      rw [hrest, Prod.ext hstart hstop]

/-- A set is written in one way only. -/
theorem eq_iff_covers : s = t ↔ ∀ n, Covers s.ranges n ↔ Covers t.ranges n := by
  refine ⟨fun h n => by rw [h], fun h => ?_⟩
  obtain ⟨rs, hrs⟩ := s
  obtain ⟨ts, hts⟩ := t
  cases eq_of_covers hrs hts h
  rfl

end Uniqueness

end SyscallNames.CharSet
