import SyscallNames.Pattern.Basic
import SyscallNames.Proofs.CharSet

set_option autoImplicit false

namespace SyscallNames

/-- Which parts of a text match: the text in front, the part, and the rest behind it. -/
abbrev Matching := Text → Text → Text → Prop

def Gap.between (front rest : Text) : Gap := ⟨front.getLast?, rest.head?⟩

namespace Matching

def Row (P Q : Matching) : Matching := fun front part rest =>
  ∃ a b, part = a ++ b ∧ P front a (b ++ rest) ∧ Q (front ++ a) b rest

def Rows (P : Matching) : Nat → Matching
  | 0 => fun _ part _ => part = []
  | n + 1 => Row P (Rows P n)

variable {P Q R : Matching} {front part rest : Text} {c : Char}

@[simp]
theorem row_nil : Row P Q front [] rest ↔ P front [] rest ∧ Q front [] rest := by
  constructor
  · rintro ⟨a, b, hab, hP, hQ⟩
    obtain ⟨rfl, rfl⟩ := List.append_eq_nil_iff.mp hab.symm
    simpa using And.intro hP hQ
  · rintro ⟨hP, hQ⟩
    exact ⟨[], [], rfl, by simpa using hP, by simpa using hQ⟩

theorem row_cons : Row P Q front (c :: part) rest ↔
    (P front [] (c :: part ++ rest) ∧ Q front (c :: part) rest) ∨
      ∃ a b, part = a ++ b ∧ P front (c :: a) (b ++ rest) ∧ Q (front ++ c :: a) b rest := by
  constructor
  · rintro ⟨a, b, hab, hP, hQ⟩
    cases a with
    | nil =>
      rw [List.nil_append] at hab
      subst hab
      exact .inl ⟨hP, by simpa using hQ⟩
    | cons d a =>
      obtain ⟨rfl, rfl⟩ := List.cons.inj hab
      exact .inr ⟨a, b, rfl, hP, hQ⟩
  · rintro (⟨hP, hQ⟩ | ⟨a, b, rfl, hP, hQ⟩)
    · exact ⟨[], c :: part, rfl, hP, by simpa using hQ⟩
    · exact ⟨c :: a, b, rfl, hP, hQ⟩

theorem row_behind {P' : Matching} (h : ∀ a rest, P' (front ++ [c]) a rest ↔ P front (c :: a) rest) :
    Row P' Q (front ++ [c]) part rest ↔
      ∃ a b, part = a ++ b ∧ P front (c :: a) (b ++ rest) ∧ Q (front ++ c :: a) b rest := by
  simp only [Row, h, List.append_assoc, List.singleton_append]

theorem row_congr {P' Q' : Matching} (hP : ∀ front part rest, P front part rest ↔ P' front part rest)
    (hQ : ∀ front part rest, Q front part rest ↔ Q' front part rest) :
    Row P Q front part rest ↔ Row P' Q' front part rest := by
  simp only [Row, hP, hQ]

@[simp]
theorem row_blank_left : Row (Rows P 0) Q front part rest ↔ Q front part rest := by
  constructor
  · rintro ⟨a, b, rfl, rfl, hQ⟩
    simpa using hQ
  · intro hQ
    exact ⟨[], part, rfl, rfl, by simpa using hQ⟩

@[simp]
theorem row_blank_right : Row P (Rows Q 0) front part rest ↔ P front part rest := by
  constructor
  · rintro ⟨a, b, rfl, hP, rfl⟩
    simpa using hP
  · intro hP
    exact ⟨part, [], by simp, by simpa using hP, rfl⟩

theorem row_assoc : Row (Row P Q) R front part rest ↔ Row P (Row Q R) front part rest := by
  constructor
  · rintro ⟨ab, d, rfl, ⟨a, b, rfl, hP, hQ⟩, hR⟩
    exact ⟨a, b ++ d, by simp, by simpa using hP, b, d, rfl, hQ, by simpa using hR⟩
  · rintro ⟨a, bd, rfl, hP, b, d, rfl, hQ, hR⟩
    exact ⟨a ++ b, d, by simp, ⟨a, b, rfl, by simpa using hP, hQ⟩, by simpa using hR⟩

@[simp]
theorem rows_one : Rows P 1 front part rest ↔ P front part rest := row_blank_right

theorem rows_add (m n : Nat) :
    Rows P (m + n) front part rest ↔ Row (Rows P m) (Rows P n) front part rest := by
  induction m generalizing front part rest with
  | zero => rw [Nat.zero_add, row_blank_left]
  | succ m ih =>
    rw [Nat.succ_add_eq_add_succ, Nat.add_succ, Rows, Rows, row_assoc]
    exact row_congr (fun _ _ _ => Iff.rfl) fun _ _ _ => ih

theorem rows_congr {P' : Matching} (h : ∀ front part rest, P front part rest ↔ P' front part rest)
    (n : Nat) : Rows P n front part rest ↔ Rows P' n front part rest := by
  induction n generalizing front part rest with
  | zero => rfl
  | succ n ih => exact row_congr h fun _ _ _ => ih

theorem row_rows_exists (least : Nat) (allowed : Nat → Prop) :
    Row (Rows P least) (fun front part rest => ∃ n, allowed n ∧ Rows P n front part rest)
        front part rest ↔
      ∃ n, least ≤ n ∧ allowed (n - least) ∧ Rows P n front part rest := by
  constructor
  · rintro ⟨a, b, hab, hleast, n, hn, hrows⟩
    exact ⟨least + n, Nat.le_add_right .., by rwa [Nat.add_sub_cancel_left],
      (rows_add least n).mpr ⟨a, b, hab, hleast, hrows⟩⟩
  · rintro ⟨n, hle, hn, hrows⟩
    rw [← Nat.add_sub_cancel' hle] at hrows
    obtain ⟨a, b, hab, hleast, hrows⟩ := (rows_add least (n - least)).mp hrows
    exact ⟨a, b, hab, hleast, n - least, hn, hrows⟩

theorem exists_rows_cons : (∃ n, Rows P n front (c :: part) rest) ↔
    ∃ a b, part = a ++ b ∧ P front (c :: a) (b ++ rest) ∧
      ∃ n, Rows P n (front ++ c :: a) b rest := by
  constructor
  · rintro ⟨n, hn⟩
    induction n with
    | zero => cases hn
    | succ n ih =>
      rcases row_cons.mp hn with ⟨-, hrows⟩ | ⟨a, b, hab, hP, hrows⟩
      · exact ih hrows
      · exact ⟨a, b, hab, hP, n, hrows⟩
  · rintro ⟨a, b, rfl, hP, n, hrows⟩
    exact ⟨n + 1, c :: a, b, rfl, hP, hrows⟩

/-- As many parts as there are, each of which may be left out, are any smaller number of them. -/
theorem rows_optional (n : Nat) :
    Rows (fun front part rest => P front part rest ∨ part = []) n front part rest ↔
      ∃ m ≤ n, Rows P m front part rest := by
  induction n generalizing front part rest with
  | zero => simp [Rows]
  | succ n ih =>
    constructor
    · rintro ⟨a, b, rfl, hP | rfl, hrows⟩
      · obtain ⟨m, hm, hrows⟩ := ih.mp hrows
        exact ⟨m + 1, Nat.succ_le_succ hm, a, b, rfl, hP, hrows⟩
      · obtain ⟨m, hm, hrows⟩ := ih.mp hrows
        exact ⟨m, Nat.le_succ_of_le hm, by simpa using hrows⟩
    · rintro ⟨m, hm, hrows⟩
      cases m with
      | zero => exact ⟨[], part, rfl, .inr rfl, ih.mpr ⟨0, Nat.zero_le n, hrows⟩⟩
      | succ m =>
        obtain ⟨a, b, rfl, hP, hrows⟩ := hrows
        exact ⟨a, b, rfl, .inl hP, ih.mpr ⟨m, Nat.le_of_succ_le_succ hm, hrows⟩⟩

end Matching

namespace Pattern

open Matching

/-- The parts of a text that a pattern matches. A bound below the least counts as the least. -/
def Matches : Pattern → Matching
  | blank => fun _ part _ => part = []
  | place p => fun front part rest => part = [] ∧ p.holds (.between front rest) = true
  | one s => fun _ part _ => ∃ c, part = [c] ∧ s.contains c = true
  | seq p q => Row p.Matches q.Matches
  | either p q => fun front part rest => p.Matches front part rest ∨ q.Matches front part rest
  | times p least most => fun front part rest =>
    ∃ n, least ≤ n ∧ (∀ limit ∈ most, n ≤ max least limit) ∧ Rows p.Matches n front part rest
  | group p => p.Matches

variable {p q : Pattern} {front part rest : Text}

@[simp]
theorem matches_blank : blank.Matches front part rest ↔ part = [] := Iff.rfl

@[simp]
theorem matches_place {p : Place} : (place p).Matches front part rest ↔
    part = [] ∧ p.holds (.between front rest) = true := Iff.rfl

@[simp]
theorem matches_one {s : CharSet} : (one s).Matches front part rest ↔
    ∃ c, part = [c] ∧ s.contains c = true := Iff.rfl

@[simp]
theorem matches_seq : (seq p q).Matches front part rest ↔
    Row p.Matches q.Matches front part rest := Iff.rfl

@[simp]
theorem matches_either : (either p q).Matches front part rest ↔
    p.Matches front part rest ∨ q.Matches front part rest := Iff.rfl

@[simp]
theorem matches_group : (group p).Matches front part rest ↔ p.Matches front part rest := Iff.rfl

theorem matches_times {least : Nat} {most : Option Nat} : (times p least most).Matches front part
    rest ↔ ∃ n, least ≤ n ∧ (∀ limit ∈ most, n ≤ max least limit) ∧
      Rows p.Matches n front part rest := Iff.rfl

def Across : List Pattern → Matching
  | [] => fun _ part _ => part = []
  | p :: ps => Row p.Matches (Across ps)

theorem across_seq_cons {ps qs : List Pattern}
    (h : ∀ front part rest, Across ps front part rest ↔ Across qs front part rest) :
    Across (seq p q :: ps) front part rest ↔ Across (p :: q :: qs) front part rest := by
  simp only [Across, Matches]
  rw [row_assoc]
  exact row_congr (fun _ _ _ => Iff.rfl) fun _ _ _ => row_congr (fun _ _ _ => Iff.rfl) h

theorem across_joinPairs (ps : List Pattern) :
    Across (joinPairs seq ps) front part rest ↔ Across ps front part rest := by
  fun_induction joinPairs seq ps generalizing front part rest with
  | case1 p q ps ih => exact across_seq_cons fun _ _ _ => ih
  | case2 => rfl

@[simp]
theorem matches_sequence (ps : List Pattern) :
    (sequence ps).Matches front part rest ↔ Across ps front part rest := by
  rw [sequence]
  fun_induction joinAll seq blank ps with
  | case1 => rfl
  | case2 p =>
    have hlast : Across [p] = Row p.Matches (Rows p.Matches 0) := rfl
    rw [hlast, row_blank_right]
  | case3 p q ps ih => exact ih.trans (across_seq_cons fun _ _ _ => across_joinPairs ps)

theorem exists_joinPairs (ps : List Pattern) :
    (∃ p ∈ joinPairs either ps, p.Matches front part rest) ↔
      ∃ p ∈ ps, p.Matches front part rest := by
  fun_induction joinPairs either ps with
  | case1 p q ps ih => simp [ih, or_assoc]
  | case2 => rfl

theorem matches_joinAll_either (ps : List Pattern) :
    (joinAll either never ps).Matches front part rest ↔
      ∃ p ∈ ps, p.Matches front part rest := by
  fun_induction joinAll either never ps with
  | case1 => simp [never]
  | case2 p => simp
  | case3 p q ps ih =>
    rw [ih]
    simp [exists_joinPairs, or_assoc]

theorem set?_eq_some {s : CharSet} : p.set? = some s ↔ p = one s := by
  cases p <;> simp [set?]

@[simp]
theorem matches_unions (sets : List CharSet) : (one (.unions sets)).Matches front part rest ↔
    ∃ s ∈ sets, (one s).Matches front part rest := by
  simp only [matches_one, CharSet.contains_unions, List.any_eq_true]
  grind

theorem eq_map_one_of_mapM {ps : List Pattern} {sets : List CharSet}
    (h : ps.mapM set? = some sets) : ps = sets.map one := by
  induction ps generalizing sets with
  | nil =>
    cases h
    rfl
  | cons p ps ih =>
    simp only [List.mapM_cons, bind, Option.bind_eq_some_iff] at h
    obtain ⟨s, hs, rest, hrest, hsets⟩ := h
    cases hsets
    rw [List.map_cons, ← ih hrest, ← set?_eq_some.mp hs]

@[simp]
theorem matches_choice (ps : List Pattern) :
    (choice ps).Matches front part rest ↔ ∃ p ∈ ps, p.Matches front part rest := by
  rw [choice]
  split
  · rename_i sets hsets
    rw [matches_unions, eq_map_one_of_mapM hsets]
    constructor
    · rintro ⟨s, hs, h⟩
      exact ⟨one s, List.mem_map_of_mem hs, h⟩
    · rintro ⟨p, hp, h⟩
      obtain ⟨s, hs, rfl⟩ := List.mem_map.mp hp
      exact ⟨s, hs, h⟩
  · exact matches_joinAll_either ps

theorem eq_nil_of_rows {P : Matching} (hP : ∀ {front part rest}, P front part rest → part = [])
    {n : Nat} (h : Rows P n front part rest) : part = [] := by
  induction n generalizing front part with
  | zero => exact h
  | succ n ih =>
    obtain ⟨a, b, rfl, ha, hb⟩ := h
    rw [hP ha, ih hb, List.append_nil]

theorem eq_nil_of_isEmptyOnly (he : p.isEmptyOnly = true) (h : p.Matches front part rest) :
    part = [] := by
  induction p generalizing front part rest with
  | blank => exact h
  | place p => exact h.1
  | one s => cases he
  | seq p q ihp ihq =>
    rw [isEmptyOnly, Bool.and_eq_true] at he
    obtain ⟨a, b, rfl, ha, hb⟩ := h
    rw [ihp he.1 ha, ihq he.2 hb, List.append_nil]
  | either p q ihp ihq =>
    rw [isEmptyOnly, Bool.and_eq_true] at he
    exact h.elim (ihp he.1) (ihq he.2)
  | times p least most ih =>
    obtain ⟨n, hleast, hmost, hrows⟩ := h
    simp only [isEmptyOnly, Bool.or_eq_true, Bool.and_eq_true, decide_eq_true_eq] at he
    rcases he with ⟨rfl, rfl⟩ | he
    · obtain rfl : n = 0 := by simpa using hmost
      exact hrows
    · exact eq_nil_of_rows (ih he) hrows
  | group p ih => exact ih he h

theorem rows_of_isEmptyOnly (he : p.isEmptyOnly = true) (n : Nat) :
    Rows p.Matches (n + 1) front part rest ↔ p.Matches front part rest := by
  induction n with
  | zero => exact rows_one
  | succ n ih =>
    constructor
    · intro h
      obtain rfl := eq_nil_of_rows (eq_nil_of_isEmptyOnly he) h
      exact (row_nil.mp h).1
    · intro h
      obtain rfl := eq_nil_of_isEmptyOnly he h
      exact row_nil.mpr ⟨h, ih.mpr h⟩

/-- Of numbers of times, it counts only whether they are zero. -/
theorem matches_times_of_isEmptyOnly (he : p.isEmptyOnly = true) {least : Nat} {most : Option Nat} :
    (times p least most).Matches front part rest ↔
      (least = 0 ∧ part = []) ∨
        ((least = 0 → most ≠ some 0) ∧ p.Matches front part rest) := by
  rw [matches_times]
  constructor
  · rintro ⟨n, hleast, hmost, hrows⟩
    cases n with
    | zero => exact .inl ⟨Nat.le_zero.mp hleast, hrows⟩
    | succ n =>
      refine .inr ⟨?_, (rows_of_isEmptyOnly he n).mp hrows⟩
      rintro rfl rfl
      simp at hmost
  · rintro (⟨rfl, hnil⟩ | ⟨hmost, h⟩)
    · exact ⟨0, Nat.le_refl 0, by simp, hnil⟩
    · refine ⟨least - 1 + 1, by omega, ?_, (rows_of_isEmptyOnly he _).mpr h⟩
      rintro limit rfl
      simp only [ne_eq, Option.some.injEq] at hmost
      omega

@[simp]
theorem matches_repeated (p : Pattern) (least : Nat) (most : Option Nat) :
    (p.repeated least most).Matches front part rest ↔
      (times p least most).Matches front part rest := by
  rw [repeated]
  split
  · rename_i he
    have hleast : min least 1 = 0 ↔ least = 0 := by omega
    have hmost : some (min (most.getD 1) 1) ≠ some 0 ↔ most ≠ some 0 := by
      cases most <;> simp
    rw [matches_times_of_isEmptyOnly he, matches_times_of_isEmptyOnly he, hleast, hmost]
  · rfl

end Pattern
end SyscallNames
