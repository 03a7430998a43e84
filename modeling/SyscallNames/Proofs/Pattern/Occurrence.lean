import SyscallNames.Pattern.Marked
import SyscallNames.Proofs.Pattern.Matching

set_option autoImplicit false

namespace SyscallNames

open Matching

namespace Marked

/-- What a pattern matches from its start on, whatever its marks are. -/
def Matches : Marked → Matching
  | blank => fun _ part _ => part = []
  | place p => fun front part rest => part = [] ∧ p.holds (.between front rest) = true
  | one s _ => fun _ part _ => ∃ c, part = [c] ∧ s.contains c = true
  | seq p q => Row p.Matches q.Matches
  | either p q => fun front part rest => p.Matches front part rest ∨ q.Matches front part rest
  | many p => fun front part rest => ∃ n, Rows p.Matches n front part rest

/-- What brings a pattern from one of its marks to its end. -/
def Resumes : Marked → Matching
  | blank => fun _ _ _ => False
  | place _ => fun _ _ _ => False
  | one _ mark => fun _ part _ => mark = true ∧ part = []
  | seq p q => fun front part rest =>
    Row p.Resumes q.Matches front part rest ∨ q.Resumes front part rest
  | either p q => fun front part rest => p.Resumes front part rest ∨ q.Resumes front part rest
  | many p => Row p.Resumes (many p).Matches

/-- What brings a pattern to its end from a mark or, if it may be entered, from its start. -/
def Continues (p : Marked) (enter : Bool) : Matching := fun front part rest =>
  p.Resumes front part rest ∨ (enter = true ∧ p.Matches front part rest)

section Equations

variable {p q : Marked} {s : CharSet} {mark : Bool} {place : Place} {front part rest : Text}

@[simp]
theorem matches_blank : blank.Matches front part rest ↔ part = [] := Iff.rfl

@[simp]
theorem matches_place : (Marked.place place).Matches front part rest ↔
    part = [] ∧ place.holds (.between front rest) = true := Iff.rfl

@[simp]
theorem matches_one : (one s mark).Matches front part rest ↔
    ∃ c, part = [c] ∧ s.contains c = true := Iff.rfl

@[simp]
theorem matches_seq : (seq p q).Matches front part rest ↔
    Row p.Matches q.Matches front part rest := Iff.rfl

@[simp]
theorem matches_either : (either p q).Matches front part rest ↔
    p.Matches front part rest ∨ q.Matches front part rest := Iff.rfl

@[simp]
theorem matches_many : (many p).Matches front part rest ↔
    ∃ n, Rows p.Matches n front part rest := Iff.rfl

@[simp]
theorem not_resumes_blank : ¬ blank.Resumes front part rest := id

@[simp]
theorem not_resumes_place : ¬ (Marked.place place).Resumes front part rest := id

@[simp]
theorem resumes_one : (one s mark).Resumes front part rest ↔ mark = true ∧ part = [] := Iff.rfl

@[simp]
theorem resumes_seq : (seq p q).Resumes front part rest ↔
    Row p.Resumes q.Matches front part rest ∨ q.Resumes front part rest := Iff.rfl

@[simp]
theorem resumes_either : (either p q).Resumes front part rest ↔
    p.Resumes front part rest ∨ q.Resumes front part rest := Iff.rfl

@[simp]
theorem resumes_many : (many p).Resumes front part rest ↔
    Row p.Resumes (many p).Matches front part rest := Iff.rfl

theorem continues_iff {enter : Bool} : p.Continues enter front part rest ↔
    p.Resumes front part rest ∨ (enter = true ∧ p.Matches front part rest) := Iff.rfl

end Equations

variable {p : Marked} {front part rest : Text} {c : Char}

theorem matches_nil : p.Matches front [] rest ↔ p.matchesEmpty (.between front rest) = true := by
  induction p with
  | blank => simp [matchesEmpty]
  | place p => simp [matchesEmpty]
  | one s mark => simp [matchesEmpty]
  | seq p q ihp ihq => simp [matchesEmpty, ihp, ihq]
  | either p q ihp ihq => simp [matchesEmpty, ihp, ihq]
  | many p _ => exact iff_of_true ⟨0, rfl⟩ rfl

theorem resumes_nil : p.Resumes front [] rest ↔ p.isDone (.between front rest) = true := by
  induction p with
  | blank => simp [isDone]
  | place p => simp [isDone]
  | one s mark => simp [isDone]
  | seq p q ihp ihq => simp [isDone, matches_nil, ihp, ihq, or_comm]
  | either p q ihp ihq => simp [isDone, ihp, ihq]
  | many p ih => rw [resumes_many, row_nil, matches_nil, ih, isDone, matchesEmpty, and_iff_left rfl]

@[simp]
theorem matches_advance (g : Gap) (c : Char) (enter : Bool) (p : Marked) :
    (p.advance g c enter).Matches = p.Matches := by
  induction p generalizing enter with
  | blank => rfl
  | place p => rfl
  | one s mark => rfl
  | seq p q ihp ihq => rw [advance, Matches, Matches, ihp, ihq]
  | either p q ihp ihq => rw [advance, Matches, Matches, ihp, ihq]
  | many p ih => rw [advance, Matches, Matches, ih]

/-- A mark has come over a character if it stood in front of it, or came in there. -/
theorem resumes_advance (p : Marked) (front part rest : Text) (c : Char) (enter : Bool) :
    (p.advance ⟨front.getLast?, some c⟩ c enter).Resumes (front ++ [c]) part rest ↔
      p.Continues enter front (c :: part) rest := by
  induction p generalizing part rest enter with
  | blank => simp [advance, continues_iff]
  | place p => simp [advance, continues_iff]
  | one s mark =>
    rw [advance, continues_iff, resumes_one, resumes_one, matches_one]
    grind
  | seq p q ihp ihq =>
    have hdone : p.Resumes front [] (c :: part ++ rest) ↔
        p.isDone ⟨front.getLast?, some c⟩ = true := resumes_nil
    have hempty : p.Matches front [] (c :: part ++ rest) ↔
        p.matchesEmpty ⟨front.getLast?, some c⟩ = true := matches_nil
    rw [advance, resumes_seq, ihq, row_behind fun a rest => ihp a rest enter, matches_advance]
    simp only [continues_iff, resumes_seq, matches_seq, row_cons, hdone, hempty]
    grind
  | either p q ihp ihq =>
    rw [advance, resumes_either, ihp, ihq]
    simp only [continues_iff, resumes_either, matches_either]
    grind
  | many p ih =>
    have hdone : p.Resumes front [] (c :: part ++ rest) ↔
        p.isDone ⟨front.getLast?, some c⟩ = true := resumes_nil
    -- The rounds behind the first are those of the loop with its marks moved.
    rw [advance, resumes_many, row_behind fun a rest => ih a rest _, ← advance, matches_advance]
    simp only [continues_iff, resumes_many, matches_many, row_cons, hdone, exists_rows_cons]
    grind

theorem occursFrom_iff (p : Marked) (front text : Text) :
    p.occursFrom front.getLast? text = true ↔
      (∃ part rest, text = part ++ rest ∧ p.Resumes front part rest) ∨
      ∃ skipped part rest, text = skipped ++ (part ++ rest) ∧
        p.Matches (front ++ skipped) part rest := by
  induction text generalizing p front with
  | nil =>
    have hdone : p.Resumes front [] [] ↔ p.isDone ⟨front.getLast?, none⟩ = true := resumes_nil
    have hempty : p.Matches front [] [] ↔ p.matchesEmpty ⟨front.getLast?, none⟩ = true :=
      matches_nil
    simp [occursFrom, ← hdone, ← hempty, and_assoc]
  | cons c text ih =>
    have hdone : p.Resumes front [] (c :: text) ↔ p.isDone ⟨front.getLast?, some c⟩ = true :=
      resumes_nil
    have hempty : p.Matches front [] (c :: text) ↔
        p.matchesEmpty ⟨front.getLast?, some c⟩ = true := matches_nil
    -- Behind `c` the scan goes on with all marks moved over it.
    have hrest := ih (p.advance ⟨front.getLast?, some c⟩ c true) (front ++ [c])
    rw [List.getLast?_concat] at hrest
    simp only [occursFrom, Bool.or_eq_true, ← hdone, ← hempty, hrest, resumes_advance,
      matches_advance, continues_iff, true_and, List.append_assoc, List.singleton_append]
    constructor
    · rintro ((hnil | hnil) | (⟨part, rest, rfl, hpart | hpart⟩ | ⟨skipped, part, rest, rfl, h⟩))
      · exact .inl ⟨[], c :: text, rfl, hnil⟩
      · exact .inr ⟨[], [], c :: text, rfl, by rwa [List.append_nil]⟩
      · exact .inl ⟨c :: part, rest, rfl, hpart⟩
      · exact .inr ⟨[], c :: part, rest, rfl, by rwa [List.append_nil]⟩
      · exact .inr ⟨c :: skipped, part, rest, rfl, h⟩
    · rintro (⟨part, rest, htext, hpart⟩ | ⟨skipped, part, rest, htext, hpart⟩)
      · cases part with
        | nil =>
          rw [List.nil_append] at htext
          exact .inl (.inl (htext ▸ hpart))
        | cons d part =>
          obtain ⟨rfl, rfl⟩ := List.cons.inj htext
          exact .inr (.inl ⟨part, rest, rfl, .inl hpart⟩)
      · cases skipped with
        | nil =>
          rw [List.append_nil] at hpart
          cases part with
          | nil =>
            rw [List.nil_append, List.nil_append] at htext
            exact .inl (.inr (htext ▸ hpart))
          | cons d part =>
            obtain ⟨rfl, rfl⟩ := List.cons.inj htext
            exact .inr (.inl ⟨part, rest, rfl, .inr hpart⟩)
        | cons d skipped =>
          obtain ⟨rfl, rfl⟩ := List.cons.inj htext
          exact .inr (.inr ⟨skipped, part, rest, rfl, hpart⟩)

@[simp]
theorem matches_power (p : Marked) (count : Nat) :
    (p.power count).Matches front part rest ↔ Rows p.Matches count front part rest := by
  fun_induction p.power count generalizing front part rest with
  | case1 => rfl
  | case2 => exact rows_one.symm
  | case3 count _ _ ihfirst ihlast =>
    have hcount : count / 2 + (count - count / 2) = count := by omega
    rw [matches_seq, row_congr (fun _ _ _ => ihfirst) (fun _ _ _ => ihlast), ← rows_add, hcount]

theorem not_resumes_seq {q : Marked} (hp : ∀ front part rest, ¬ p.Resumes front part rest)
    (hq : ∀ front part rest, ¬ q.Resumes front part rest) :
    ¬ (seq p q).Resumes front part rest := by
  rintro (⟨a, b, -, h, -⟩ | h)
  · exact hp _ _ _ h
  · exact hq _ _ _ h

theorem not_resumes_power (h : ∀ front part rest, ¬ p.Resumes front part rest) (count : Nat) :
    ∀ front part rest, ¬ (p.power count).Resumes front part rest := by
  fun_induction p.power count with
  | case1 => exact fun _ _ _ => not_resumes_blank
  | case2 => exact h
  | case3 count _ _ ihfirst ihlast => exact fun _ _ _ => not_resumes_seq ihfirst ihlast

@[simp]
theorem not_resumes_ofPattern (p : Pattern) :
    ∀ front part rest, ¬ (ofPattern p).Resumes front part rest := by
  induction p with
  | blank => exact fun _ _ _ => not_resumes_blank
  | place p => exact fun _ _ _ => not_resumes_place
  | one s => simp [ofPattern]
  | seq p q ihp ihq => exact fun _ _ _ => not_resumes_seq ihp ihq
  | either p q ihp ihq => exact fun _ _ _ => not_or_intro (ihp _ _ _) (ihq _ _ _)
  | times p least most ih =>
    cases most with
    | none =>
      refine fun _ _ _ => not_resumes_seq (not_resumes_power ih least) ?_
      rintro _ _ _ ⟨a, b, -, h, -⟩
      exact ih _ _ _ h
    | some most =>
      have hoptional (front part rest : Text) :
          ¬ (either (ofPattern p) blank).Resumes front part rest :=
        not_or_intro (ih _ _ _) not_resumes_blank
      exact fun _ _ _ => not_resumes_seq (not_resumes_power ih least)
        (not_resumes_power hoptional (most - least))
  | group p ih => exact ih

@[simp]
theorem matches_ofPattern (p : Pattern) :
    (ofPattern p).Matches front part rest ↔ p.Matches front part rest := by
  induction p generalizing front part rest with
  | blank => rfl
  | place p => rfl
  | one s => rfl
  | seq p q ihp ihq => exact row_congr (fun _ _ _ => ihp) fun _ _ _ => ihq
  | either p q ihp ihq => exact or_congr ihp ihq
  | group p ih => exact ih
  | times p least most ih =>
    have hleast (front part rest : Text) : ((ofPattern p).power least).Matches front part rest ↔
        Rows p.Matches least front part rest :=
      (matches_power _ least).trans (rows_congr (fun _ _ _ => ih) least)
    cases most with
    | none =>
      have hmany (front part rest : Text) : (many (ofPattern p)).Matches front part rest ↔
          ∃ n, True ∧ Rows p.Matches n front part rest := by
        simp only [matches_many, true_and, rows_congr fun _ _ _ => ih]
      rw [ofPattern, matches_seq, row_congr hleast hmany, row_rows_exists, Pattern.matches_times]
      simp
    | some most =>
      have hoptional (front part rest : Text) :
          ((either (ofPattern p) blank).power (most - least)).Matches front part rest ↔
            ∃ n, n ≤ most - least ∧ Rows p.Matches n front part rest := by
        rw [matches_power, ← rows_optional]
        exact rows_congr (fun _ _ _ => or_congr ih Iff.rfl) _
      rw [ofPattern, matches_seq, row_congr hleast hoptional, row_rows_exists,
        Pattern.matches_times]
      refine exists_congr fun n => and_congr_right fun hle => and_congr_left fun _ => ?_
      simp only [Option.mem_some_iff, forall_eq']
      omega

end Marked

/-- A pattern occurs in a text if and only if it matches some part of it, where that part stands. -/
theorem Pattern.occursIn_iff (p : Pattern) (text : Text) : p.occursIn text = true ↔
    ∃ front part rest, text = front ++ (part ++ rest) ∧ p.Matches front part rest := by
  rw [occursIn]
  refine (Marked.occursFrom_iff (.ofPattern p) [] text).trans ?_
  simp only [Marked.not_resumes_ofPattern, Marked.matches_ofPattern, and_false, exists_false,
    false_or, List.nil_append]

end SyscallNames
