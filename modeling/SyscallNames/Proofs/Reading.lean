import Mathlib.Algebra.Group.Nat.Defs
import SyscallNames.Decimal

set_option autoImplicit false

namespace SyscallNames

theorem bind_eq_ok {ε α β : Type} {x : Except ε α} {f : α → Except ε β} {b : β} :
    x >>= f = .ok b ↔ ∃ a, x = .ok a ∧ f a = .ok b := by
  cases x with
  | error e => simp [bind, Except.bind]
  | ok a => simp [bind, Except.bind]

theorem map_eq_ok {ε α β : Type} {x : Except ε α} {f : α → β} {b : β} :
    x.map f = .ok b ↔ ∃ a, x = .ok a ∧ f a = b := by
  cases x with
  | error e => simp [Except.map]
  | ok a => simp [Except.map]

theorem foldlM_singleton {ε α β : Type} (f : β → α → Except ε β) (b : β) (a : α) :
    [a].foldlM f b = f b a := by
  rw [List.foldlM_cons, bind_congr fun _ => List.foldlM_nil, bind_pure]

theorem foldlM_preserves {ε α β : Type} {f : β → α → Except ε β} {P : β → Prop}
    (hstep : ∀ b a b', P b → f b a = .ok b' → P b') {l : List α} {b b' : β} (hb : P b)
    (h : l.foldlM f b = .ok b') : P b' := by
  induction l generalizing b with
  | nil =>
    cases h
    exact hb
  | cons a l ih =>
    rw [List.foldlM_cons, bind_eq_ok] at h
    obtain ⟨next, hnext, h⟩ := h
    exact ih (hstep b a next hb hnext) h

theorem read_unique {ε α : Type} {reader : Text → Except ε (α × Text)} {text text' rest rest' : Text}
    {a a' : α} (h : text = text') (hr : reader text = .ok (a, rest))
    (hr' : reader text' = .ok (a', rest')) : a = a' ∧ rest = rest' := by
  rw [h, hr'] at hr
  cases hr
  exact ⟨rfl, rfl⟩

section Runs

variable {α : Type} {p : α → Bool} {run rest : List α}

theorem takeWhile_run (hrun : ∀ a ∈ run, p a) (hrest : ∀ a ∈ rest.head?, p a = false) :
    (run ++ rest).takeWhile p = run := by
  rw [List.takeWhile_append_of_pos hrun]
  cases rest with
  | nil => simp
  | cons b rest => simp [hrest b rfl]

theorem dropWhile_run (hrun : ∀ a ∈ run, p a) (hrest : ∀ a ∈ rest.head?, p a = false) :
    (run ++ rest).dropWhile p = rest := by
  rw [List.dropWhile_append_of_pos hrun]
  cases rest with
  | nil => rfl
  | cons b rest => simp [hrest b rfl]

theorem eq_false_of_mem_head?_dropWhile {l : List α} {a : α} (h : a ∈ (l.dropWhile p).head?) :
    p a = false := by
  have hl := List.head?_dropWhile_not p l
  rwa [Option.mem_def.mp h] at hl

end Runs

namespace Decimal

theorem value_cons (c : Char) (ds : Text) :
    value (c :: ds) = 10 ^ ds.length * (c.toNat - 48) + value ds := by
  simp only [value, Nat.ofDigitChars_cons, Nat.mul_zero, Nat.zero_add]
  exact Nat.ofDigitChars_eq_ofDigitChars_zero

@[simp]
theorem value_replicate_zero (n : Nat) : value (List.replicate n '0') = 0 := by
  simp [value]

theorem eq_replicate_of_value_eq_zero {ds : Text} (hd : ∀ c ∈ ds, c.isDigit = true)
    (hv : value ds = 0) : ds = List.replicate ds.length '0' := by
  induction ds with
  | nil => rfl
  | cons c ds ih =>
    rw [value_cons] at hv
    have hc : c = '0' := by
      have hdigit := hd c List.mem_cons_self
      have hpow : 0 < 10 ^ ds.length := Nat.pow_pos (by decide)
      have hle : c.toNat - 48 = 0 := by
        rcases Nat.eq_zero_or_pos (c.toNat - 48) with h | h
        · exact h
        · have := Nat.mul_pos hpow h
          omega
      simp only [Char.isDigit, Bool.and_eq_true, decide_eq_true_eq] at hdigit
      apply Char.toNat_inj.mp
      have hlow : 48 ≤ c.toNat := hdigit.1
      change c.toNat = 48
      omega
    rw [List.length_cons, List.replicate_succ, hc]
    congr 1
    exact ih (fun d hm => hd d (List.mem_cons_of_mem _ hm)) (by omega)

theorem word?_of_value_lt {ds : Text} (hne : ds ≠ []) (hd : ∀ c ∈ ds, c.isDigit = true)
    (hv : value ds < wordLimit) : word? ds = some (value ds) := by
  have hall : ds.all Char.isDigit = true := List.all_eq_true.mpr hd
  simp [word?, hne, hall, hv]

theorem word?_eq_some {ds : Text} {n : Nat} (h : word? ds = some n) :
    ds ≠ [] ∧ (∀ c ∈ ds, c.isDigit = true) ∧ n = value ds := by
  rw [word?] at h
  split at h
  · rename_i hds
    exact ⟨hds.1, List.all_eq_true.mp hds.2.1, (Option.some.inj h).symm⟩
  · cases h

end Decimal
end SyscallNames
