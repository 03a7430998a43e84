import SyscallNames.Log.Filter
import SyscallNames.Proofs.Pattern.Quotation

set_option autoImplicit false

namespace SyscallNames.Log

namespace Directive

theorem exists_foldl_prefer (best : Directive) (ds : List Directive) :
    ∃ d, ds.foldl prefer (some best) = some d ∧ (d = best ∨ d ∈ ds) ∧
      best.nameLength ≤ d.nameLength ∧ ∀ e ∈ ds, e.nameLength ≤ d.nameLength := by
  induction ds generalizing best with
  | nil => exact ⟨best, rfl, .inl rfl, Nat.le_refl _, by simp⟩
  | cons e ds ih =>
    rw [List.foldl_cons, prefer]
    split
    · rename_i hle
      obtain ⟨d, hd, hmem, hbest, hrest⟩ := ih e
      refine ⟨d, hd, .inr (List.mem_cons.mpr hmem), Nat.le_trans hle hbest, ?_⟩
      exact List.forall_mem_cons.mpr ⟨hbest, hrest⟩
    · rename_i hlt
      obtain ⟨d, hd, hmem, hbest, hrest⟩ := ih best
      refine ⟨d, hd, hmem.imp_right (List.mem_cons_of_mem e), hbest, ?_⟩
      exact List.forall_mem_cons.mpr ⟨by omega, hrest⟩

end Directive

namespace Filter

variable {filter : Filter} {target : Text}

/-- The directive that decides has the longest name of all that the target starts with. -/
theorem find?_eq_some {d : Directive} (h : filter.find? target = some d) :
    d ∈ filter.directives ∧ d.covers target = true ∧
      ∀ e ∈ filter.directives, e.covers target = true → e.nameLength ≤ d.nameLength := by
  have hcovering (e : Directive) : e ∈ filter.directives.filter (fun d => d.covers target) ↔
      e ∈ filter.directives ∧ e.covers target = true := List.mem_filter
  cases hds : filter.directives.filter fun d => d.covers target with
  | nil => simp [find?, hds] at h
  | cons first ds =>
    rw [find?, hds, List.foldl_cons, Directive.prefer] at h
    obtain ⟨longest, hlongest, hmem, hfirst, hrest⟩ := Directive.exists_foldl_prefer first ds
    obtain rfl : longest = d := Option.some.inj (hlongest.symm.trans h)
    obtain ⟨hd, hcovers⟩ := (hcovering longest).mp (hds ▸ List.mem_cons.mpr hmem)
    refine ⟨hd, hcovers, fun e he hcovers => ?_⟩
    have he := (hcovering e).mpr ⟨he, hcovers⟩
    rw [hds] at he
    rcases List.mem_cons.mp he with rfl | he
    · exact hfirst
    · exact hrest e he

theorem find?_eq_none : filter.find? target = none ↔
    ∀ d ∈ filter.directives, d.covers target = false := by
  rw [find?]
  cases hds : filter.directives.filter fun d => d.covers target with
  | nil => simpa using List.filter_eq_nil_iff.mp hds
  | cons first ds =>
    obtain ⟨longest, hlongest, -⟩ := Directive.exists_foldl_prefer first ds
    obtain ⟨hfirst, hcovers⟩ := List.mem_filter.mp (hds ▸ List.mem_cons_self)
    rw [List.foldl_cons, Directive.prefer, hlongest]
    refine iff_of_false (by simp) fun h => ?_
    rw [h first hfirst] at hcovers
    cases hcovers

/-- A record is shown if the directive for its target goes as far as its level and, should there be
a pattern, some part of the message matches it. -/
theorem shows_iff (filter : Filter) (r : Record) : filter.shows r = true ↔
    (∃ d, filter.find? r.origin.target.toList = some d ∧ r.level.rank ≤ d.limit) ∧
    ∀ p ∈ filter.pattern, ∃ front part rest, r.message.toList = front ++ (part ++ rest) ∧
      p.Matches front part rest := by
  rw [shows, Bool.and_eq_true, allows, Option.any_eq_true, Option.all_eq_true]
  simp only [decide_eq_true_eq, Pattern.occursIn_iff, Option.mem_def]

/-- A slash and a quoted word behind a filter leave, of the records that it shows, those whose
message has the word in it. -/
theorem shows_parse_quote {spec word : Text} (hspec : '/' ∉ spec) (hword : '/' ∉ word)
    (hsize : (Pattern.word word).size ≤ Pattern.sizeLimit) (r : Record) :
    (parse (spec ++ '/' :: Pattern.quote word)).1.shows r = true ↔
      (parse spec).1.shows r = true ∧ word <:+: r.message.toList := by
  have hquote : '/' ∉ Pattern.quote word := fun h => hword (Pattern.mem_quote_of_ne h (by decide))
  have hboth : (spec ++ '/' :: Pattern.quote word).splitOn '/' = [spec, Pattern.quote word] := by
    rw [List.splitOn_append_cons_self_of_not_mem hspec, List.splitOn_eq_singleton hquote]
  have hpattern : Pattern.parse (Pattern.quote word) = .ok (Pattern.word word) := by
    rw [Pattern.parse, Pattern.read_quote]
    exact if_pos hsize
  simp only [parse, hboth, hpattern, List.splitOn_eq_singleton hspec, shows, allows, find?,
    ofDirectives, Option.all_some, Option.all_none, Bool.and_true, Bool.and_eq_true,
    Pattern.occursIn_word]

end Filter

end SyscallNames.Log
