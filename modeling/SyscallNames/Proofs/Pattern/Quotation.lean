import Mathlib.Data.List.Forall2
import SyscallNames.Pattern.Meaning
import SyscallNames.Proofs.Pattern.Occurrence

set_option autoImplicit false

namespace SyscallNames.Pattern

def metaChars : Text := ['(', ')', '|', '?', '*', '+', '\x7b', '[', '\\', '.', '^', '$']

def quoteChar (c : Char) : Text := if c ∈ metaChars then ['\\', c] else [c]

/-- A text with a backslash in front of each character that has a meaning of its own. -/
def quote (text : Text) : Text := text.flatMap quoteChar

def word (text : Text) : Pattern := sequence (text.map fun c => one (.single c))

variable {c : Char} {text : Text}

theorem quoteChar_of_mem (h : c ∈ metaChars) : quoteChar c = ['\\', c] := if_pos h

theorem quoteChar_of_not_mem (h : c ∉ metaChars) : quoteChar c = [c] := if_neg h

theorem length_le_length_quote (text : Text) : text.length ≤ (quote text).length := by
  induction text with
  | nil => exact Nat.le_refl 0
  | cons c text ih =>
    have hc : 1 ≤ (quoteChar c).length := by
      rw [quoteChar]
      split <;> simp
    rw [quote, List.flatMap_cons, ← quote, List.length_append, List.length_cons]
    omega

theorem mem_quote_of_ne {d : Char} (h : d ∈ quote text) (hd : d ≠ '\\') : d ∈ text := by
  obtain ⟨c, hc, hdc⟩ := List.mem_flatMap.mp h
  rw [quoteChar] at hdc
  split at hdc
  · obtain rfl : d = c := by simpa [hd] using hdc
    exact hc
  · exact List.mem_singleton.mp hdc ▸ hc

section Cursor

variable {cursor : Cursor}

@[simp]
theorem Cursor.verbose_next (cursor : Cursor) : cursor.next.verbose = cursor.verbose := by
  rw [next]
  split <;> rfl

theorem Cursor.head?_eq (h : cursor.rest = text) : cursor.head? = text.head? :=
  congrArg List.head? h

theorem Cursor.rest_next (h : cursor.rest = c :: text) : cursor.next.rest = text := by
  rw [next, h]

end Cursor

theorem readEscape_of_mem {cursor : Cursor} {rest : Text} (h : c ∈ metaChars)
    (hrest : cursor.rest = '\\' :: c :: rest) :
    readEscape cursor =
      .ok (literalAtom c false (cursor.next.next.since cursor.offset), cursor.next.next) := by
  obtain ⟨offset, _, verbose⟩ := cursor
  cases hrest
  simp only [metaChars, List.mem_cons, List.not_mem_nil, or_false] at h
  rcases h with rfl | rfl | rfl | rfl | rfl | rfl | rfl | rfl | rfl | rfl | rfl | rfl
  all_goals rfl

namespace Reading

variable {reading : Reading} {done rest : Text}

theorem step_of_not_mem (h : c ∉ metaChars) : reading.step c =
    .ok (reading.push (.atom (literalAtom c false reading.cursor.ahead)) reading.cursor.next) := by
  rw [step]
  all_goals
    rintro rfl
    exact absurd (by decide) h

def IsLiteral (tree : Tree) (c : Char) : Prop := ∃ span, tree = .atom (literalAtom c false span)

/-- Nothing has been read but characters that stand for themselves, the last one first. -/
structure Spelled (reading : Reading) (done : Text) : Prop where
  outer : reading.outer = []
  branches : reading.group.branches = []
  verbose : reading.cursor.verbose = false
  items : List.Forall₂ IsLiteral reading.group.items done

theorem Spelled.push (h : reading.Spelled done) {cursor : Cursor} (hverbose : cursor.verbose = false)
    (span : Span) : (reading.push (.atom (literalAtom c false span)) cursor).Spelled (c :: done) where
  outer := h.outer
  branches := h.branches
  verbose := hverbose
  items := .cons ⟨span, rfl⟩ h.items

theorem Spelled.step (h : reading.Spelled done) (hrest : reading.cursor.rest = quoteChar c ++ rest) :
    ∃ head next, reading.cursor.head? = some head ∧ reading.step head = .ok next ∧
      next.cursor.rest = rest ∧ next.Spelled (c :: done) := by
  by_cases hc : c ∈ metaChars
  · rw [quoteChar_of_mem hc] at hrest
    have hread := readEscape_of_mem hc hrest
    exact ⟨'\\', _, Cursor.head?_eq hrest, congrArg (Except.map _) hread,
      Cursor.rest_next (Cursor.rest_next hrest), h.push (by simp [h.verbose]) _⟩
  · rw [quoteChar_of_not_mem hc] at hrest
    exact ⟨c, _, Cursor.head?_eq hrest, step_of_not_mem hc, Cursor.rest_next hrest,
      h.push (by simp [h.verbose]) _⟩

theorem Spelled.skipBlank (h : reading.Spelled done) :
    reading.cursor.skipBlank = reading.cursor := if_neg (by simp [h.verbose])

theorem Spelled.close (h : reading.Spelled done) :
    reading.close = .ok (reading.group.branch reading.cursor.offset) := by
  rw [Reading.close, h.outer, OpenGroup.tree, h.branches]

theorem Spelled.steps {counter : Text} (h : reading.Spelled done)
    (hrest : reading.cursor.rest = quote text) (hlength : text.length ≤ counter.length) :
    ∃ last : Reading, steps counter reading = .ok (last.group.branch last.cursor.offset) ∧
      last.Spelled (text.reverse ++ done) := by
  induction text generalizing counter reading done with
  | nil =>
    refine ⟨reading, ?_, h⟩
    cases counter with
    | nil => exact h.close
    | cons _ counter =>
      have hhead : reading.cursor.head? = none := Cursor.head?_eq hrest
      simp only [Reading.steps, h.skipBlank, hhead]
      exact h.close
  | cons c text ih =>
    cases counter with
    | nil => simp at hlength
    | cons _ counter =>
      -- A quoted character is one step, so that there are no more steps than characters.
      obtain ⟨head, next, hhead, hstep, hrest, hnext⟩ := h.step (hrest.trans List.flatMap_cons)
      obtain ⟨last, hsteps, hlast⟩ := ih hnext hrest (Nat.le_of_succ_le_succ hlength)
      refine ⟨last, ?_, by simpa using hlast⟩
      simp only [Reading.steps, h.skipBlank, hhead, hstep]
      exact hsteps

end Reading

theorem checkTrees_of_literals {trees : List Tree} (h : List.Forall₂ Reading.IsLiteral trees text)
    (depth : Nat) : checkTrees depth trees = .ok () := by
  induction h with
  | nil => rfl
  | cons h _ ih =>
    obtain ⟨span, rfl⟩ := h
    exact ih

theorem patterns_of_literals {trees : List Tree} (h : List.Forall₂ Reading.IsLiteral trees text)
    (done : List Pattern) : patterns done {} trees =
      .ok (done.reverse ++ text.map fun c => one (.single c), {}) := by
  induction h generalizing done with
  | nil => simp [patterns]
  | cons h _ ih =>
    obtain ⟨span, rfl⟩ := h
    refine (ih (one (.single _) :: done)).trans ?_
    simp

theorem Reading.Spelled.pattern_branch {reading : Reading} (h : reading.Spelled text.reverse)
    (stop : Nat) : (reading.group.branch stop).checkNesting 0 = .ok () ∧
      (reading.group.branch stop).pattern {} = .ok (word text, {}) := by
  have hitems : List.Forall₂ IsLiteral reading.group.items.reverse text := by
    rw [← text.reverse_reverse]
    exact List.forall₂_reverse_iff.mpr h.items
  rw [OpenGroup.branch]
  split
  · rename_i hnil
    rw [hnil] at hitems
    cases hitems
    exact ⟨rfl, by rw [Tree.pattern, word, List.map_nil, sequence, joinAll]⟩
  · rename_i tree hone
    rw [hone] at hitems
    obtain _ | ⟨⟨span, rfl⟩, htail⟩ := hitems
    cases htail
    refine ⟨rfl, ?_⟩
    rw [word, List.map_singleton, sequence, joinAll]
    rfl
  · refine ⟨checkTrees_of_literals hitems _, ?_⟩
    rw [Tree.pattern, patterns_of_literals hitems]
    rfl

/-- A quoted text is read as the pattern of its characters, none of which has another meaning. -/
theorem read_quote (text : Text) : read (quote text) = .ok (word text) := by
  have hstart : Reading.Spelled
      { group := { start := 0, inside := 0, branchStart := 0 }, cursor := .ofText (quote text) }
      [] := ⟨rfl, rfl, rfl, .nil⟩
  obtain ⟨last, htree, hlast⟩ := hstart.steps rfl (length_le_length_quote text)
  rw [List.append_nil] at hlast
  obtain ⟨hnesting, hpattern⟩ := hlast.pattern_branch last.cursor.offset
  rw [read, Tree.read, htree]
  simp only [bind, Except.bind, hnesting, hpattern]
  rfl

@[simp]
theorem matches_word {front part rest : Text} :
    (word text).Matches front part rest ↔ part = text := by
  rw [word, matches_sequence]
  induction text generalizing front part with
  | nil => rfl
  | cons c text ih =>
    simp only [List.map_cons, Across, Matching.Row, matches_one, CharSet.contains_single, ih]
    grind

theorem occursIn_word {t : Text} : (word text).occursIn t = true ↔ text <:+: t := by
  simp only [occursIn_iff, matches_word]
  constructor
  · rintro ⟨front, part, rest, rfl, rfl⟩
    exact ⟨front, rest, List.append_assoc ..⟩
  · rintro ⟨front, rest, rfl⟩
    exact ⟨front, text, rest, List.append_assoc .., rfl⟩

end SyscallNames.Pattern
