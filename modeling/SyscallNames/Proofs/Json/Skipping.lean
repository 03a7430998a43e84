import SyscallNames.Proofs.Json.Numeral
import SyscallNames.Proofs.Json.Spelling

set_option autoImplicit false

namespace SyscallNames.Json

variable {text start behind rest : Text} {container : Container} {outer : List Container}
  {key : Option Text} {v : Value} {entries : List (Option Text × Value)}

section Starts

theorem Numeral.head_text (n : Numeral) :
    ∃ c tail, n.text = c :: tail ∧ (c = '-' || c.isDigit) = true := by
  obtain ⟨c, ds, hds, hc⟩ := isDigit_head?_digits n.integer
  rw [text, signText]
  cases n.negative with
  | true => exact ⟨'-', _, rfl, rfl⟩
  | false =>
    refine ⟨c, ds ++ (n.fractionText ++ n.exponentText), ?_, by simp [hc]⟩
    rw [hds]
    rfl

theorem isBlank_of_number {c : Char} (h : (c = '-' || c.isDigit) = true) : isBlank c = false := by
  rw [Bool.or_eq_true, decide_eq_true_eq] at h
  obtain rfl | h := h
  · decide
  · exact isBlank_of_isDigit h

theorem Starts.head (h : Starts text v rest) :
    ∃ c tail, text = c :: tail ∧ isBlank c = false ∧ c ≠ ']' := by
  cases h with
  | null => exact ⟨'n', _, rfl, by decide, by decide⟩
  | yes => exact ⟨'t', _, rfl, by decide, by decide⟩
  | no => exact ⟨'f', _, rfl, by decide, by decide⟩
  | @number n =>
    obtain ⟨c, tail, htext, hc⟩ := n.head_text
    refine ⟨c, tail ++ rest, by rw [htext]; rfl, isBlank_of_number hc, ?_⟩
    rintro rfl
    exact absurd hc (by decide)
  | string => exact ⟨'"', _, rfl, by decide, by decide⟩
  | @empty container => exact ⟨_, _, rfl, isBlank_opening container, by cases container <;> decide⟩
  | @entries container =>
    exact ⟨_, _, rfl, isBlank_opening container, by cases container <;> decide⟩

theorem Starts.skipBlank_eq (h : Starts start v rest) (hblanks : Blanks text start) :
    skipBlank text = start := by
  obtain ⟨c, tail, rfl, hc, -⟩ := h.head
  exact hblanks.skipBlank_eq hc

theorem Starts.blanks_of_skipBlank_eq {text' : Text} (h : Starts start v rest)
    (hblanks : Blanks text start) (hskip : skipBlank text' = skipBlank text) :
    Blanks text' start :=
  .of_skipBlank_eq (hskip.trans (h.skipBlank_eq hblanks))

theorem Blanks.length_le (h : Blanks text rest) : rest.length ≤ text.length := by
  obtain ⟨blank, -, rfl⟩ := h
  rw [List.length_append]
  exact Nat.le_add_left _ _

theorem Inside.length_lt (h : Inside text rest) : rest.length < text.length := by
  induction h with
  | quote => simp
  | plain _ _ _ _ ih => exact Nat.lt_succ_of_lt ih
  | letter _ _ ih => exact Nat.lt_succ_of_lt (Nat.lt_succ_of_lt ih)
  | unit _ _ ih =>
    simp only [List.length_cons, List.length_append]
    omega

theorem Container.Front.length_le (h : container.Front text key start) :
    start.length ≤ text.length := by
  cases h with
  | array hblanks => exact hblanks.length_le
  | object hquote hkey hcolon hblanks =>
    have hinside := hkey.inside.length_lt
    have hquote := hquote.length_le
    have hcolon := hcolon.length_le
    have hblanks := hblanks.length_le
    simp only [List.length_cons] at hquote hcolon
    omega

theorem Container.Front.enter_eq {text' : Text} (h : container.Front text key start)
    (hstart : Starts start v rest) (hskip : skipBlank text' = skipBlank text) :
    ∃ before, container.enter text' = .ok before ∧ Blanks before start := by
  cases h with
  | array hblanks => exact ⟨text', rfl, hstart.blanks_of_skipBlank_eq hblanks hskip⟩
  | object hquote hkey hcolon hblanks =>
    have hopen : Blanks text' ('"' :: _) :=
      .of_skipBlank_eq (hskip.trans (hquote.skipBlank_eq (by decide)))
    refine ⟨_, ?_, hblanks⟩
    simp only [enter, hopen.expect_eq (by decide), hkey.inside.skipString_eq,
      hcolon.expect_eq (by decide), bind, Except.bind]

theorem exists_front_of_enter {before : Text} (h : container.enter text = .ok before) :
    ∃ key, ∀ start, Blanks before start → container.Front text key start := by
  cases container with
  | array =>
    obtain rfl : text = before := Except.ok.inj h
    exact ⟨none, fun start hblanks => .array hblanks⟩
  | object =>
    simp only [Container.enter, bind_eq_ok] at h
    obtain ⟨inside, hquote, behind, hinside, hcolon⟩ := h
    obtain ⟨key, hkey⟩ := exists_quoted_of_inside (skipString_eq_ok_iff.mp hinside)
    exact ⟨key, fun start hblanks =>
      .object (blanks_of_expect hquote) hkey (blanks_of_expect hcolon) hblanks⟩

theorem Entries.head (h : Entries container text entries rest) :
    ∃ c tail, skipBlank text = c :: tail ∧ isBlank c = false ∧ c ≠ container.closing := by
  have hfront : ∀ {key start v behind}, container.Front text key start → Starts start v behind →
      ∃ c tail, skipBlank text = c :: tail ∧ isBlank c = false ∧ c ≠ container.closing := by
    intro key start v behind hfront hstart
    cases hfront with
    | array hblanks =>
      obtain ⟨c, tail, rfl, hc, hne⟩ := hstart.head
      exact ⟨c, tail, hblanks.skipBlank_eq hc, hc, hne⟩
    | object hquote => exact ⟨'"', _, hquote.skipBlank_eq (by decide), by decide, by decide⟩
  cases h with
  | last hfr hstart => exact hfront hfr hstart
  | more hfr hstart => exact hfront hfr hstart

end Starts

section Steps

def resume (counter : Text) : Except Fault (List Container × Text) → Except Fault Text
  | .error e => .error e
  | .ok ([], rest) => .ok rest
  | .ok (container :: outer, rest) => skipSteps counter (container :: outer) rest

theorem skipSteps_cons (c : Char) (counter : Text) (outer : List Container) (text : Text) :
    skipSteps (c :: counter) outer text = resume counter (skipStep outer text) := by
  rw [skipSteps]
  cases skipStep outer text with
  | error e => rfl
  | ok p =>
    obtain ⟨containers, rest⟩ := p
    cases containers <;> rfl

theorem resume_eq_ok {counter : Text} {x : Except Fault (List Container × Text)}
    (h : resume counter x = .ok rest) :
    x = .ok ([], rest) ∨ ∃ container outer behind, x = .ok (container :: outer, behind) ∧
      skipSteps counter (container :: outer) behind = .ok rest := by
  match x, h with
  | .ok ([], behind), h =>
    cases h
    exact .inl rfl
  | .ok (container :: outer, behind), h => exact .inr ⟨container, outer, behind, rfl, h⟩

theorem skipStep_opening (hskip : skipBlank text = container.opening :: rest) :
    skipStep outer text = opened container outer rest := by
  cases container with
  | array =>
    change skipBlank text = '[' :: rest at hskip
    rw [skipStep, hskip]
    rfl
  | object =>
    change skipBlank text = '{' :: rest at hskip
    rw [skipStep, hskip]
    rfl

theorem skipStep_scalar {c : Char} {tail : Text} (hskip : skipBlank text = c :: tail)
    (harray : c ≠ '[') (hobject : c ≠ '{') :
    skipStep outer text = skipScalar (c :: tail) >>= leave outer := by
  rw [skipStep, hskip]
  split
  · rename_i heq
    exact absurd (List.cons.inj heq).1 harray
  · rename_i heq
    exact absurd (List.cons.inj heq).1 hobject
  · rfl

theorem skipScalar_number {c : Char} {tail : Text} (h : (c = '-' || c.isDigit) = true) :
    skipScalar (c :: tail) = skipNumber (c :: tail) := by
  have hne : ∀ d, (d = '-' || d.isDigit) = false → c ≠ d := by
    rintro d hd rfl
    exact absurd h (by rw [hd]; decide)
  rw [skipScalar, if_neg (hne _ (by decide)), if_neg (hne _ (by decide)),
    if_neg (hne _ (by decide)), if_neg (hne _ (by decide)), if_pos h]

theorem leave_closing (h : Blanks behind (container.closing :: rest)) :
    leave (container :: outer) behind = leave outer rest := by
  rw [leave, h.skipBlank_eq (isBlank_closing container)]
  exact if_pos rfl

theorem leave_comma (h : Blanks behind (',' :: rest)) :
    leave (container :: outer) behind =
      (container.enter rest).map fun rest => (container :: outer, rest) := by
  have hne : ',' ≠ container.closing := by cases container <;> decide
  rw [leave, h.skipBlank_eq (by decide)]
  simp only [if_neg hne, if_pos]

theorem delimited_of_closing (h : Blanks behind (container.closing :: rest)) :
    Delimited behind :=
  .of_blanks h (by cases container <;> simp [Delimited, Container.closing, isExponentMark])

theorem delimited_of_comma (h : Blanks behind (',' :: rest)) : Delimited behind :=
  .of_blanks h (by simp [Delimited, isExponentMark])

end Steps

section Passing

/-- From in front of the value at the start of a text, some steps lead to behind the value, with the
same containers open; no more steps than the value has characters. -/
def Passes (start rest : Text) : Prop :=
  ∃ steps, steps + rest.length ≤ start.length ∧
    ∀ (counter : Text) (outer : List Container) (text : Text),
      Blanks text start → steps ≤ counter.length →
        skipSteps counter outer text = resume (counter.drop steps) (leave outer rest)

/-- The same for the entries of a container, to behind its closing bracket. -/
def PassesEntries (container : Container) (text rest : Text) : Prop :=
  ∃ steps, steps + rest.length < text.length ∧
    ∀ (counter : Text) (outer : List Container) (text' : Text),
      skipBlank text' = skipBlank text → steps ≤ counter.length →
        resume counter ((container.enter text').map fun rest => (container :: outer, rest)) =
          resume (counter.drop steps) (leave outer rest)

theorem Passes.of_step (hlength : rest.length < start.length)
    (h : ∀ outer text, Blanks text start → skipStep outer text = leave outer rest) :
    Passes start rest := by
  refine ⟨1, by omega, fun counter outer text hblanks hcounter => ?_⟩
  obtain ⟨c, counter, rfl⟩ := List.exists_cons_of_length_pos hcounter
  rw [skipSteps_cons, h outer text hblanks]
  rfl

theorem Passes.of_scalar {c : Char} {tail : Text} (hblank : isBlank c = false) (harray : c ≠ '[')
    (hobject : c ≠ '{') (hlength : rest.length ≤ tail.length)
    (h : skipScalar (c :: tail) = .ok rest) : Passes (c :: tail) rest := by
  refine .of_step (Nat.lt_succ_of_le hlength) fun outer text hblanks => ?_
  rw [skipStep_scalar (hblanks.skipBlank_eq hblank) harray hobject, h]
  rfl

theorem Passes.of_entries {inside : Text} (hentries : Entries container inside entries rest)
    (h : PassesEntries container inside rest) : Passes (container.opening :: inside) rest := by
  obtain ⟨steps, hlength, hpass⟩ := h
  refine ⟨steps + 1, by rw [List.length_cons]; omega, fun counter outer text hblanks hcounter => ?_⟩
  obtain ⟨c, counter, rfl⟩ := List.exists_cons_of_length_pos (Nat.zero_lt_of_lt hcounter)
  obtain ⟨d, tail, hskip, hblank, hne⟩ := hentries.head
  have hagain : skipBlank (d :: tail) = skipBlank inside := by
    rw [hskip, skipBlank_cons hblank]
  rw [skipSteps_cons, skipStep_opening (hblanks.skipBlank_eq (isBlank_opening container)), opened,
    hskip]
  simp only [if_neg hne]
  exact hpass counter outer (d :: tail) hagain (Nat.le_of_succ_le_succ hcounter)

theorem Passes.of_empty {inside : Text} (h : Blanks inside (container.closing :: rest)) :
    Passes (container.opening :: inside) rest := by
  have hlength : rest.length < inside.length := h.length_le
  refine .of_step (Nat.lt_succ_of_lt hlength) fun outer text hblanks => ?_
  rw [skipStep_opening (hblanks.skipBlank_eq (isBlank_opening container)), opened,
    h.skipBlank_eq (isBlank_closing container)]
  exact if_pos rfl

theorem Passes.of_word {word : Text} {c : Char} {letters : Text} (hword : word = c :: letters)
    (hblank : isBlank c = false) (harray : c ≠ '[') (hobject : c ≠ '{')
    (h : skipScalar (c :: (letters ++ rest)) = .ok rest) : Passes (word ++ rest) rest := by
  subst hword
  exact .of_scalar hblank harray hobject (by simp) h

theorem Passes.of_number {n : Numeral} (h : n.WellFormed) (hrest : Delimited rest) :
    Passes (n.text ++ rest) rest := by
  obtain ⟨c, tail, htext, hc⟩ := n.head_text
  have hne : ∀ d, (d = '-' || d.isDigit) = false → c ≠ d := by
    rintro d hd rfl
    rw [hd] at hc
    cases hc
  have hskip := h.skipNumber_eq hrest
  refine .of_word htext (isBlank_of_number hc) (hne _ (by decide)) (hne _ (by decide)) ?_
  rw [skipScalar_number hc]
  rwa [htext] at hskip

theorem Passes.of_string {inside : Text} (h : Inside inside rest) :
    Passes ('"' :: inside) rest := by
  refine .of_scalar (by decide) (by decide) (by decide) (Nat.le_of_lt h.length_lt) ?_
  rw [skipScalar, if_pos rfl, h.skipString_eq]

theorem Passes.entry (hfront : container.Front text key start) (hstart : Starts start v behind)
    (h : Passes start behind) :
    ∃ steps, steps + behind.length ≤ text.length ∧
      ∀ (counter : Text) (outer : List Container) (text' : Text),
        skipBlank text' = skipBlank text → steps ≤ counter.length →
          resume counter ((container.enter text').map fun rest => (container :: outer, rest)) =
            resume (counter.drop steps) (leave (container :: outer) behind) := by
  obtain ⟨steps, hlength, hpass⟩ := h
  refine ⟨steps, Nat.le_trans hlength hfront.length_le, ?_⟩
  intro counter outer text' hskip hcounter
  obtain ⟨before, henter, hblanks⟩ := hfront.enter_eq hstart hskip
  rw [henter]
  exact hpass counter (container :: outer) before hblanks hcounter

mutual

theorem Starts.passes {text rest : Text} {v : Value} :
    Starts text v rest → Delimited rest → Passes text rest
  | .null, _ => .of_word rfl (by decide) (by decide) (by decide) rfl
  | .yes, _ => .of_word rfl (by decide) (by decide) (by decide) rfl
  | .no, _ => .of_word rfl (by decide) (by decide) (by decide) rfl
  | .number h, hrest => .of_number h hrest
  | .string h, _ => .of_string h.inside
  | .empty h, _ => .of_empty h
  | .entries h, _ => .of_entries h h.passes

theorem Entries.passes {container : Container} {text rest : Text}
    {entries : List (Option Text × Value)} :
    Entries container text entries rest → PassesEntries container text rest
  | .last hfront hstart hclosing => by
    have hvalue := hstart.passes (delimited_of_closing hclosing)
    obtain ⟨steps, hlength, hpass⟩ := Passes.entry hfront hstart hvalue
    have hbehind : rest.length < _ := hclosing.length_le
    refine ⟨steps, by omega, fun counter outer text' hskip hcounter => ?_⟩
    rw [hpass counter outer text' hskip hcounter, leave_closing hclosing]
  | .more hfront hstart hcomma hentries => by
    have hvalue := hstart.passes (delimited_of_comma hcomma)
    obtain ⟨steps, hlength, hpass⟩ := Passes.entry hfront hstart hvalue
    obtain ⟨others, hothers, hpassOthers⟩ := hentries.passes
    have hbehind := hcomma.length_le
    rw [List.length_cons] at hbehind
    refine ⟨steps + others, by omega, fun counter outer text' hskip hcounter => ?_⟩
    rw [hpass counter outer text' hskip (by omega), leave_comma hcomma,
      hpassOthers _ outer _ rfl (by rw [List.length_drop]; omega), List.drop_drop]

end

/-- A value is passed over to behind its last character, whatever it nests. -/
theorem skipValue_of_starts (hblanks : Blanks text start) (h : Starts start v rest)
    (hrest : Delimited rest) : skipValue text = .ok rest := by
  obtain ⟨steps, hlength, hpass⟩ := h.passes hrest
  have hstart := hblanks.length_le
  rw [skipValue, hpass text [] text hblanks (by omega)]
  rfl

end Passing

section Continuing

def Follows (container : Container) (behind rest : Text) : Prop :=
  Blanks behind (container.closing :: rest) ∨
    ∃ next entries, Blanks behind (',' :: next) ∧ Entries container next entries rest

/-- What the open containers, innermost first, still want behind a value. -/
def Closes : List Container → Text → Text → Prop
  | [], behind, rest => behind = rest
  | container :: outer, behind, rest =>
    ∃ next, Follows container behind next ∧ Closes outer next rest

def Continues (outer : List Container) (text rest : Text) : Prop :=
  ∃ start v behind, Blanks text start ∧ Starts start v behind ∧ Closes outer behind rest

def Ends : List Container → Text → Text → Prop
  | [], text, rest => text = rest
  | container :: outer, text, rest => Continues (container :: outer) text rest

theorem Blanks.trans {next : Text} (h : Blanks text next) (h' : Blanks next rest) :
    Blanks text rest := by
  obtain ⟨blank, hblank, rfl⟩ := h
  obtain ⟨more, hmore, rfl⟩ := h'
  exact ⟨blank ++ more, List.forall_mem_append.mpr ⟨hblank, hmore⟩, (List.append_assoc ..).symm⟩

theorem Container.Front.of_blanks {next : Text} (h : Blanks text next)
    (hfront : container.Front next key start) : container.Front text key start := by
  cases hfront with
  | array hblanks => exact .array (h.trans hblanks)
  | object hquote hkey hcolon hblanks => exact .object (h.trans hquote) hkey hcolon hblanks

theorem exists_entries_of_follows (hfront : container.Front text key start)
    (hstart : Starts start v behind) (h : Follows container behind rest) :
    ∃ entries, Entries container text entries rest := by
  obtain hclosing | ⟨next, entries, hcomma, hentries⟩ := h
  · exact ⟨_, .last hfront hstart hclosing⟩
  · exact ⟨_, .more hfront hstart hcomma hentries⟩

theorem closes_of_leave {outer' : List Container} {text : Text}
    (h : leave outer behind = .ok (outer', text)) (hends : Ends outer' text rest) :
    Closes outer behind rest := by
  fun_induction leave outer behind with
  | case1 =>
    cases h
    exact hends
  | case2 => cases h
  | case3 behind container outer tail hskip ih =>
    exact ⟨tail, .inl (.of_skipBlank_eq hskip), ih h⟩
  | case4 behind container outer tail hskip =>
    obtain ⟨before, henter, heq⟩ := map_eq_ok.mp h
    cases heq
    obtain ⟨start, v, behind', hblanks, hstart, next, hfollows, hcloses⟩ := hends
    obtain ⟨key, hfront⟩ := exists_front_of_enter henter
    obtain ⟨entries, hentries⟩ := exists_entries_of_follows (hfront start hblanks) hstart hfollows
    exact ⟨next, .inr ⟨tail, entries, .of_skipBlank_eq hskip, hentries⟩, hcloses⟩
  | case5 => cases h

theorem exists_of_opened {outer' : List Container} {text' : Text}
    (h : opened container outer text = .ok (outer', text')) (hends : Ends outer' text' rest) :
    ∃ v behind, Starts (container.opening :: text) v behind ∧ Closes outer behind rest := by
  rw [opened] at h
  split at h
  · cases h
  · rename_i c tail hskip
    split at h
    · rename_i hc
      rw [hc] at hskip
      exact ⟨_, tail, .empty (.of_skipBlank_eq hskip), closes_of_leave h hends⟩
    · obtain ⟨before, henter, heq⟩ := map_eq_ok.mp h
      cases heq
      obtain ⟨start, v, behind, hblanks, hstart, next, hfollows, hcloses⟩ := hends
      obtain ⟨key, hfront⟩ := exists_front_of_enter henter
      have hfront := (hfront start hblanks).of_blanks (.of_skipBlank_eq hskip)
      obtain ⟨entries, hentries⟩ := exists_entries_of_follows hfront hstart hfollows
      exact ⟨_, next, .entries hentries, hcloses⟩

theorem eq_append_of_readLiteral {word : Text} (h : readLiteral word text = .ok rest) :
    text = word ++ rest := by
  fun_induction readLiteral word text with
  | case1 =>
    cases h
    rfl
  | case2 => cases h
  | case3 word d tail ih => rw [ih h, List.cons_append]
  | case4 => cases h

theorem exists_of_skipScalar (h : skipScalar text = .ok rest) : ∃ v, Starts text v rest := by
  unfold skipScalar at h
  split at h
  · cases h
  · rename_i c tail
    split at h
    · rename_i hc
      obtain ⟨s, hs⟩ := exists_quoted_of_inside (skipString_eq_ok_iff.mp h)
      exact ⟨.string s, hc ▸ .string hs⟩
    split at h
    · rename_i hc
      rw [hc, eq_append_of_readLiteral h]
      exact ⟨.null, .null⟩
    split at h
    · rename_i hc
      rw [hc, eq_append_of_readLiteral h]
      exact ⟨.bool true, .yes⟩
    split at h
    · rename_i hc
      rw [hc, eq_append_of_readLiteral h]
      exact ⟨.bool false, .no⟩
    split at h
    · obtain ⟨n, hn, htext⟩ := exists_of_skipNumber h
      exact ⟨.number n, htext ▸ .number hn⟩
    · cases h

theorem continues_of_skipStep {outer' : List Container} {text' : Text}
    (h : skipStep outer text = .ok (outer', text')) (hends : Ends outer' text' rest) :
    Continues outer text rest := by
  rw [skipStep] at h
  split at h
  · rename_i tail hskip
    obtain ⟨v, behind, hstart, hcloses⟩ := exists_of_opened h hends
    exact ⟨_, v, behind, .of_skipBlank_eq hskip, hstart, hcloses⟩
  · rename_i tail hskip
    obtain ⟨v, behind, hstart, hcloses⟩ := exists_of_opened h hends
    exact ⟨_, v, behind, .of_skipBlank_eq hskip, hstart, hcloses⟩
  · obtain ⟨behind, hscalar, hleave⟩ := bind_eq_ok.mp h
    obtain ⟨v, hstart⟩ := exists_of_skipScalar hscalar
    exact ⟨_, v, behind, blanks_skipBlank text, hstart, closes_of_leave hleave hends⟩

theorem continues_of_skipSteps {counter : Text} (h : skipSteps counter outer text = .ok rest) :
    Continues outer text rest := by
  induction counter generalizing outer text with
  | nil => cases h
  | cons c counter ih =>
    rw [skipSteps_cons] at h
    obtain hstep | ⟨container, outer', behind, hstep, hsteps⟩ := resume_eq_ok h
    · exact continues_of_skipStep hstep rfl
    · exact continues_of_skipStep hstep (ih hsteps)

/-- Nothing but a value is passed over. -/
theorem exists_of_skipValue (h : skipValue text = .ok rest) :
    ∃ start v, Blanks text start ∧ Starts start v rest := by
  obtain ⟨start, v, behind, hblanks, hstart, rfl⟩ := continues_of_skipSteps h
  exact ⟨start, v, hblanks, hstart⟩

end Continuing

end SyscallNames.Json
