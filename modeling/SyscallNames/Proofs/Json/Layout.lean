import Mathlib.Algebra.GroupWithZero.Nat
import Mathlib.Data.List.Forall2
import SyscallNames.Proofs.Json.Value

set_option autoImplicit false

namespace SyscallNames.Json

inductive Place
  | outside
  | inside
  | escaped
deriving DecidableEq, Repr

def Place.next (c : Char) : Place → Place
  | outside => if c = '"' then inside else outside
  | inside => if c = '"' then outside else if c = '\\' then escaped else inside
  | escaped => inside

/-- What is left without the blanks and line breaks that stand outside of strings. -/
def squeeze : Place → Text → Text
  | _, [] => []
  | place, c :: rest =>
    if place = .outside ∧ (c = ' ' ∨ c = '\n') then squeeze place rest
    else c :: squeeze (place.next c) rest

def Printable (text : Text) : Prop := ∀ c ∈ text, 0x20 ≤ c.toNat

theorem Printable.append {s t : Text} (hs : Printable s) (ht : Printable t) : Printable (s ++ t) :=
  fun c hc => (List.mem_append.mp hc).elim (hs c) (ht c)

theorem Printable.count_newline {text : Text} (h : Printable text) : text.count '\n' = 0 :=
  List.count_eq_zero.mpr fun hc => absurd (h _ hc) (by decide)

/-- The two layouts of one thing: without its blanks the indented one is the compact one, which has
no control characters, and the indented one has so many line breaks. -/
structure InStep (write : Layout → Text) (breaks : Nat) : Prop where
  squeeze_append : ∀ rest, squeeze .outside (write .indented ++ rest) =
    write .compact ++ squeeze .outside rest
  printable : Printable (write .compact)
  count_newline : (write .indented).count '\n' = breaks

variable {v w : Layout → Text} {m n : Nat}

theorem InStep.of_eq (h : InStep w m) (hw : ∀ layout, v layout = w layout) (hn : m = n) :
    InStep v n := by
  obtain rfl : v = w := funext hw
  rwa [← hn]

theorem InStep.append (hv : InStep v m) (hw : InStep w n) :
    InStep (fun layout => v layout ++ w layout) (m + n) where
  squeeze_append rest := by
    rw [List.append_assoc, hv.squeeze_append, hw.squeeze_append, List.append_assoc]
  printable := hv.printable.append hw.printable
  count_newline := by rw [List.count_append, hv.count_newline, hw.count_newline]

section Tokens

theorem inStep_token {text : Text} (h : ∀ c ∈ text, 0x20 < c.toNat ∧ c ≠ '"') :
    InStep (fun _ => text) 0 := by
  have hprintable : Printable text := fun c hc => Nat.le_of_lt (h c hc).1
  refine ⟨fun rest => ?_, hprintable, hprintable.count_newline⟩
  induction text with
  | nil => rfl
  | cons c text ih =>
    obtain ⟨⟨hblank, hquote⟩, htext⟩ := List.forall_mem_cons.mp h
    have hshown : ¬ (c = ' ' ∨ c = '\n') := by
      rintro (rfl | rfl) <;> exact absurd hblank (by decide)
    have hrest := ih htext fun d hd => hprintable d (List.mem_cons_of_mem _ hd)
    rw [List.cons_append, squeeze, if_neg fun hc => hshown hc.2, Place.next, if_neg hquote, hrest]
    rfl

theorem inStep_digits (n : Nat) : InStep (fun _ => Decimal.digits n) 0 := by
  apply inStep_token
  intro c hc
  have hdigit := Decimal.isDigit_of_mem_digits hc
  constructor
  · simp only [Char.isDigit, Bool.and_eq_true, decide_eq_true_eq] at hdigit
    have hlow : 48 ≤ c.toNat := hdigit.1
    omega
  · rintro rfl
    exact absurd hdigit (by decide)

@[simp]
theorem squeeze_replicate (n : Nat) (rest : Text) :
    squeeze .outside (List.replicate n ' ' ++ rest) = squeeze .outside rest := by
  induction n with
  | zero => rfl
  | succ n ih => rw [List.replicate_succ, List.cons_append, squeeze, if_pos (by simp), ih]

theorem inStep_newline (depth : Nat) : InStep (fun layout => layout.newline depth) 1 where
  squeeze_append rest := by
    change squeeze .outside ('\n' :: (List.replicate (2 * depth) ' ' ++ rest)) = _
    rw [squeeze, if_pos (by simp), squeeze_replicate]
    rfl
  printable := by simp [Printable, Layout.newline]
  count_newline := by simp [Layout.newline, List.count_replicate]

theorem inStep_colon : InStep Layout.colon 0 where
  squeeze_append rest := by simp [Layout.colon, squeeze, Place.next]
  printable := by simp [Printable, Layout.colon]
  count_newline := by decide

end Tokens

section Strings

theorem escape_eq (c : Char) :
    (∃ d tail, escape c = '\\' :: d :: tail ∧ 0x20 ≤ d.toNat ∧
      ∀ e ∈ tail, 0x20 ≤ e.toNat ∧ e ≠ '"' ∧ e ≠ '\\') ∨
    (escape c = [c] ∧ 0x20 ≤ c.toNat ∧ c ≠ '"' ∧ c ≠ '\\') := by
  by_cases hletter : c ∈ ['"', '\\', '\n', '\t', '\r', '\x08', '\x0C']
  · simp only [List.mem_cons, List.not_mem_nil, or_false] at hletter
    obtain rfl | rfl | rfl | rfl | rfl | rfl | rfl := hletter <;>
      exact .inl ⟨_, [], rfl, by decide, by simp⟩
  · simp only [List.mem_cons, List.not_mem_nil, or_false, not_or] at hletter
    obtain ⟨hquote, hbackslash, hn, ht, hr, hb, hf⟩ := hletter
    rw [escape, if_neg hquote, if_neg hbackslash, if_neg hn, if_neg ht, if_neg hr, if_neg hb,
      if_neg hf]
    by_cases hcontrol : c < ' '
    · have hdigits : ∀ n < 16, 0x20 ≤ (Nat.digitChar n).toNat ∧ Nat.digitChar n ≠ '"' ∧
          Nat.digitChar n ≠ '\\' := by decide
      have hlt : c.toNat < 32 := hcontrol
      rw [if_pos hcontrol]
      refine .inl ⟨'u', _, rfl, by decide, ?_⟩
      simp only [List.forall_mem_cons]
      exact ⟨by decide, by decide, hdigits _ (by omega), hdigits _ (by omega), by simp⟩
    · rw [if_neg hcontrol]
      exact .inr ⟨rfl, Nat.le_of_not_lt hcontrol, hquote, hbackslash⟩

theorem squeeze_inside {text : Text} (h : ∀ c ∈ text, c ≠ '"' ∧ c ≠ '\\') (rest : Text) :
    squeeze .inside (text ++ rest) = text ++ squeeze .inside rest := by
  induction text with
  | nil => rfl
  | cons c text ih =>
    obtain ⟨⟨hquote, hbackslash⟩, htext⟩ := List.forall_mem_cons.mp h
    rw [List.cons_append, squeeze, if_neg (by simp), Place.next, if_neg hquote, if_neg hbackslash,
      ih htext]
    rfl

@[simp]
theorem squeeze_inside_escape (c : Char) (rest : Text) :
    squeeze .inside (escape c ++ rest) = escape c ++ squeeze .inside rest := by
  obtain ⟨d, tail, hc, -, htail⟩ | ⟨hc, -, hplain⟩ := escape_eq c
  · have hrest := squeeze_inside (fun e he => (htail e he).2) rest
    rw [hc, List.cons_append, List.cons_append, squeeze, if_neg (by simp), squeeze,
      if_neg fun hplace => absurd hplace.1 (by decide)]
    exact congrArg ('\\' :: d :: ·) hrest
  · rw [hc]
    exact squeeze_inside (by simpa using hplain) rest

@[simp]
theorem squeeze_inside_flatMap_escape (text rest : Text) :
    squeeze .inside (text.flatMap escape ++ rest) =
      text.flatMap escape ++ squeeze .inside rest := by
  induction text with
  | nil => rfl
  | cons c text ih =>
    rw [List.flatMap_cons, List.append_assoc, squeeze_inside_escape, ih, List.append_assoc]

theorem printable_escape (c : Char) : Printable (escape c) := by
  obtain ⟨d, tail, hc, hd, htail⟩ | ⟨hc, hprintable, -⟩ := escape_eq c
  · rw [hc, Printable, List.forall_mem_cons, List.forall_mem_cons]
    exact ⟨by decide, hd, fun e he => (htail e he).1⟩
  · rw [hc, Printable, List.forall_mem_singleton]
    exact hprintable

theorem printable_quote (text : Text) : Printable (quote text) := by
  have hquote : 0x20 ≤ '"'.toNat := by decide
  rw [quote, Printable, List.forall_mem_cons]
  refine ⟨hquote, Printable.append ?_ (by simp [Printable])⟩
  intro d hd
  obtain ⟨c, -, hc⟩ := List.mem_flatMap.mp hd
  exact printable_escape c d hc

theorem inStep_quote (text : Text) : InStep (fun _ => quote text) 0 where
  squeeze_append rest := by
    have hopen : ∀ t, squeeze .outside ('"' :: t) = '"' :: squeeze .inside t := by
      intro t
      rw [squeeze, if_neg (by decide), Place.next, if_pos rfl]
    have hclose : squeeze .inside ('"' :: rest) = '"' :: squeeze .outside rest := by
      rw [squeeze, if_neg (by decide), Place.next, if_pos rfl]
    rw [quote, List.cons_append, List.append_assoc, hopen, squeeze_inside_flatMap_escape,
      List.singleton_append, hclose]
    simp
  printable := printable_quote text
  count_newline := (printable_quote text).count_newline

end Strings

section Brackets

variable {items : List (Layout → Text)} {breaks : List Nat}

theorem inStep_more (depth : Nat) (h : List.Forall₂ InStep items breaks) :
    InStep (fun layout => layout.more depth (items.map (· layout)))
      (breaks.sum + breaks.length) := by
  induction h with
  | nil => exact inStep_token (by simp)
  | @cons item n items breaks hitem _ ih =>
    have hcomma : InStep (fun _ => [',']) 0 :=
      inStep_token (List.forall_mem_singleton.mpr (by decide))
    refine (((hcomma.append (inStep_newline depth)).append hitem).append ih).of_eq ?_ ?_
    · intro layout
      simp [Layout.more]
    · simp only [List.sum_cons, List.length_cons]
      omega

/-- Each item, and the closing bracket, starts a line; brackets around nothing have none. -/
theorem inStep_bracket (depth : Nat) (opening closing : Char)
    (hopening : 0x20 < opening.toNat ∧ opening ≠ '"')
    (hclosing : 0x20 < closing.toNat ∧ closing ≠ '"') (h : List.Forall₂ InStep items breaks) :
    InStep (fun layout => layout.bracket depth opening closing (items.map (· layout)))
      (if items = [] then 0 else breaks.sum + breaks.length + 1) := by
  have hopen := inStep_token (List.forall_mem_singleton.mpr hopening)
  have hclose := inStep_token (List.forall_mem_singleton.mpr hclosing)
  cases h with
  | nil => exact (hopen.append hclose).of_eq (fun _ => rfl) rfl
  | @cons item n items breaks hitem hitems =>
    have hfirst := (inStep_newline (depth + 1)).append hitem
    have hlast := (inStep_newline depth).append hclose
    have hmore := inStep_more (depth + 1) hitems
    refine (hopen.append (hfirst.append (hmore.append hlast))).of_eq ?_ ?_
    · intro layout
      simp [Layout.bracket]
    · simp only [List.sum_cons, List.length_cons, reduceCtorEq, if_false]
      omega

theorem InStep.member (key : Text) (h : InStep w n) :
    InStep (fun layout => layout.member key (w layout)) n :=
  (((inStep_quote key).append inStep_colon).append h).of_eq (fun _ => rfl) (by omega)

end Brackets

end SyscallNames.Json
