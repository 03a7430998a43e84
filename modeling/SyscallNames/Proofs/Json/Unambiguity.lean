import SyscallNames.Proofs.Json.Skipping

set_option autoImplicit false

namespace SyscallNames.Json

variable {text start behind rest : Text} {container : Container} {key : Option Text} {v : Value}

def Body (container : Container) (inside : Text) (entries : List (Option Text × Value))
    (rest : Text) : Prop :=
  (entries = [] ∧ Blanks inside (container.closing :: rest)) ∨
    Entries container inside entries rest

section Inversion

/-- The first character tells what a value is. -/
theorem Starts.inversion {c : Char} {tail : Text} (h : Starts (c :: tail) v rest) :
    (c = 'n' ∧ v = .null) ∨ (c = 't' ∧ v = .bool true) ∨ (c = 'f' ∧ v = .bool false) ∨
    ((c = '-' || c.isDigit) = true ∧
      ∃ n : Numeral, v = .number n ∧ n.WellFormed ∧ c :: tail = n.text ++ rest) ∨
    (c = '"' ∧ ∃ s, v = .string s ∧ Quoted tail s rest) ∨
    (c = '[' ∧ ∃ entries, v = .array (entries.map Prod.snd) ∧ Body .array tail entries rest) ∨
    (c = '{' ∧ ∃ entries, v = .object entries ∧ Body .object tail entries rest) := by
  generalize htext : c :: tail = text at h
  cases h with
  | null => exact .inl ⟨(List.cons.inj htext).1, rfl⟩
  | yes => exact .inr (.inl ⟨(List.cons.inj htext).1, rfl⟩)
  | no => exact .inr (.inr (.inl ⟨(List.cons.inj htext).1, rfl⟩))
  | @number n _ hn =>
    obtain ⟨d, ds, hds, hd⟩ := n.head_text
    have hc : c = d := by
      rw [hds] at htext
      exact (List.cons.inj htext).1
    exact .inr (.inr (.inr (.inl ⟨hc ▸ hd, n, rfl, hn, rfl⟩)))
  | string hs =>
    obtain ⟨rfl, rfl⟩ := List.cons.inj htext
    exact .inr (.inr (.inr (.inr (.inl ⟨rfl, _, rfl, hs⟩))))
  | @empty container _ _ hblanks =>
    obtain ⟨rfl, rfl⟩ := List.cons.inj htext
    cases container with
    | array => exact .inr (.inr (.inr (.inr (.inr (.inl ⟨rfl, [], rfl, .inl ⟨rfl, hblanks⟩⟩)))))
    | object => exact .inr (.inr (.inr (.inr (.inr (.inr ⟨rfl, [], rfl, .inl ⟨rfl, hblanks⟩⟩)))))
  | @entries container _ _ entries hentries =>
    obtain ⟨rfl, rfl⟩ := List.cons.inj htext
    cases container with
    | array => exact .inr (.inr (.inr (.inr (.inr (.inl ⟨rfl, entries, rfl, .inr hentries⟩)))))
    | object => exact .inr (.inr (.inr (.inr (.inr (.inr ⟨rfl, entries, rfl, .inr hentries⟩)))))

theorem Starts.exists_body {inside : Text} (h : Starts (container.opening :: inside) v rest) :
    ∃ entries, v = container.value entries ∧ Body container inside entries rest := by
  cases container with
  | array => simpa [Container.opening, Container.value] using h.inversion
  | object => simpa [Container.opening, Container.value] using h.inversion

theorem Starts.exists_string {inside : Text} (h : Starts ('"' :: inside) v rest) :
    ∃ s, v = .string s ∧ Quoted inside s rest := by
  simpa using h.inversion

theorem Starts.exists_number {c : Char} {tail : Text} (hc : (c = '-' || c.isDigit) = true)
    (h : Starts (c :: tail) v rest) :
    ∃ n : Numeral, v = .number n ∧ n.WellFormed ∧ c :: tail = n.text ++ rest := by
  obtain ⟨rfl, -⟩ | ⟨rfl, -⟩ | ⟨rfl, -⟩ | ⟨-, hn⟩ | ⟨rfl, -⟩ | ⟨rfl, -⟩ | ⟨rfl, -⟩ := h.inversion
  case inr.inr.inr.inl => exact hn
  all_goals exact absurd hc (by decide)

theorem Starts.string_inversion {s : Option Text} (h : Starts start (.string s) rest) :
    ∃ inside, start = '"' :: inside ∧ Quoted inside s rest := by
  obtain ⟨c, inside, rfl, -⟩ := h.head
  obtain ⟨rfl, hs⟩ : c = '"' ∧ Quoted inside s rest := by simpa using h.inversion
  exact ⟨inside, rfl, hs⟩

theorem Starts.array_inversion {items : List Value} (h : Starts start (.array items) rest) :
    ∃ inside entries, start = '[' :: inside ∧ items = entries.map Prod.snd ∧
      Body .array inside entries rest := by
  obtain ⟨c, inside, rfl, -⟩ := h.head
  obtain ⟨rfl, entries, hitems, hbody⟩ : c = '[' ∧ ∃ entries : List (Option Text × Value),
      items = entries.map Prod.snd ∧ Body .array inside entries rest := by simpa using h.inversion
  exact ⟨inside, entries, rfl, hitems, hbody⟩

theorem Starts.object_inversion {members : List (Option Text × Value)}
    (h : Starts start (.object members) rest) :
    ∃ inside, start = '{' :: inside ∧ Body .object inside members rest := by
  obtain ⟨c, inside, rfl, -⟩ := h.head
  obtain ⟨rfl, hbody⟩ : c = '{' ∧ Body .object inside members rest := by simpa using h.inversion
  exact ⟨inside, rfl, hbody⟩

end Inversion

section Numerals

variable {n m : Numeral}

theorem delimited_nil : Delimited [] := by simp [Delimited]

theorem Numeral.head?_exponentText_self (h : n.WellFormed) :
    ∀ c ∈ n.exponentText.head?, c.isDigit = false ∧ c ≠ '.' := by
  have hhead := head?_exponentText h delimited_nil
  rwa [List.append_nil] at hhead

theorem Numeral.head?_behind_integer (h : n.WellFormed) :
    ∀ c ∈ (n.fractionText ++ n.exponentText).head?, c.isDigit = false := by
  intro c hc
  cases hf : n.fraction with
  | none =>
    rw [fractionText, hf] at hc
    exact (head?_exponentText_self h c hc).1
  | some ds =>
    rw [fractionText, hf] at hc
    cases hc
    decide

theorem Digits.ne_sign {c : Char} {ds tail : Text} (h : Digits ds) (hc : c = '+' ∨ c = '-') :
    ds ≠ c :: tail := by
  rintro rfl
  have hdigit := h.2 c List.mem_cons_self
  obtain rfl | rfl := hc <;> exact absurd hdigit (by decide)

theorem Exponent.eq_of_text_eq {e f : Exponent} (he : e.WellFormed) (hf : f.WellFormed)
    (h : e.text = f.text) : e = f := by
  obtain ⟨mark, sign, ds⟩ := e
  obtain ⟨mark', sign', ds'⟩ := f
  obtain ⟨rfl, htail⟩ := List.cons.inj h
  cases sign with
  | none =>
    cases sign' with
    | none => rw [show ds = ds' from htail]
    | some c' => exact absurd htail (he.digits.ne_sign (hf.sign c' rfl))
  | some c =>
    cases sign' with
    | none => exact absurd htail.symm (hf.digits.ne_sign (he.sign c rfl))
    | some c' =>
      obtain ⟨rfl, rfl⟩ := List.cons.inj htail
      rfl

theorem Digits.append_inj {ds ds' rest' : Text} (hds : Digits ds) (hds' : Digits ds')
    (hrest : ∀ c ∈ rest.head?, c.isDigit = false) (hrest' : ∀ c ∈ rest'.head?, c.isDigit = false)
    (h : ds ++ rest = ds' ++ rest') : ds = ds' ∧ rest = rest' := by
  have hread := hds.readDigits_eq hrest
  rw [h, hds'.readDigits_eq hrest'] at hread
  simp only [Except.ok.injEq, Prod.mk.injEq] at hread
  exact ⟨hread.1.symm, hread.2.symm⟩

theorem Numeral.fraction_exponent_eq (hn : n.WellFormed) (hm : m.WellFormed)
    (h : n.fractionText ++ n.exponentText = m.fractionText ++ m.exponentText) :
    n.fraction = m.fraction ∧ n.exponentText = m.exponentText := by
  -- An exponent does not start with the point of a fraction.
  have hpoint : ∀ {n : Numeral} {ds tail : Text}, n.WellFormed →
      n.exponentText ≠ '.' :: (ds ++ tail) :=
    fun hn heq => (head?_exponentText_self hn '.' (by rw [heq]; rfl)).2 rfl
  cases hf : n.fraction with
  | none =>
    cases hf' : m.fraction with
    | none =>
      rw [fractionText, fractionText, hf, hf'] at h
      exact ⟨rfl, h⟩
    | some ds' =>
      rw [fractionText, fractionText, hf, hf'] at h
      exact absurd h (hpoint hn)
  | some ds =>
    cases hf' : m.fraction with
    | none =>
      rw [fractionText, fractionText, hf, hf'] at h
      exact absurd h.symm (hpoint hm)
    | some ds' =>
      rw [fractionText, fractionText, hf, hf'] at h
      obtain ⟨rfl, hexponent⟩ := Digits.append_inj (hn.fraction ds hf) (hm.fraction ds' hf')
        (fun c hc => (head?_exponentText_self hn c hc).1)
        (fun c hc => (head?_exponentText_self hm c hc).1) (List.cons.inj h).2
      exact ⟨rfl, hexponent⟩

theorem Numeral.exponent_eq (hn : n.WellFormed) (hm : m.WellFormed)
    (h : n.exponentText = m.exponentText) : n.exponent = m.exponent := by
  cases he : n.exponent with
  | none =>
    cases he' : m.exponent with
    | none => rfl
    | some f =>
      rw [exponentText, exponentText, he, he'] at h
      cases h
  | some e =>
    cases he' : m.exponent with
    | none =>
      rw [exponentText, exponentText, he, he'] at h
      cases h
    | some f =>
      rw [exponentText, exponentText, he, he'] at h
      exact congrArg some (Exponent.eq_of_text_eq (hn.exponent e he) (hm.exponent f he') h)

theorem digits_digits (n : Nat) : Digits (Decimal.digits n) :=
  ⟨Nat.toDigits_ne_nil, fun _ hc => Decimal.isDigit_of_mem_digits hc⟩

theorem Numeral.sign_eq (h : n.text = m.text) : n.negative = m.negative := by
  have hne : ∀ {n m : Numeral}, n.negative = true → m.negative = false → n.text ≠ m.text := by
    intro n m hn hm h
    obtain ⟨c, ds, hds, hc⟩ := isDigit_head?_digits m.integer
    rw [text, text, signText, signText, hn, hm, hds] at h
    obtain rfl := (List.cons.inj h).1
    exact absurd hc (by decide)
  cases hn : n.negative with
  | true =>
    cases hm : m.negative with
    | true => rfl
    | false => exact absurd h (hne hn hm)
  | false =>
    cases hm : m.negative with
    | true => exact absurd h.symm (hne hm hn)
    | false => rfl

theorem Numeral.eq_of_text_eq (hn : n.WellFormed) (hm : m.WellFormed) (h : n.text = m.text) :
    n = m := by
  have hsign := sign_eq h
  rw [text, text, signText, signText, hsign] at h
  obtain ⟨hdigits, hbehind⟩ := Digits.append_inj (digits_digits n.integer)
    (digits_digits m.integer) (head?_behind_integer hn) (head?_behind_integer hm)
    (List.append_cancel_left h)
  have hinteger := congrArg Decimal.value hdigits
  rw [Decimal.value_digits, Decimal.value_digits] at hinteger
  obtain ⟨hfraction, hexponent⟩ := fraction_exponent_eq hn hm hbehind
  have hexponent := exponent_eq hn hm hexponent
  cases n
  cases m
  simp only at hsign hinteger hfraction hexponent
  rw [hsign, hinteger, hfraction, hexponent]

end Numerals

section Uniqueness

theorem Blanks.unique {c d : Char} {rest' : Text} (h : Blanks text (c :: rest))
    (h' : Blanks text (d :: rest')) (hc : isBlank c = false) (hd : isBlank d = false) :
    c = d ∧ rest = rest' :=
  List.cons.inj ((h.skipBlank_eq hc).symm.trans (h'.skipBlank_eq hd))

theorem Entries.not_blanks_closing {entries : List (Option Text × Value)} {rest' : Text}
    (h : Entries container text entries rest) : ¬ Blanks text (container.closing :: rest') := by
  intro hclosing
  obtain ⟨c, tail, hskip, -, hne⟩ := h.head
  rw [hclosing.skipBlank_eq (isBlank_closing container)] at hskip
  exact hne (List.cons.inj hskip).1.symm

theorem Container.closing_ne_comma (container : Container) : container.closing ≠ ',' := by
  cases container <;> decide

theorem not_blanks_comma {rest' : Text} (h : Blanks behind (container.closing :: rest)) :
    ¬ Blanks behind (',' :: rest') := fun hcomma =>
  container.closing_ne_comma (h.unique hcomma (isBlank_closing container) (by decide)).1

theorem Container.Front.unique {start' : Text} {key' : Option Text} {v' : Value}
    {behind' : Text} (hfront : container.Front text key start)
    (hfront' : container.Front text key' start') (hstart : Starts start v behind)
    (hstart' : Starts start' v' behind') : key = key' ∧ start = start' := by
  cases hfront with
  | array hblanks =>
    cases hfront' with
    | array hblanks' =>
      exact ⟨rfl, (hstart.skipBlank_eq hblanks).symm.trans (hstart'.skipBlank_eq hblanks')⟩
  | object hquote hkey hcolon hblanks =>
    cases hfront' with
    | object hquote' hkey' hcolon' hblanks' =>
      obtain ⟨-, rfl⟩ := hquote.unique hquote' (by decide) (by decide)
      obtain ⟨rfl, rfl⟩ := hkey.unique hkey'
      obtain ⟨-, rfl⟩ := hcolon.unique hcolon' (by decide) (by decide)
      exact ⟨rfl, (hstart.skipBlank_eq hblanks).symm.trans (hstart'.skipBlank_eq hblanks')⟩

theorem Starts.rest_eq {v' : Value} {rest' : Text} (h : Starts text v rest)
    (h' : Starts text v' rest') (hrest : Delimited rest) (hrest' : Delimited rest') :
    rest = rest' :=
  Except.ok.inj ((skipValue_of_starts (.refl text) h hrest).symm.trans
    (skipValue_of_starts (.refl text) h' hrest'))

mutual

theorem Starts.unique {text rest : Text} {v v' : Value} :
    Starts text v rest → Starts text v' rest → v = v'
  | .null, h' => by
    obtain ⟨-, rfl⟩ | ⟨hc, -⟩ | ⟨hc, -⟩ | ⟨hc, -⟩ | ⟨hc, -⟩ | ⟨hc, -⟩ | ⟨hc, -⟩ := h'.inversion
    · rfl
    all_goals exact absurd hc (by decide)
  | .yes, h' => by
    obtain ⟨hc, -⟩ | ⟨-, rfl⟩ | ⟨hc, -⟩ | ⟨hc, -⟩ | ⟨hc, -⟩ | ⟨hc, -⟩ | ⟨hc, -⟩ := h'.inversion
    case inr.inl => rfl
    all_goals exact absurd hc (by decide)
  | .no, h' => by
    obtain ⟨hc, -⟩ | ⟨hc, -⟩ | ⟨-, rfl⟩ | ⟨hc, -⟩ | ⟨hc, -⟩ | ⟨hc, -⟩ | ⟨hc, -⟩ := h'.inversion
    case inr.inr.inl => rfl
    all_goals exact absurd hc (by decide)
  | .number (n := n) hn, h' => by
    obtain ⟨c, tail, htext, hc⟩ := n.head_text
    rw [htext] at h'
    obtain ⟨m, rfl, hm, heq⟩ := h'.exists_number hc
    have hsame : n.text = m.text := htext.trans (List.append_cancel_right heq)
    rw [Numeral.eq_of_text_eq hn hm hsame]
  | .string hs, h' => by
    obtain ⟨s', rfl, hs'⟩ := h'.exists_string
    rw [(hs.unique hs').1]
  | .empty hclosing, h' => by
    obtain ⟨entries, rfl, ⟨rfl, -⟩ | hentries⟩ := h'.exists_body
    · rfl
    · exact absurd hclosing hentries.not_blanks_closing
  | .entries hentries, h' => by
    obtain ⟨entries', rfl, ⟨rfl, hclosing⟩ | hentries'⟩ := h'.exists_body
    · exact absurd hclosing hentries.not_blanks_closing
    · rw [hentries.unique hentries']

theorem Entries.unique {container : Container} {text rest : Text}
    {entries entries' : List (Option Text × Value)} :
    Entries container text entries rest → Entries container text entries' rest →
      entries = entries'
  | .last hfront hstart hclosing, .last hfront' hstart' hclosing' => by
    obtain ⟨rfl, rfl⟩ := hfront.unique hfront' hstart hstart'
    obtain rfl := hstart.rest_eq hstart' (delimited_of_closing hclosing)
      (delimited_of_closing hclosing')
    rw [hstart.unique hstart']
  | .more hfront hstart hcomma hentries, .more hfront' hstart' hcomma' hentries' => by
    obtain ⟨rfl, rfl⟩ := hfront.unique hfront' hstart hstart'
    obtain rfl := hstart.rest_eq hstart' (delimited_of_comma hcomma) (delimited_of_comma hcomma')
    obtain ⟨-, rfl⟩ := hcomma.unique hcomma' (by decide) (by decide)
    rw [hstart.unique hstart', hentries.unique hentries']
  | .last hfront hstart hclosing, .more hfront' hstart' hcomma' hentries' => by
    obtain ⟨rfl, rfl⟩ := hfront.unique hfront' hstart hstart'
    obtain rfl := hstart.rest_eq hstart' (delimited_of_closing hclosing)
      (delimited_of_comma hcomma')
    exact absurd hcomma' (not_blanks_comma hclosing)
  | .more hfront hstart hcomma hentries, .last hfront' hstart' hclosing' => by
    obtain ⟨rfl, rfl⟩ := hfront.unique hfront' hstart hstart'
    obtain rfl := hstart.rest_eq hstart' (delimited_of_comma hcomma)
      (delimited_of_closing hclosing')
    exact absurd hcomma (not_blanks_comma hclosing')

end

/-- A text is at most one value. -/
theorem Document.unique {v' : Value} (h : Document text v) (h' : Document text v') : v = v' := by
  obtain ⟨start, rest, hblanks, hstart, hrest⟩ := h
  obtain ⟨start', rest', hblanks', hstart', hrest'⟩ := h'
  obtain rfl : start = start' :=
    (hstart.skipBlank_eq hblanks).symm.trans (hstart'.skipBlank_eq hblanks')
  obtain rfl := hstart.rest_eq hstart' (.of_blanks hrest delimited_nil)
    (.of_blanks hrest' delimited_nil)
  exact hstart.unique hstart'

end Uniqueness

end SyscallNames.Json
