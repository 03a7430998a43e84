import SyscallNames.Proofs.Json.Members
import SyscallNames.Proofs.Json.Unambiguity

set_option autoImplicit false

namespace SyscallNames.Json

variable {α β : Type} {text start behind rest : Text} {v : Value}

/-- A reader takes exactly the values that show something off the front of a text, with the blanks
in front of them, and gives what they show. -/
structure Reads (reader : Reader α) (shown : α → Value → Prop) : Prop where
  complete : ∀ {text start rest : Text} {v : Value} {a : α}, Blanks text start →
    Starts start v rest → Delimited rest → shown a v → reader text = .ok (a, rest)
  sound : ∀ {text rest : Text} {a : α}, reader text = .ok (a, rest) →
    ∃ start v, Blanks text start ∧ Starts start v rest ∧ shown a v

section Readers

variable {reader : Reader α} {shown : α → Value → Prop} {shown' : β → Value → Prop}

theorem Reads.map (h : Reads reader shown) (f : α → β)
    (hf : ∀ b v, shown' b v ↔ ∃ a, f a = b ∧ shown a v) :
    Reads (fun text => (reader text).map fun (a, rest) => (f a, rest)) shown' where
  complete hblanks hstart hrest hb := by
    obtain ⟨a, rfl, ha⟩ := (hf _ _).mp hb
    exact congrArg (Except.map _) (h.complete hblanks hstart hrest ha)
  sound hread := by
    obtain ⟨⟨a, rest'⟩, hreader, heq⟩ := map_eq_ok.mp hread
    obtain ⟨rfl, rfl⟩ := Prod.mk.inj heq
    obtain ⟨start, v, hblanks, hstart, ha⟩ := h.sound hreader
    exact ⟨start, v, hblanks, hstart, (hf _ _).mpr ⟨a, rfl, ha⟩⟩

/-- A whole text is read exactly when it is a value that shows something. -/
theorem Reads.readDocument_eq_ok_iff (h : Reads reader shown) {a : α} :
    readDocument reader text = .ok a ↔ ∃ v, Document text v ∧ shown a v := by
  constructor
  · intro hread
    rw [readDocument] at hread
    split at hread
    · cases hread
    · rename_i rest hreader
      split at hread
      · rename_i hrest
        cases hread
        obtain ⟨start, v, hblanks, hstart, ha⟩ := h.sound hreader
        exact ⟨v, ⟨start, rest, hblanks, hstart, Blanks.nil_iff.mpr hrest⟩, ha⟩
      · cases hread
  · rintro ⟨v, ⟨start, rest, hblanks, hstart, hrest⟩, ha⟩
    have hreader := h.complete hblanks hstart (.of_blanks hrest delimited_nil) ha
    rw [readDocument, hreader]
    exact if_pos (Blanks.nil_iff.mp hrest)

end Readers

section Scalars

theorem text_numeral (n : Nat) : Numeral.text { integer := n } = Decimal.digits n :=
  List.append_nil _

theorem starts_word (n : Nat) (rest : Text) : Starts (Decimal.digits n ++ rest) (.word n) rest := by
  have hn : Numeral.WellFormed { integer := n } := ⟨by simp, by simp⟩
  rw [← text_numeral]
  exact .number hn

theorem Starts.word_inversion {n : Nat} (h : Starts start (.word n) rest) :
    start = Decimal.digits n ++ rest := by
  obtain ⟨c, tail, rfl, -⟩ := h.head
  obtain ⟨-, -, htext⟩ : (c = '-' ∨ c.isDigit = true) ∧ Numeral.WellFormed { integer := n } ∧
      c :: tail = Numeral.text { integer := n } ++ rest := by
    simpa [Value.word] using h.inversion
  rwa [text_numeral] at htext

theorem reads_readText : Reads readText fun s v => v = .string (some s) where
  complete := by
    rintro text start rest v s hblanks hstart - rfl
    obtain ⟨inside, rfl, hs⟩ := hstart.string_inversion
    cases hs with
    | text hs =>
      rw [readText, hblanks.skipBlank_eq (by decide)]
      exact readString_eq_ok_iff.mpr hs
  sound := by
    intro text rest s hread
    rw [readText] at hread
    split at hread
    · rename_i inside hskip
      exact ⟨_, _, .of_skipBlank_eq hskip, .string (.text (readString_eq_ok_iff.mp hread)), rfl⟩
    · cases hread

theorem reads_readWord : Reads readWord fun n v => n < Decimal.wordLimit ∧ v = .word n where
  complete := by
    rintro text start rest v n ⟨blank, hblank, rfl⟩ hstart hrest ⟨hn, rfl⟩
    rw [hstart.word_inversion]
    exact presents_digits hn blank rest hblank hrest
  sound := by
    intro text rest n hread
    rw [readWord] at hread
    split at hread
    · cases hread
    · rename_i c tail hskip
      split at hread
      · split at hread
        · cases hread
        · rename_i hnumber
          cases hread
          obtain ⟨hn, heq⟩ := eq_digits_of_readNumber hnumber
          exact ⟨_, _, .of_skipBlank_eq hskip, heq ▸ starts_word n rest, hn, rfl⟩
        · cases hread
      · cases hread

end Scalars

section Lists

variable {container : Container} {key : Option Text} {entries : List (Option Text × Value)}

theorem Starts.length_le (h : Starts start v rest) (hrest : Delimited rest) :
    rest.length ≤ start.length := by
  obtain ⟨steps, hlength, -⟩ := h.passes hrest
  omega

theorem Entries.length_le (h : Entries container text entries rest) :
    entries.length ≤ text.length := by
  induction entries generalizing text with
  | nil => exact Nat.zero_le _
  | cons entry entries ih =>
    cases h with
    | last hfront hstart hclosing =>
      have hfront := hfront.length_le
      have hstart := hstart.length_le (delimited_of_closing hclosing)
      have hclosing := hclosing.length_le
      simp only [List.length_cons, List.length_nil] at hclosing ⊢
      omega
    | more hfront hstart hcomma hentries =>
      have hfront := hfront.length_le
      have hstart := hstart.length_le (delimited_of_comma hcomma)
      have hcomma := hcomma.length_le
      have hentries := ih hentries
      simp only [List.length_cons] at hcomma ⊢
      omega

theorem Container.Front.skipBlank (h : container.Front text key start)
    (hstart : Starts start v behind) : container.Front (skipBlank text) key start := by
  cases h with
  | array hblanks =>
    rw [hstart.skipBlank_eq hblanks]
    exact .array (.refl start)
  | object hquote hkey hcolon hblanks =>
    rw [hquote.skipBlank_eq (by decide)]
    exact .object (.refl _) hkey hcolon hblanks

theorem Entries.skipBlank (h : Entries container text entries rest) :
    Entries container (skipBlank text) entries rest := by
  cases h with
  | last hfront hstart hclosing => exact .last (hfront.skipBlank hstart) hstart hclosing
  | more hfront hstart hcomma hentries =>
    exact .more (hfront.skipBlank hstart) hstart hcomma hentries

theorem Entries.of_blanks {next : Text} (hblanks : Blanks text next)
    (h : Entries container next entries rest) : Entries container text entries rest := by
  cases h with
  | last hfront hstart hclosing => exact .last (hfront.of_blanks hblanks) hstart hclosing
  | more hfront hstart hcomma hentries =>
    exact .more (hfront.of_blanks hblanks) hstart hcomma hentries

variable {item : Reader α} {shown : α → Value → Prop} {done as : List α} {counter : Text}

theorem readItems_of_entries (h : Reads item shown) {text rest counter : Text}
    {entries : List (Option Text × Value)} {done as : List α} :
    Entries .array text entries rest → List.Forall₂ shown as (entries.map Prod.snd) →
      entries.length ≤ counter.length →
        readItems item counter done text = .ok (done.reverse ++ as, rest)
  | .last (.array hblanks) hstart hclosing, .cons ha .nil, hcounter => by
    obtain ⟨c, counter, rfl⟩ := List.exists_cons_of_length_pos hcounter
    have hread := h.complete hblanks hstart (delimited_of_closing hclosing) ha
    have hskip := hclosing.skipBlank_eq (isBlank_closing .array)
    simp only [Container.closing] at hskip
    simp only [readItems, hread, hskip, List.reverse_cons]
  | .more (.array hblanks) hstart hcomma hentries, .cons ha has, hcounter => by
    obtain ⟨c, counter, rfl⟩ := List.exists_cons_of_length_pos (Nat.zero_lt_of_lt hcounter)
    have hread := h.complete hblanks hstart (delimited_of_comma hcomma) ha
    have hskip := hcomma.skipBlank_eq (by decide)
    simp only [readItems, hread, hskip]
    rw [readItems_of_entries h hentries has (Nat.le_of_succ_le_succ hcounter), List.reverse_cons,
      List.append_assoc, List.singleton_append]

theorem exists_of_readItems (h : Reads item shown)
    (hread : readItems item counter done text = .ok (as, rest)) :
    ∃ entries bs, Entries .array text entries rest ∧
      List.Forall₂ shown bs (entries.map Prod.snd) ∧ as = done.reverse ++ bs := by
  induction counter generalizing done text with
  | nil => cases hread
  | cons c counter ih =>
    rw [readItems] at hread
    split at hread
    · cases hread
    · rename_i a behind hitem
      obtain ⟨start, v, hblanks, hstart, ha⟩ := h.sound hitem
      split at hread
      · cases hread
      · rename_i rest' hskip
        cases hread
        exact ⟨_, [a], .last (.array hblanks) hstart (.of_skipBlank_eq hskip), .cons ha .nil,
          List.reverse_cons⟩
      · rename_i next hskip
        obtain ⟨entries, bs, hentries, hbs, rfl⟩ := ih hread
        refine ⟨_, a :: bs, .more (.array hblanks) hstart (.of_skipBlank_eq hskip) hentries,
          .cons ha hbs, ?_⟩
        rw [List.reverse_cons, List.append_assoc, List.singleton_append]
      · cases hread

theorem reads_readList (h : Reads item shown) :
    Reads (readList item) fun as v => ∃ items, v = .array items ∧ List.Forall₂ shown as items where
  complete := by
    rintro text start rest v as hblanks hstart - ⟨items, rfl, has⟩
    obtain ⟨inside, entries, rfl, rfl, ⟨rfl, hclosing⟩ | hentries⟩ := hstart.array_inversion
    · cases has
      have hskip := hclosing.skipBlank_eq (isBlank_closing .array)
      simp only [Container.closing] at hskip
      simp only [readList, hblanks.skipBlank_eq (by decide), hskip]
    · obtain ⟨c, tail, hskip, -, hne⟩ := hentries.head
      have hentries := hentries.skipBlank
      rw [readList, hblanks.skipBlank_eq (by decide)]
      simp only
      split
      · rename_i hclosing
        rw [hskip] at hclosing
        exact absurd (List.cons.inj hclosing).1 hne
      · exact readItems_of_entries h hentries has hentries.length_le
  sound := by
    intro text rest as hread
    rw [readList] at hread
    split at hread
    · rename_i inside hskip
      have hblanks := Blanks.of_skipBlank_eq hskip
      split at hread
      · rename_i rest' hclosing
        cases hread
        exact ⟨_, _, hblanks, @Starts.empty .array inside _ (.of_skipBlank_eq hclosing), [], rfl,
          .nil⟩
      · obtain ⟨entries, bs, hentries, hbs, rfl⟩ := exists_of_readItems h hread
        have hentries := hentries.of_blanks (blanks_skipBlank inside)
        exact ⟨_, _, hblanks, .entries hentries, _, rfl, hbs⟩
    · cases hread

end Lists

end SyscallNames.Json
