import SyscallNames.Proofs.Json.Value

set_option autoImplicit false

namespace SyscallNames.Json

def Blanks (text rest : Text) : Prop := ∃ blank, Blank blank ∧ text = blank ++ rest

structure Exponent where
  mark : Char := 'e'
  sign : Option Char := none
  digits : Text
deriving DecidableEq, Repr

structure Numeral where
  negative : Bool := false
  integer : Nat
  fraction : Option Text := none
  exponent : Option Exponent := none
deriving DecidableEq, Repr

def Digits (ds : Text) : Prop := ds ≠ [] ∧ ∀ c ∈ ds, c.isDigit = true

namespace Exponent

def text (e : Exponent) : Text := e.mark :: (e.sign.toList ++ e.digits)

structure WellFormed (e : Exponent) : Prop where
  mark : isExponentMark e.mark = true
  sign : ∀ c ∈ e.sign, c = '+' ∨ c = '-'
  digits : Digits e.digits

end Exponent

namespace Numeral

def signText (n : Numeral) : Text := if n.negative then ['-'] else []

def fractionText (n : Numeral) : Text := n.fraction.elim [] fun ds => '.' :: ds

def exponentText (n : Numeral) : Text := n.exponent.elim [] Exponent.text

def text (n : Numeral) : Text :=
  n.signText ++ (Decimal.digits n.integer ++ (n.fractionText ++ n.exponentText))

structure WellFormed (n : Numeral) : Prop where
  fraction : ∀ ds ∈ n.fraction, Digits ds
  exponent : ∀ e ∈ n.exponent, e.WellFormed

end Numeral

/-- Four hexadecimal digits and the number that they stand for. -/
structure IsUnit (digits : Text) (unit : Nat) : Prop where
  length : digits.length = 4
  hexadecimal : ∀ c ∈ digits, (Hexadecimal.digit? c).isSome = true
  value : Hexadecimal.value digits = unit

/-- A text starts with the inside of a string and its closing quote, and the inside stands for the
string: a character may stand for itself or be escaped, by a letter, by its number, or by a pair of
surrogates. -/
inductive Spells : Text → Text → Text → Prop
  | quote {rest : Text} : Spells ('"' :: rest) [] rest
  | plain {c : Char} {text s rest : Text} : c ≠ '"' → c ≠ '\\' → ¬ c < ' ' → Spells text s rest →
    Spells (c :: text) (c :: s) rest
  | letter {c letter : Char} {text s rest : Text} : escaped? letter = some c →
    Spells text s rest → Spells ('\\' :: letter :: text) (c :: s) rest
  | unit {c : Char} {digits text s rest : Text} : IsUnit digits c.toNat → Spells text s rest →
    Spells ('\\' :: 'u' :: (digits ++ text)) (c :: s) rest
  | pair {c : Char} {leading trailing : Nat} {digits digits' text s rest : Text} :
    IsUnit digits leading → IsUnit digits' trailing →
    isLeading leading = true → isTrailing trailing = true →
    c.toNat = 0x10000 + (leading - 0xD800) * 0x400 + (trailing - 0xDC00) → Spells text s rest →
    Spells ('\\' :: 'u' :: (digits ++ '\\' :: 'u' :: (digits' ++ text))) (c :: s) rest

/-- A text starts with the inside of a string and its closing quote, whether or not its escapes
stand for a string. -/
inductive Inside : Text → Text → Prop
  | quote {rest : Text} : Inside ('"' :: rest) rest
  | plain {c : Char} {text rest : Text} : c ≠ '"' → c ≠ '\\' → ¬ c < ' ' → Inside text rest →
    Inside (c :: text) rest
  | letter {c letter : Char} {text rest : Text} : escaped? letter = some c → Inside text rest →
    Inside ('\\' :: letter :: text) rest
  | unit {unit : Nat} {digits text rest : Text} : IsUnit digits unit → Inside text rest →
    Inside ('\\' :: 'u' :: (digits ++ text)) rest

/-- The string behind an opening quote, if there is one: with a surrogate on its own, a string
stands for no text. -/
inductive Quoted : Text → Option Text → Text → Prop
  | text {inside s rest : Text} : Spells inside s rest → Quoted inside (some s) rest
  | noText {inside rest : Text} : Inside inside rest → (∀ s rest', ¬ Spells inside s rest') →
    Quoted inside none rest

inductive Value
  | null
  | bool (b : Bool)
  | number (n : Numeral)
  | string (s : Option Text)
  | array (items : List Value)
  | object (members : List (Option Text × Value))

namespace Container

def opening : Container → Char
  | .array => '['
  | .object => '{'

def value : Container → List (Option Text × Value) → Value
  | .array, entries => .array (entries.map Prod.snd)
  | .object, entries => .object entries

/-- What stands in front of the value of an entry: blanks, and in an object its key and a colon. -/
inductive Front : Container → Text → Option Text → Text → Prop
  | array {text start : Text} : Blanks text start → Front .array text none start
  | object {text inside behind before start : Text} {key : Option Text} :
    Blanks text ('"' :: inside) → Quoted inside key behind → Blanks behind (':' :: before) →
    Blanks before start → Front .object text key start

end Container

mutual

/-- A text starts with a value, and the rest stands behind the value. -/
inductive Starts : Text → Value → Text → Prop
  | null {rest : Text} : Starts ("null".toList ++ rest) .null rest
  | yes {rest : Text} : Starts ("true".toList ++ rest) (.bool true) rest
  | no {rest : Text} : Starts ("false".toList ++ rest) (.bool false) rest
  | number {n : Numeral} {rest : Text} : n.WellFormed → Starts (n.text ++ rest) (.number n) rest
  | string {inside rest : Text} {s : Option Text} : Quoted inside s rest →
    Starts ('"' :: inside) (.string s) rest
  | empty {container : Container} {inside rest : Text} :
    Blanks inside (container.closing :: rest) →
    Starts (container.opening :: inside) (container.value []) rest
  | entries {container : Container} {inside rest : Text} {entries : List (Option Text × Value)} :
    Entries container inside entries rest →
    Starts (container.opening :: inside) (container.value entries) rest

/-- A text starts with the entries of a container, from in front of the first one to behind the
closing bracket. -/
inductive Entries : Container → Text → List (Option Text × Value) → Text → Prop
  | last {container : Container} {text start behind rest : Text} {key : Option Text} {v : Value} :
    container.Front text key start → Starts start v behind →
    Blanks behind (container.closing :: rest) → Entries container text [(key, v)] rest
  | more {container : Container} {text start behind next rest : Text} {key : Option Text}
    {v : Value} {entries : List (Option Text × Value)} :
    container.Front text key start → Starts start v behind → Blanks behind (',' :: next) →
    Entries container next entries rest → Entries container text ((key, v) :: entries) rest

end

/-- A text is a value with blanks around it. -/
def Document (text : Text) (v : Value) : Prop :=
  ∃ start rest, Blanks text start ∧ Starts start v rest ∧ Blanks rest []

section Blanks

variable {text rest : Text} {c d : Char}

theorem Blanks.refl (text : Text) : Blanks text text := ⟨[], blank_nil, rfl⟩

theorem blanks_skipBlank (text : Text) : Blanks text (skipBlank text) :=
  ⟨text.takeWhile isBlank, List.all_eq_true.mp List.all_takeWhile,
    List.takeWhile_append_dropWhile.symm⟩

theorem Blanks.of_skipBlank_eq (h : skipBlank text = rest) : Blanks text rest :=
  h ▸ blanks_skipBlank text

theorem Blanks.skipBlank_eq (h : Blanks text (c :: rest)) (hc : isBlank c = false) :
    skipBlank text = c :: rest := by
  obtain ⟨blank, hblank, rfl⟩ := h
  exact skipBlank_append_cons hblank hc rest

theorem Blanks.expect_eq (h : Blanks text (c :: rest)) (hc : isBlank c = false) :
    expect c text = .ok rest := by
  obtain ⟨blank, hblank, rfl⟩ := h
  exact expect_append_cons hblank hc rest

theorem blanks_of_expect (h : expect c text = .ok rest) : Blanks text (c :: rest) := by
  rw [expect] at h
  split at h
  · cases h
  · rename_i d tail hskip
    split at h
    · rename_i hd
      cases h
      exact .of_skipBlank_eq (hd ▸ hskip)
    · cases h

theorem Blanks.nil_iff : Blanks text [] ↔ skipBlank text = [] := by
  refine ⟨?_, .of_skipBlank_eq⟩
  rintro ⟨blank, hblank, rfl⟩
  rw [skipBlank_append hblank]
  rfl

@[simp]
theorem isBlank_closing (container : Container) : isBlank container.closing = false := by
  cases container <;> decide

@[simp]
theorem isBlank_opening (container : Container) : isBlank container.opening = false := by
  cases container <;> decide

theorem Delimited.of_blanks (h : Blanks text rest) (hrest : Delimited rest) : Delimited text := by
  obtain ⟨blank, hblank, rfl⟩ := h
  cases blank with
  | nil => exact hrest
  | cons b blank =>
    intro c hc
    obtain rfl : b = c := by simpa using hc
    have hb := hblank b List.mem_cons_self
    simp only [isBlank, Bool.or_eq_true, decide_eq_true_eq] at hb
    obtain ((rfl | rfl) | rfl) | rfl := hb <;> decide

end Blanks

end SyscallNames.Json
