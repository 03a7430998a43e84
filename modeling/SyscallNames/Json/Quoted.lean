import SyscallNames.Hexadecimal
import SyscallNames.Json.Basic

set_option autoImplicit false

namespace SyscallNames.Json

/-- Four hexadecimal digits. The text is too short for them if fewer than four bytes are left. -/
def readUnit : Reader Nat
  | a :: b :: c :: d :: rest =>
    match Hexadecimal.digit? a, Hexadecimal.digit? b, Hexadecimal.digit? c,
      Hexadecimal.digit? d with
    | some a, some b, some c, some d => .ok (((a * 16 + b) * 16 + c) * 16 + d, rest)
    | _, _, _, _ => .error .malformed
  | text => if (Utf8.encode text).length < 4 then .error .truncated else .error .malformed

def isLeading (unit : Nat) : Bool := 0xD800 ≤ unit && unit < 0xDC00
def isTrailing (unit : Nat) : Bool := 0xDC00 ≤ unit && unit < 0xE000

def readPair (leading : Nat) : Reader Char
  | [] => .error .truncated
  | ['\\'] => .error .truncated
  | '\\' :: 'u' :: rest =>
    match readUnit rest with
    | .error e => .error e
    | .ok (unit, rest) =>
      if isTrailing unit then
        .ok (Char.ofNat (0x10000 + (leading - 0xD800) * 0x400 + (unit - 0xDC00)), rest)
      else .error .malformed
  | _ => .error .malformed

def escaped? : Char → Option Char
  | '"' => some '"'
  | '\\' => some '\\'
  | '/' => some '/'
  | 'b' => some '\x08'
  | 'f' => some '\x0C'
  | 'n' => some '\n'
  | 'r' => some '\r'
  | 't' => some '\t'
  | _ => none

def readEscape : Reader Char
  | [] => .error .truncated
  | 'u' :: rest =>
    match readUnit rest with
    | .error e => .error e
    | .ok (unit, rest) =>
      if isTrailing unit then .error .malformed
      else if isLeading unit then readPair unit rest
      else .ok (Char.ofNat unit, rest)
  | c :: rest =>
    match escaped? c with
    | some d => .ok (d, rest)
    | none => .error .malformed

def skipEscape : Text → Except Fault Text
  | [] => .error .truncated
  | 'u' :: rest => (readUnit rest).map Prod.snd
  | c :: rest => if (escaped? c).isSome then .ok rest else .error .malformed

theorem length_lt_of_readUnit {text rest : Text} {unit : Nat}
    (h : readUnit text = .ok (unit, rest)) : rest.length < text.length := by
  unfold readUnit at h
  split at h
  · split at h
    · simp only [Except.ok.injEq, Prod.mk.injEq] at h
      simp only [← h.2, List.length_cons]
      omega
    · cases h
  · split at h <;> cases h

theorem length_lt_of_readPair {text rest : Text} {leading : Nat} {c : Char}
    (h : readPair leading text = .ok (c, rest)) : rest.length < text.length := by
  unfold readPair at h
  split at h <;> try cases h
  split at h
  · cases h
  · rename_i hu
    split at h
    · simp only [Except.ok.injEq, Prod.mk.injEq] at h
      have := length_lt_of_readUnit hu
      simp only [← h.2, List.length_cons]
      omega
    · cases h

theorem length_lt_of_readEscape {text rest : Text} {c : Char}
    (h : readEscape text = .ok (c, rest)) : rest.length < text.length := by
  unfold readEscape at h
  split at h
  · cases h
  · split at h
    · cases h
    · rename_i hu
      have := length_lt_of_readUnit hu
      simp only [List.length_cons]
      split at h
      · cases h
      · split at h
        · have := length_lt_of_readPair h
          omega
        · simp only [Except.ok.injEq, Prod.mk.injEq] at h
          simp only [← h.2]
          omega
  · split at h
    · simp only [Except.ok.injEq, Prod.mk.injEq] at h
      simp [← h.2]
    · cases h

theorem length_lt_of_skipEscape {text rest : Text} (h : skipEscape text = .ok rest) :
    rest.length < text.length := by
  unfold skipEscape at h
  split at h
  · cases h
  · rename_i tail
    cases hu : readUnit tail with
    | error e => simp [hu, Except.map] at h
    | ok p =>
      have := length_lt_of_readUnit hu
      simp only [hu, Except.map, Except.ok.injEq] at h
      simp only [← h, List.length_cons]
      omega
  · split at h
    · simp only [Except.ok.injEq] at h
      simp [← h]
    · cases h

def readStringOnto (done : Text) : Text → Except Fault (Text × Text)
  | [] => .error .truncated
  | c :: rest =>
    if c = '"' then .ok (done.reverse, rest)
    else if c = '\\' then
      match h : readEscape rest with
      | .error e => .error e
      | .ok (d, tail) =>
        have := length_lt_of_readEscape h
        readStringOnto (d :: done) tail
    else if c < ' ' then .error .malformed
    else readStringOnto (c :: done) rest
termination_by text => text.length
decreasing_by all_goals simp only [List.length_cons]; omega

def readString : Reader Text := readStringOnto []

@[simp]
theorem readStringOnto_quote (done rest : Text) :
    readStringOnto done ('"' :: rest) = .ok (done.reverse, rest) := by
  rw [readStringOnto, if_pos rfl]

theorem readStringOnto_plain {c : Char} (hq : c ≠ '"') (hb : c ≠ '\\') (hc : ¬ c < ' ')
    (done rest : Text) : readStringOnto done (c :: rest) = readStringOnto (c :: done) rest := by
  rw [readStringOnto, if_neg hq, if_neg hb, if_neg hc]

theorem readStringOnto_escape {rest tail : Text} {d : Char} (h : readEscape rest = .ok (d, tail))
    (done : Text) : readStringOnto done ('\\' :: rest) = readStringOnto (d :: done) tail := by
  rw [readStringOnto, if_neg (by decide), if_pos rfl]
  split <;> simp_all

def skipString : Text → Except Fault Text
  | [] => .error .truncated
  | c :: rest =>
    if c = '"' then .ok rest
    else if c = '\\' then
      match h : skipEscape rest with
      | .error e => .error e
      | .ok tail =>
        have := length_lt_of_skipEscape h
        skipString tail
    else if c < ' ' then .error .malformed
    else skipString rest
termination_by text => text.length
decreasing_by all_goals simp only [List.length_cons]; omega

@[simp]
theorem skipString_quote (rest : Text) : skipString ('"' :: rest) = .ok rest := by
  rw [skipString, if_pos rfl]

theorem skipString_plain {c : Char} (hq : c ≠ '"') (hb : c ≠ '\\') (hc : ¬ c < ' ') (rest : Text) :
    skipString (c :: rest) = skipString rest := by
  rw [skipString, if_neg hq, if_neg hb, if_neg hc]

theorem skipString_escape {rest tail : Text} (h : skipEscape rest = .ok tail) :
    skipString ('\\' :: rest) = skipString tail := by
  rw [skipString, if_neg (by decide), if_pos rfl]
  split <;> simp_all

end SyscallNames.Json
