set_option autoImplicit false

namespace SyscallNames

abbrev Bytes := List UInt8

abbrev Text := List Char

namespace Utf8

def encode (t : Text) : Bytes := t.flatMap String.utf8EncodeChar

/-- What a leading byte asks for: the payload it carries, how many bytes follow it, and the bounds
of the first of these. The bounds keep out overlong forms, surrogates and values above `10FFFF`. -/
structure Lead where
  payload : Nat
  count : Nat
  low : Nat := 0x80
  high : Nat := 0xBF

def lead? (b : Nat) : Option Lead :=
  if b < 0x80 then some { payload := b, count := 0 }
  else if b < 0xC2 then none
  else if b < 0xE0 then some { payload := b - 0xC0, count := 1 }
  else if b < 0xF0 then
    some {
      payload := b - 0xE0
      count := 2
      low := if b = 0xE0 then 0xA0 else 0x80
      high := if b = 0xED then 0x9F else 0xBF }
  else if b < 0xF5 then
    some {
      payload := b - 0xF0
      count := 3
      low := if b = 0xF0 then 0x90 else 0x80
      high := if b = 0xF4 then 0x8F else 0xBF }
  else none

/-- Reads the bytes after a leading byte, and stops in front of the first one that cannot follow. -/
def readTail : Nat → Nat → Nat → Nat → Bytes → Option Char × Bytes
  | 0, _, _, value, rest => (some (Char.ofNat value), rest)
  | _ + 1, _, _, _, [] => (none, [])
  | n + 1, low, high, value, b :: rest =>
    if low ≤ b.toNat ∧ b.toNat ≤ high then
      readTail n 0x80 0xBF (value * 64 + (b.toNat - 0x80)) rest
    else (none, b :: rest)

def readChar (b : UInt8) (rest : Bytes) : Option Char × Bytes :=
  match lead? b.toNat with
  | none => (none, rest)
  | some l => readTail l.count l.low l.high l.payload rest

theorem length_readTail_le (n low high value : Nat) (bs : Bytes) :
    (readTail n low high value bs).2.length ≤ bs.length := by
  fun_induction readTail n low high value bs with
  | case1 => simp
  | case2 => simp
  | case3 n low high value b rest h ih => simp only [List.length_cons]; omega
  | case4 => simp

theorem length_readChar_le (b : UInt8) (rest : Bytes) :
    (readChar b rest).2.length ≤ rest.length := by
  unfold readChar
  split
  · simp
  · exact length_readTail_le ..

def readOnto (done : List (Option Char)) : Bytes → List (Option Char)
  | [] => done.reverse
  | b :: rest =>
    have := length_readChar_le b rest
    readOnto ((readChar b rest).1 :: done) (readChar b rest).2
termination_by bs => bs.length
decreasing_by simp only [List.length_cons]; omega

def read (bs : Bytes) : List (Option Char) := readOnto [] bs

/-- Strict reading: no text for bytes that are not UTF-8. -/
def decode? (bs : Bytes) : Option Text :=
  if (read bs).all Option.isSome then some ((read bs).filterMap id) else none

/-- Forgiving reading: `U+FFFD` stands for each maximal broken sequence. -/
def decodeLossy (bs : Bytes) : Text := (read bs).map (·.getD '\uFFFD')

@[simp]
theorem encode_append (s t : Text) : encode (s ++ t) = encode s ++ encode t := by
  simp [encode]

theorem readOnto_append (done extra : List (Option Char)) (bs : Bytes) :
    readOnto (done ++ extra) bs = extra.reverse ++ readOnto done bs := by
  fun_induction readOnto done bs with
  | case1 done => simp [readOnto]
  | case2 done b rest _ ih =>
    rw [readOnto]
    exact ih

theorem read_cons (b : UInt8) (rest : Bytes) :
    read (b :: rest) = (readChar b rest).1 :: read (readChar b rest).2 := by
  rw [read, readOnto]
  exact readOnto_append [] [(readChar b rest).1] (readChar b rest).2

theorem toNat_ofNat {n : Nat} (h : n < 256) : (UInt8.ofNat n).toNat = n := by
  simp [Nat.mod_eq_of_lt h]

theorem readTail_ofNat {n low high value m : Nat} {rest : Bytes} (hm : m < 256)
    (h : low ≤ m ∧ m ≤ high) : readTail (n + 1) low high value (UInt8.ofNat m :: rest) =
      readTail n 0x80 0xBF (value * 64 + (m - 0x80)) rest := by
  rw [readTail, toNat_ofNat hm, if_pos h]

theorem readTail_zero {low high value : Nat} {rest : Bytes} {c : Char} (h : value = c.toNat) :
    readTail 0 low high value rest = (some c, rest) := by
  rw [readTail, h, Char.ofNat_toNat]

theorem readChar_encode (c : Char) (rest : Bytes) :
    ∃ b bs, String.utf8EncodeChar c = b :: bs ∧ readChar b (bs ++ rest) = (some c, rest) := by
  have hc : c.toNat < 0xD800 ∨ (0xDFFF < c.toNat ∧ c.toNat < 0x110000) := c.valid
  unfold String.utf8EncodeChar
  simp only [show c.val.toNat = c.toNat from rfl]
  split
  · refine ⟨_, _, rfl, ?_⟩
    rw [readChar, toNat_ofNat (by omega), lead?, if_pos (by omega)]
    exact readTail_zero rfl
  split
  · refine ⟨_, _, rfl, ?_⟩
    rw [readChar, toNat_ofNat (by omega), lead?, if_neg (by omega), if_neg (by omega),
      if_pos (by omega)]
    dsimp only
    exact (readTail_ofNat (by omega) (by omega)).trans (readTail_zero (by omega))
  split
  · refine ⟨_, _, rfl, ?_⟩
    rw [readChar, toNat_ofNat (by omega), lead?, if_neg (by omega), if_neg (by omega),
      if_neg (by omega), if_pos (by omega)]
    dsimp only
    refine (readTail_ofNat (by omega) ?_).trans
      ((readTail_ofNat (by omega) (by omega)).trans (readTail_zero (by omega)))
    -- The second byte is bounded so that no overlong form and no surrogate is left.
    constructor <;> split <;> omega
  · refine ⟨_, _, rfl, ?_⟩
    rw [readChar, toNat_ofNat (by omega), lead?, if_neg (by omega), if_neg (by omega),
      if_neg (by omega), if_neg (by omega), if_pos (by omega)]
    dsimp only
    refine (readTail_ofNat (by omega) ?_).trans
      ((readTail_ofNat (by omega) (by omega)).trans
        ((readTail_ofNat (by omega) (by omega)).trans (readTail_zero (by omega))))
    constructor <;> split <;> omega

@[simp]
theorem read_encode (t : Text) : read (encode t) = t.map some := by
  induction t with
  | nil => simp [read, readOnto, encode]
  | cons c t ih =>
    obtain ⟨b, bs, hb, hc⟩ := readChar_encode c (encode t)
    have he : encode (c :: t) = b :: (bs ++ encode t) := by simp [encode, hb]
    rw [he, read_cons, hc, ih, List.map_cons]

@[simp]
theorem decode?_encode (t : Text) : decode? (encode t) = some t := by
  simp [decode?, List.filterMap_map]

@[simp]
theorem decodeLossy_encode (t : Text) : decodeLossy (encode t) = t := by
  simp [decodeLossy, Function.comp_def]
end Utf8
end SyscallNames
