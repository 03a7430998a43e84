import SyscallNames.Decimal
import SyscallNames.Json.Basic

set_option autoImplicit false

namespace SyscallNames.Json

/-- The nearest number with 53 significant bits; a tie goes to the even one. -/
def nearestDouble (n : Nat) : Nat :=
  let shift := n.log2 - 52
  let unit := Nat.pow 2 shift
  let kept := n / unit
  let lost := n % unit
  let up := 2 * lost > unit ∨ (2 * lost = unit ∧ kept % 2 = 1)
  (if up then kept + 1 else kept) * unit

def doubleLimit : Nat := Nat.pow 2 1024 - Nat.pow 2 970

/-- A number, signs and digits that do not matter left out: the leading digits of it that make up a
word, the power of ten they are scaled by, and whether a digit has been left out. -/
structure Scaled where
  significand : Nat := 0
  exponent : Int := 0
  full : Bool := false

namespace Scaled

def integerDigit (s : Scaled) (c : Char) : Scaled :=
  let grown := s.significand * 10 + (c.toNat - 48)
  if s.full ∨ Decimal.wordLimit ≤ grown then { s with exponent := s.exponent + 1, full := true }
  else { s with significand := grown }

def fractionDigit (s : Scaled) (c : Char) : Scaled :=
  let grown := s.significand * 10 + (c.toNat - 48)
  if s.full ∨ Decimal.wordLimit ≤ grown then { s with full := true }
  else { s with significand := grown, exponent := s.exponent - 1 }

def ofInteger (digits : Text) : Scaled := digits.foldl integerDigit {}

def addFraction (s : Scaled) (digits : Text) : Scaled :=
  digits.foldl fractionDigit { s with full := false }

/-- Whether the product of the two parts, each as a double, is beyond the range of a double. -/
def isHuge (s : Scaled) : Bool :=
  match s.exponent with
  | .negSucc _ => false
  | .ofNat e =>
    s.significand ≠ 0 &&
      (308 < e || doubleLimit ≤ nearestDouble s.significand * nearestDouble (Nat.pow 10 e))

end Scaled

inductive Number
  | word (n : Nat)
  | other
deriving DecidableEq, Repr

def Number.ofScaled (s : Scaled) (rest : Text) : Except Fault (Number × Text) :=
  if s.isHuge then .error .malformed else .ok (.other, rest)

def readDigits (text : Text) : Except Fault (Text × Text) :=
  match text with
  | [] => .error .truncated
  | c :: _ =>
    if c.isDigit then .ok (text.takeWhile Char.isDigit, text.dropWhile Char.isDigit)
    else .error .malformed

def isExponentMark (c : Char) : Bool := c = 'e' || c = 'E'

def readExponent (text : Text) : Except Fault (Int × Text) :=
  match text with
  | '-' :: rest => (readDigits rest).map fun (ds, rest) => (-(Decimal.value ds : Int), rest)
  | '+' :: rest => (readDigits rest).map fun (ds, rest) => ((Decimal.value ds : Int), rest)
  | rest => (readDigits rest).map fun (ds, rest) => ((Decimal.value ds : Int), rest)

def readScale (s : Scaled) (text : Text) : Except Fault (Number × Text) :=
  match text with
  | [] => Number.ofScaled s []
  | c :: rest =>
    if isExponentMark c then
      match readExponent rest with
      | .error e => .error e
      | .ok (e, rest) => Number.ofScaled { s with exponent := s.exponent + e } rest
    else Number.ofScaled s (c :: rest)

def readInteger (text : Text) : Except Fault (Text × Text) :=
  match text with
  | '0' :: c :: rest => if c.isDigit then .error .malformed else .ok (['0'], c :: rest)
  | text => readDigits text

def readUnsigned (negative : Bool) (text : Text) : Except Fault (Number × Text) :=
  match readInteger text with
  | .error e => .error e
  | .ok (ds, '.' :: rest) =>
    match readDigits rest with
    | .error e => .error e
    | .ok (fs, rest) => readScale ((Scaled.ofInteger ds).addFraction fs) rest
  | .ok (ds, rest) =>
    if (rest.head?.any isExponentMark) = true ∨ Decimal.wordLimit ≤ Decimal.value ds then
      readScale (Scaled.ofInteger ds) rest
    else if negative then .ok (.other, rest)
    else .ok (.word (Decimal.value ds), rest)

def readNumber : Reader Number
  | '-' :: rest => readUnsigned true rest
  | rest => readUnsigned false rest

def skipDigits (text : Text) : Except Fault Text :=
  match readDigits text with
  -- Here the end of the text is a fault like any other.
  | .error _ => .error .malformed
  | .ok (_, rest) => .ok rest

def skipExponent : Text → Except Fault Text
  | [] => .ok []
  | c :: rest =>
    if isExponentMark c then
      match rest with
      | '-' :: rest => skipDigits rest
      | '+' :: rest => skipDigits rest
      | rest => skipDigits rest
    else .ok (c :: rest)

def skipUnsigned (text : Text) : Except Fault Text :=
  match readInteger text with
  | .error _ => .error .malformed
  | .ok (_, '.' :: rest) =>
    match skipDigits rest with
    | .error e => .error e
    | .ok rest => skipExponent rest
  | .ok (_, rest) => skipExponent rest

def skipNumber : Text → Except Fault Text
  | '-' :: rest => skipUnsigned rest
  | rest => skipUnsigned rest

end SyscallNames.Json
