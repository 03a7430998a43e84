import SyscallNames.Template.Error

set_option autoImplicit false

namespace SyscallNames

def Align.isMark (c : Char) : Bool := c = '<' || c = '>' || c = '^' || c = '='

def Align.ofMark : Char → Except FieldError Align
  | '<' => .ok .left
  | '>' => .ok .right
  | '^' => .ok .center
  | _ => .error .equalsAlign

namespace FieldSpec

/-- Fill and alignment. A mark in second place makes the first character the fill, whatever it
is. -/
def readAlign : Text → Except FieldError (Option (Char × Align) × Text)
  | [] => .ok (none, [])
  | [c] =>
    if Align.isMark c then (Align.ofMark c).map fun a => (some (' ', a), []) else .ok (none, [c])
  | c :: d :: rest =>
    if Align.isMark d then (Align.ofMark d).map fun a => (some (c, a), rest)
    else if Align.isMark c then (Align.ofMark c).map fun a => (some (' ', a), d :: rest)
    else .ok (none, c :: d :: rest)

def readFlag : Text → Except FieldError (Bool × Text)
  | '+' :: _ => .error .sign
  | '-' :: _ => .error .sign
  | ' ' :: _ => .error .sign
  | '#' :: _ => .error .alternateForm
  | '0' :: rest => .ok (true, rest)
  | rest => .ok (false, rest)

def readSize (size : FieldSize) (digits : Text) : Except FieldError Nat :=
  match Decimal.word? digits with
  | none => .error (.tooManyDigits digits)
  | some n => if n ≤ Template.maxFieldSize then .ok n else .error (.tooLarge size n)

def readWidth (text : Text) : Except FieldError (Nat × Text) :=
  match text.takeWhile Char.isDigit with
  | [] => .ok (0, text)
  | digits => (readSize .width digits).map fun n => (n, text.dropWhile Char.isDigit)

def refuseGrouping : Text → Except FieldError Unit
  | ',' :: _ => .error (.grouping ',')
  | '_' :: _ => .error (.grouping '_')
  | _ => .ok ()

def readPrecision : Text → Except FieldError (Option Nat × Text)
  | '.' :: rest =>
    match rest.takeWhile Char.isDigit with
    | [] => .error .missingPrecision
    | digits => (readSize .precision digits).map fun n => (some n, rest.dropWhile Char.isDigit)
  | rest => .ok (none, rest)

def readCode (spec : Text) : Text → Except FieldError Unit
  | [] => .ok ()
  | ['s'] => .ok ()
  | [c] => .error (.unknownCode c)
  | _ => .error (.invalidSpec spec)

/-- Without an alignment of its own, a spec with the zero flag is filled with zeros. -/
def read (spec : Text) : Except FieldError FieldSpec := do
  let (padding, rest) ← readAlign spec
  let (zero, rest) ← readFlag rest
  let (width, rest) ← readWidth rest
  refuseGrouping rest
  let (precision, rest) ← readPrecision rest
  readCode spec rest
  let (fill, align) := padding.getD (if zero then '0' else ' ', .left)
  return { fill, align, width, precision }

end FieldSpec
end SyscallNames
