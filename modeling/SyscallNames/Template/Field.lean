import SyscallNames.Template.Spec

set_option autoImplicit false

namespace SyscallNames

inductive Numbering
  | undecided
  | automatic
  | explicit
deriving DecidableEq, Repr

inductive FieldName
  | automatic
  | index (n : Nat)
deriving DecidableEq, Repr

namespace FieldName

/-- An index is a word, and may carry a plus sign. -/
def index? : Text → Option Nat
  | '+' :: digits => Decimal.word? digits
  | digits => Decimal.word? digits

def read (name : Text) : Except FieldError FieldName :=
  if name = [] then .ok .automatic
  else if name.any fun c => c = '.' || c = '[' then .error (.lookup name)
  else match index? name with
    | some n => .ok (.index n)
    | none => .error (.named name)

end FieldName

/-- The numbering after a field of this name. A second automatic field would have index `1`. -/
def Numbering.add : Numbering → FieldName → Except FieldError Numbering
  | .undecided, .automatic => .ok .automatic
  | .automatic, .automatic => .error (.indexOutOfRange 1)
  | .explicit, .automatic => .error .explicitThenAutomatic
  | .automatic, .index _ => .error .automaticThenExplicit
  | _, .index 0 => .ok .explicit
  | _, .index n => .error (.indexOutOfRange n)

namespace Conversion

/-- Both codes for a quoted name mean the same, as no name needs an escape. -/
def ofCode : Char → Except FieldError Conversion
  | 's' => .ok .plain
  | 'r' => .ok .quoted
  | 'a' => .ok .quoted
  | c => .error (.unknownConversion c)

def checkEnd : Text → Except FieldError Unit
  | [] => .ok ()
  | ':' :: _ => .ok ()
  | _ => .error .missingColon

def read : Text → Except FieldError (Conversion × Text)
  | '!' :: [] => .error .missingConversion
  | '!' :: code :: rest => do
    let conversion ← ofCode code
    checkEnd rest
    return (conversion, rest)
  | rest => .ok (.plain, rest)

end Conversion

namespace Field

def isNameEnd (c : Char) : Bool := c = '!' || c = ':'

def readSpec : Text → Except FieldError FieldSpec
  | ':' :: spec => FieldSpec.read spec
  | _ => .ok {}

/-- Reads the text between two braces, after fields that were numbered so. -/
def read (numbering : Numbering) (body : Text) : Except FieldError (Field × Numbering) := do
  let name ← FieldName.read (body.takeWhile fun c => !isNameEnd c)
  let numbering ← numbering.add name
  let (conversion, rest) ← Conversion.read (body.dropWhile fun c => !isNameEnd c)
  let spec ← readSpec rest
  return ({ conversion, spec }, numbering)

end Field
end SyscallNames
