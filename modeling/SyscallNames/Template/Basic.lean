import SyscallNames.Utf8

set_option autoImplicit false

namespace SyscallNames

inductive Align
  | left
  | right
  | center
deriving DecidableEq, Repr

inductive Conversion
  | plain
  | quoted
deriving DecidableEq, Repr

structure FieldSpec where
  fill : Char := ' '
  align : Align := .left
  width : Nat := 0
  precision : Option Nat := none
deriving DecidableEq, Repr

structure Field where
  conversion : Conversion := .plain
  spec : FieldSpec := {}
deriving DecidableEq, Repr

inductive Segment
  | literal (text : Text)
  | field (f : Field)
deriving DecidableEq, Repr

structure Template where
  source : Text
  segments : List Segment
deriving DecidableEq, Repr

def Conversion.apply : Conversion → Text → Text
  | .plain, name => name
  | .quoted, name => '\x27' :: (name ++ ['\x27'])

def FieldSpec.cut (spec : FieldSpec) (value : Text) : Text :=
  match spec.precision with
  | none => value
  | some p => value.take p

/-- Fills `value` up to the width; a centred value has the odd fill character on its right. -/
def FieldSpec.pad (spec : FieldSpec) (value : Text) : Text :=
  let gap := spec.width - value.length
  match spec.align with
  | .left => value ++ List.replicate gap spec.fill
  | .right => List.replicate gap spec.fill ++ value
  | .center =>
    List.replicate (gap / 2) spec.fill ++ value ++ List.replicate (gap - gap / 2) spec.fill

def Field.render (field : Field) (name : Text) : Text :=
  field.spec.pad (field.spec.cut (field.conversion.apply name))

def Segment.render : Segment → Text → Text
  | .literal text, _ => text
  | .field f, name => f.render name

namespace Template

def render (template : Template) (name : Text) : Text :=
  template.segments.flatMap (·.render name)

def default : Template := { source := ['{', '}'], segments := [.field {}] }

def maxFieldSize : Nat := 4096

end Template

@[simp]
theorem FieldSpec.length_cut (spec : FieldSpec) (value : Text) :
    (spec.cut value).length = (spec.precision.elim value.length fun p => min p value.length) := by
  cases h : spec.precision <;> simp [cut, h]

@[simp]
theorem FieldSpec.length_pad (spec : FieldSpec) (value : Text) :
    (spec.pad value).length = max spec.width value.length := by
  cases h : spec.align <;> simp [pad, h] <;> omega

end SyscallNames
