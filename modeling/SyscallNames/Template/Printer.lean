import SyscallNames.Template.Form

set_option autoImplicit false

namespace SyscallNames

def Conversion.code : Conversion → Char
  | .plain => 's'
  | .quoted => 'r'

namespace Template

def escape (text : Text) : Text := text.flatMap fun c => Piece.text (.literal c)

def printPrecision : Option Nat → Text
  | none => []
  | some p => '.' :: Decimal.digits p

def printField (field : Field) : Text :=
  '{' :: '0' :: '!' :: field.conversion.code :: ':' :: field.spec.fill :: field.spec.align.mark ::
    (Decimal.digits field.spec.width ++ printPrecision field.spec.precision ++ ['}'])

def printSegment : Segment → Text
  | .literal text => escape text
  | .field field => printField field

def print (segments : List Segment) : Text := segments.flatMap printSegment

end Template

/-- What a reader of templates can give: a fill that is no brace, and sizes within the bound. -/
structure Field.WellFormed (field : Field) : Prop where
  fill_ne_open : field.spec.fill ≠ '{'
  fill_ne_close : field.spec.fill ≠ '}'
  width_le : field.spec.width ≤ Template.maxFieldSize
  precision_le : ∀ p ∈ field.spec.precision, p ≤ Template.maxFieldSize

def Segment.Separated : List Segment → Prop
  | [] => True
  | .literal _ :: .literal _ :: _ => False
  | _ :: rest => Separated rest

/-- Segments with a field, in which literals are not empty and do not meet. -/
structure Segment.WellFormed (segments : List Segment) : Prop where
  field_mem : ∃ f, Segment.field f ∈ segments
  literal_ne_nil : Segment.literal [] ∉ segments
  separated : Segment.Separated segments
  fields : ∀ f, Segment.field f ∈ segments → f.WellFormed

end SyscallNames
