import SyscallNames.Template.Reader

set_option autoImplicit false

namespace SyscallNames

/-- The parts of a spec `[[fill]align][0][width][.precision][s]` as they are written. -/
structure FieldSpec.Form where
  fill : Option Char := none
  align : Option Align := none
  zero : Bool := false
  width : Text := []
  precision : Option Text := none
  code : Bool := false
deriving DecidableEq, Repr

def Align.mark : Align → Char
  | .left => '<'
  | .right => '>'
  | .center => '^'

def FieldSize.WellFormed (digits : Text) : Prop :=
  digits.all Char.isDigit ∧ Decimal.value digits ≤ Template.maxFieldSize

namespace FieldSpec.Form

def text (s : Form) : Text :=
  s.fill.toList ++ (s.align.map Align.mark).toList ++ (if s.zero then ['0'] else []) ++ s.width
    ++ (s.precision.elim [] fun ds => '.' :: ds) ++ (if s.code then ['s'] else [])

/-- What the grammar asks for. It leaves open whether a zero in front of other digits is the zero
flag. -/
structure Grammatical (s : Form) : Prop where
  align_of_fill : s.fill.isSome → s.align.isSome
  fill_ne_brace : ∀ c ∈ s.fill, c ≠ '{' ∧ c ≠ '}'
  width : FieldSize.WellFormed s.width
  precision_ne_nil : s.precision ≠ some []
  precision : ∀ ds ∈ s.precision, FieldSize.WellFormed ds

/-- A zero in front of a width is the zero flag, not a digit of the width. -/
structure WellFormed (s : Form) : Prop extends Grammatical s where
  zero_of_width : s.width.head? = some '0' → s.zero

def fillChar (s : Form) : Char := s.fill.getD (if s.zero && s.align.isNone then '0' else ' ')

def spec (s : Form) : FieldSpec where
  fill := s.fillChar
  align := s.align.getD .left
  width := Decimal.value s.width
  precision := s.precision.map Decimal.value

/-- How many of `gap` fill characters stand in front; a centred text has the odd one behind it. -/
def before (s : Form) (gap : Nat) : Nat :=
  match s.align with
  | some .right => gap
  | some .center => gap / 2
  | _ => 0

def render (s : Form) (value : Text) : Text :=
  let shown := value.take (s.precision.elim value.length Decimal.value)
  let gap := Decimal.value s.width - shown.length
  List.replicate (s.before gap) s.fillChar ++ shown
    ++ List.replicate (gap - s.before gap) s.fillChar

end FieldSpec.Form

/-- The name of a field as it is written: nothing, or some zeros that may have a plus sign. -/
inductive FieldName.Form
  | automatic
  | zeros (plus : Bool) (more : Nat)
deriving DecidableEq, Repr

def FieldName.Form.text : FieldName.Form → Text
  | automatic => []
  | zeros plus more => (if plus then ['+'] else []) ++ List.replicate (more + 1) '0'

inductive Conversion.Form
  | absent
  | s
  | r
  | a
deriving DecidableEq, Repr

namespace Conversion.Form

def text : Conversion.Form → Text
  | absent => []
  | s => ['!', 's']
  | r => ['!', 'r']
  | a => ['!', 'a']

def conversion : Conversion.Form → Conversion
  | absent => .plain
  | s => .plain
  | r => .quoted
  | a => .quoted

def render : Conversion.Form → Text → Text
  | absent, name => name
  | s, name => name
  | r, name => ['\x27'] ++ name ++ ['\x27']
  | a, name => ['\x27'] ++ name ++ ['\x27']

end Conversion.Form

structure Field.Form where
  name : FieldName.Form := .automatic
  conversion : Conversion.Form := .absent
  spec : Option FieldSpec.Form := none
deriving DecidableEq, Repr

namespace Field.Form

def text (f : Form) : Text :=
  f.name.text ++ f.conversion.text ++ (f.spec.elim [] fun s => ':' :: s.text)

def Grammatical (f : Form) : Prop := ∀ s ∈ f.spec, s.Grammatical

def WellFormed (f : Form) : Prop := ∀ s ∈ f.spec, s.WellFormed

def field (f : Form) : Field where
  conversion := f.conversion.conversion
  spec := f.spec.elim {} FieldSpec.Form.spec

def render (f : Form) (name : Text) : Text :=
  f.spec.elim (f.conversion.render name) fun s => s.render (f.conversion.render name)

end Field.Form

namespace Template

abbrev Form := List (Piece Field.Form)

namespace Form

def pieces (t : Form) : List (Piece Text) := t.map (Piece.map Field.Form.text)

def text (t : Form) : Text := t.pieces.flatMap Piece.text

def fields (t : Form) : List Field.Form :=
  t.filterMap fun
    | .literal _ => none
    | .field f => some f

/-- There is a field, and either it is the only one and has no number, or all are numbered. -/
def Numbered (t : Form) : Prop :=
  t.fields.map Field.Form.name = [.automatic] ∨
    (t.fields ≠ [] ∧ ∀ f ∈ t.fields, f.name ≠ .automatic)

structure Grammatical (t : Form) : Prop where
  fields : ∀ f ∈ t.fields, f.Grammatical
  numbered : t.Numbered

structure WellFormed (t : Form) : Prop where
  fields : ∀ f ∈ t.fields, f.WellFormed
  numbered : t.Numbered

def renderPiece (name : Text) : Piece Field.Form → Text
  | .literal c => [c]
  | .field f => f.render name

def render (t : Form) (name : Text) : Text := t.flatMap (renderPiece name)

end Form
end Template
end SyscallNames
