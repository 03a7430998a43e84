import SyscallNames.Template.Field
import SyscallNames.Template.Piece

set_option autoImplicit false

namespace SyscallNames

namespace Piece

def readFields (done : List (Piece Field)) :
    Numbering → List (Piece Text) → Except FieldError (List (Piece Field))
  | _, [] => .ok done.reverse
  | numbering, .literal c :: rest => readFields (.literal c :: done) numbering rest
  | numbering, .field body :: rest =>
    match Field.read numbering body with
    | .error e => .error e
    | .ok (f, numbering) => readFields (.field f :: done) numbering rest

end Piece

/-- Puts a piece in front of segments; characters that meet make one literal. -/
def Segment.ofPiece : Piece Field → List Segment → List Segment
  | .literal c, .literal text :: rest => .literal (c :: text) :: rest
  | .literal c, rest => .literal [c] :: rest
  | .field f, rest => .field f :: rest

def Segment.ofPieces (pieces : List (Piece Field)) : List Segment :=
  pieces.foldr Segment.ofPiece []

def Template.parse (source : Text) : Except TemplateError Template :=
  let (pieces, fault) := Piece.cut source
  match Piece.readFields [] .undecided pieces, fault with
  | .error e, _ => .error (.field e)
  | .ok _, some e => .error (.brace e)
  | .ok pieces, none =>
    if pieces.any Piece.isField then .ok { source, segments := Segment.ofPieces pieces }
    else .error .noField

def Template.parseOrDefault : Option Text → Except TemplateError Template
  | none => .ok Template.default
  | some source => Template.parse source

end SyscallNames
