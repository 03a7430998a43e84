import SyscallNames.Pattern.Fault
import SyscallNames.Unicode.Property

set_option autoImplicit false

namespace SyscallNames.Pattern

/-- What is left of the text, where in the text it starts, and whether blanks and comments in it
mean nothing. -/
structure Cursor where
  offset : Nat
  rest : Text
  verbose : Bool := false

namespace Cursor

def ofText (text : Text) : Cursor := { offset := 0, rest := text }

def isEnd (cursor : Cursor) : Bool := cursor.rest.isEmpty

def head? (cursor : Cursor) : Option Char := cursor.rest.head?

def skip (cursor : Cursor) (count : Nat) : Cursor :=
  { cursor with
    offset := cursor.offset + min count cursor.rest.length, rest := cursor.rest.drop count }

def next (cursor : Cursor) : Cursor :=
  match cursor.rest with
  | [] => cursor
  | _ :: rest => { cursor with offset := cursor.offset + 1, rest }

def blankLength (inComment : Bool) : Text → Nat
  | [] => 0
  | c :: rest =>
    if inComment then 1 + blankLength (c ≠ '\n') rest
    else if Unicode.whiteSpace.contains c then 1 + blankLength false rest
    else if c = '#' then 1 + blankLength true rest
    else 0

def skipBlank (cursor : Cursor) : Cursor :=
  if cursor.verbose then cursor.skip (blankLength false cursor.rest) else cursor

def nextSolid (cursor : Cursor) : Cursor := cursor.next.skipBlank

def here (cursor : Cursor) : Span := ⟨cursor.offset, cursor.offset⟩

def ahead (cursor : Cursor) : Span := ⟨cursor.offset, cursor.offset + 1⟩

def since (cursor : Cursor) (start : Nat) : Span := ⟨start, cursor.offset⟩

def skipText? (cursor : Cursor) (text : String) : Option Cursor :=
  if text.toList.isPrefixOf cursor.rest then some (cursor.skip text.length) else none

end Cursor
end SyscallNames.Pattern
