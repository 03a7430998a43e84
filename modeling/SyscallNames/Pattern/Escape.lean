import SyscallNames.Pattern.Cursor
import SyscallNames.Pattern.Syntax

set_option autoImplicit false

namespace SyscallNames.Pattern

def char? (digits : Text) : Option Char :=
  let n := Hexadecimal.value digits
  if h : n.isValidChar then some (Char.ofNatAux n h) else none

def literalAtom (c : Char) (isByte : Bool) (span : Span) : Atom :=
  { kind := .literal { char := c, isByte, span }, span }

def ofDigits (start : Nat) (isByte : Bool) (digits : Text) (span : Span) (cursor : Cursor) :
    Except Fault (Atom × Cursor) :=
  match char? digits with
  | some c => .ok (literalAtom c isByte (cursor.since start), cursor)
  | none => .error { kind := .hexadecimalValue, span }

def readBraced (start brace : Nat) (done : Text) :
    Text → Cursor → Except Fault (Atom × Cursor)
  | [], cursor => .error { kind := .escapeUnfinished, span := cursor.since brace }
  | _ :: counter, cursor =>
    let cursor := cursor.nextSolid
    match cursor.head? with
    | none => .error { kind := .escapeUnfinished, span := cursor.since brace }
    | some '\x7d' =>
      let next := cursor.nextSolid
      if done = [] then .error { kind := .hexadecimalEmpty, span := next.since brace }
      else ofDigits start false done.reverse (cursor.since (brace + 1)) next
    | some c =>
      if (Hexadecimal.digit? c).isSome then readBraced start brace (c :: done) counter cursor
      else .error { kind := .hexadecimalDigit, span := cursor.ahead }

def readFixed (start first : Nat) (isByte : Bool) (done : Text) :
    Nat → Cursor → Except Fault (Atom × Cursor)
  | 0, cursor => ofDigits start isByte done.reverse (cursor.since first) cursor
  | count + 1, cursor =>
    match cursor.head? with
    | none => .error { kind := .escapeUnfinished, span := cursor.here }
    | some c =>
      if (Hexadecimal.digit? c).isSome then
        readFixed start first isByte (c :: done) count cursor.nextSolid
      else .error { kind := .hexadecimalDigit, span := cursor.ahead }

def readNumbered (start digits : Nat) (cursor : Cursor) : Except Fault (Atom × Cursor) :=
  match cursor.head? with
  | none => .error { kind := .escapeUnfinished, span := cursor.here }
  | some '\x7b' => readBraced start cursor.offset [] cursor.rest cursor
  | some _ => readFixed start cursor.offset (digits = 2) [] digits cursor

def cutAt? (separator : Text) : Text → Option (Text × Text)
  | [] => none
  | c :: rest =>
    if separator.isPrefixOf (c :: rest) then some ([], (c :: rest).drop separator.length)
    else (cutAt? separator rest).map fun (a, b) => (c :: a, b)

def propertyName (text : Text) : PropertyName × Bool :=
  match cutAt? ['!', '='] text with
  | some (name, value) => (.valued name value, true)
  | none =>
    match (cutAt? [':'] text).orElse fun _ => cutAt? ['='] text with
    | some (name, value) => (.valued name value, false)
    | none => (.alone text, false)

def readToBrace (done : Text) : Text → Cursor → Except Fault (Text × Cursor)
  | [], cursor => .error { kind := .escapeUnfinished, span := cursor.here }
  | _ :: counter, cursor =>
    let cursor := cursor.nextSolid
    match cursor.head? with
    | none => .error { kind := .escapeUnfinished, span := cursor.here }
    | some '\x7d' => .ok (done.reverse, cursor.next)
    | some c => readToBrace (c :: done) counter cursor

def readProperty (start : Nat) (negated : Bool) (cursor : Cursor) :
    Except Fault (Atom × Cursor) := do
  match cursor.head? with
  | none => throw { kind := .escapeUnfinished, span := cursor.here }
  | some '\\' => throw { kind := .propertyName, span := cursor.ahead }
  | some '\x7b' =>
    let (text, next) ← readToBrace [] cursor.rest cursor
    let (name, unequal) := propertyName text
    return ({ kind := .property name (negated != unequal), span := next.since start }, next)
  | some c =>
    let next := cursor.nextSolid
    return ({ kind := .property (.alone [c]) negated, span := next.since start }, next)

def isEdgeLetter (c : Char) : Bool := c.isAlpha || c = '-'

def wordEdges : List (Text × WordEdge) :=
  [("start".toList, .start), ("end".toList, .stop), ("start-half".toList, .startHalf),
    ("end-half".toList, .stopHalf)]

def readEdgeName (done : Text) : Text → Cursor → Text × Cursor
  | [], cursor => (done.reverse, cursor)
  | _ :: counter, cursor =>
    match cursor.head? with
    | none => (done.reverse, cursor)
    | some c =>
      if isEdgeLetter c then readEdgeName (c :: done) counter cursor.nextSolid
      else (done.reverse, cursor)

def readEdge (start : Nat) (cursor : Cursor) : Except Fault (Atom × Cursor) := do
  let atom (edge : WordEdge) (cursor : Cursor) : Atom × Cursor :=
    ({ kind := .assertion (.word edge), span := cursor.since start }, cursor)
  if cursor.head? ≠ some '\x7b' then return atom .boundary cursor
  let inner := cursor.nextSolid
  match inner.head? with
  | none => throw { kind := .wordEdgeUnfinished, span := inner.since start }
  | some c =>
    if !isEdgeLetter c then return atom .boundary cursor
    let (name, stop) := readEdgeName [] inner.rest inner
    if stop.head? ≠ some '\x7d' then
      throw { kind := .wordEdgeUnclosed, span := stop.since cursor.offset }
    match wordEdges.lookup name with
    | some edge => return atom edge stop.next
    | none => throw { kind := .wordEdgeUnknown, span := stop.since inner.offset }

def letterChars : List (Char × Char) :=
  [('a', '\x07'), ('f', '\x0C'), ('n', '\n'), ('r', '\r'), ('t', '\t'), ('v', '\x0B')]

def letterAtoms : List (Char × AtomKind) :=
  [('d', .letter .digit false), ('D', .letter .digit true), ('s', .letter .space false),
    ('S', .letter .space true), ('w', .letter .word false), ('W', .letter .word true),
    ('A', .assertion .textStart), ('z', .assertion .textStop),
    ('B', .assertion (.word .noBoundary)), ('<', .assertion (.word .start)),
    ('>', .assertion (.word .stop))]

/-- Reads an escape whose backslash is next. Of ASCII, all that is no letter and no digit may stand
for itself. -/
def readEscape (cursor : Cursor) : Except Fault (Atom × Cursor) :=
  let start := cursor.offset
  let behind := cursor.next
  match behind.head? with
  | none => .error { kind := .escapeUnfinished, span := behind.since start }
  | some c =>
    let next := behind.next
    let span := next.since start
    if c.isDigit then .error { kind := .backreference, span }
    else if c = 'x' then readNumbered start 2 behind.nextSolid
    else if c = 'u' then readNumbered start 4 behind.nextSolid
    else if c = 'U' then readNumbered start 8 behind.nextSolid
    else if c = 'p' ∨ c = 'P' then readProperty start (c = 'P') behind.nextSolid
    else if c = 'b' then readEdge start next
    else
      match letterAtoms.lookup c, letterChars.lookup c with
      | some kind, _ => .ok ({ kind, span }, next)
      | none, some d => .ok (literalAtom d false span, next)
      | none, none =>
        if c.toNat < 0x80 ∧ !c.isAlpha then .ok (literalAtom c false span, next)
        else .error { kind := .escapeUnknown, span }

end SyscallNames.Pattern
