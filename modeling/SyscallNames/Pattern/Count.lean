import SyscallNames.Pattern.Cursor

set_option autoImplicit false

namespace SyscallNames.Pattern

def countLimit : Nat := UInt32.size

def readDigits (done : Text) : Text → Cursor → Text × Cursor
  | [], cursor => (done.reverse, cursor)
  | _ :: counter, cursor =>
    match cursor.head? with
    | none => (done.reverse, cursor)
    | some c =>
      if c.isDigit then readDigits (c :: done) counter cursor.nextSolid
      else (done.reverse, cursor)

def skipWhiteSpace (cursor : Cursor) : Cursor :=
  cursor.skip (cursor.rest.takeWhile Unicode.whiteSpace.contains).length

def readNumber (cursor : Cursor) : Except Fault Nat × Cursor :=
  let cursor := skipWhiteSpace cursor
  let (digits, next) := readDigits [] cursor.rest cursor
  let number :=
    if digits = [] then .error { kind := .countMissing, span := next.since cursor.offset }
    else if Decimal.value digits < countLimit then .ok (Decimal.value digits)
    else .error { kind := .countTooLarge, span := next.since cursor.offset }
  (number, (skipWhiteSpace next).skipBlank)

def readMost (unclosed : Cursor → Fault) (least : Except Fault Nat) (cursor : Cursor) :
    Except Fault (Nat × Option Nat × Cursor) := do
  if cursor.isEnd then throw (unclosed cursor)
  if cursor.head? = some ',' then
    let cursor := cursor.nextSolid
    if cursor.isEnd then throw (unclosed cursor)
    if cursor.head? = some '\x7d' then return (← least, none, cursor)
    let least ← least
    let (most, next) := readNumber cursor
    return (least, some (← most), next)
  else
    let least ← least
    return (least, some least, cursor)

/-- A repetition may be followed by a question mark, which asks for as few times as possible. -/
def skipLazy (cursor : Cursor) : Cursor :=
  if cursor.head? = some '?' then cursor.next else cursor

def readCount (cursor : Cursor) : Except Fault (Nat × Option Nat × Cursor) := do
  let start := cursor.offset
  let unclosed (cursor : Cursor) : Fault := { kind := .countUnclosed, span := cursor.since start }
  let cursor := cursor.nextSolid
  if cursor.isEnd then throw (unclosed cursor)
  let (least, cursor) := readNumber cursor
  let (least, most, cursor) ← readMost unclosed least cursor
  if cursor.head? ≠ some '\x7d' then throw (unclosed cursor)
  let next := skipLazy cursor.nextSolid
  if most.any (· < least) then throw { kind := .countsReversed, span := next.since start }
  return (least, most, next)

end SyscallNames.Pattern
