import SyscallNames.Pattern.Escape

set_option autoImplicit false

namespace SyscallNames.Pattern

def flagLetters : List (Char × Flag) :=
  [('i', .ignoreCase), ('m', .multiLine), ('s', .dotAll), ('U', .swapGreed), ('u', .unicode),
    ('R', .anyLineEnding), ('x', .verbose)]

/-- What has been read of a list of flags, each with its place; `negation` is the place of the
hyphen, from which on flags are put off. -/
structure FlagState where
  changes : List (FlagChange × Span) := []
  negation : Option Span := none

def FlagState.push (state : FlagState) (c : Char) (span : Span) : Except Fault FlagState :=
  if c = '-' then
    match state.negation with
    | some earlier => .error { kind := .negationTwice, span, earlier }
    | none => .ok { state with negation := some span }
  else
    match flagLetters.lookup c with
    | none => .error { kind := .flagUnknown, span }
    | some flag =>
      match state.changes.find? fun change => change.1.flag = flag with
      | some change => .error { kind := .flagTwice, span, earlier := some change.2 }
      | none =>
        let change := { flag, on := state.negation.isNone }
        .ok { state with changes := state.changes ++ [(change, span)] }

def readFlags (state : FlagState) (last : Option Char) :
    Text → Cursor → Except Fault (List FlagChange × Cursor)
  | [], cursor => .error { kind := .flagsUnfinished, span := cursor.here }
  | _ :: counter, cursor =>
    match cursor.head? with
    | none => .error { kind := .flagsUnfinished, span := cursor.here }
    | some c =>
      if c = ':' ∨ c = ')' then
        match state.negation with
        | some span =>
          if last = some '-' then .error { kind := .negationDangling, span }
          else .ok (state.changes.map Prod.fst, cursor)
        | none => .ok (state.changes.map Prod.fst, cursor)
      else do
        let state ← state.push c cursor.ahead
        if cursor.next.isEnd then throw { kind := .flagsUnfinished, span := cursor.next.here }
        readFlags state (some c) counter cursor.next

def changeOf? (flag : Flag) (changes : List FlagChange) : Option Bool :=
  (changes.find? fun change => change.flag = flag).map FlagChange.on

def startsName (c : Char) : Bool := c = '_' || Unicode.alphabetic.contains c

def continuesName (c : Char) : Bool :=
  startsName c || c = '.' || c = '[' || c = ']' || Unicode.number.contains c

def readGroupName (start : Nat) (done : Text) :
    Text → Cursor → Except Fault ((Text × Span) × Cursor)
  | [], cursor => .error { kind := .groupNameUnclosed, span := cursor.here }
  | _ :: counter, cursor =>
    match cursor.head? with
    | none => .error { kind := .groupNameUnclosed, span := cursor.here }
    | some c =>
      if c = '>' then
        if done = [] then .error { kind := .groupNameEmpty, span := ⟨start, start⟩ }
        else .ok ((done.reverse, cursor.since start), cursor.next)
      else if if done = [] then startsName c else continuesName c then
        if cursor.next.isEnd then
          .error { kind := .groupNameUnclosed, span := cursor.next.here }
        else readGroupName start (c :: done) counter cursor.next
      else .error { kind := .groupNameInvalid, span := cursor.ahead }

inductive Opening
  | flags (changes : List FlagChange)
  | group (isKept : Bool) (changes : List FlagChange)
  | named (name : Text) (span : Span)

def skipLookAround? (cursor : Cursor) : Option Cursor :=
  ["?=", "?!", "?<=", "?<!"].findSome? cursor.skipText?

/-- Reads what an opening parenthesis at the cursor opens. -/
def readParenthesis (cursor : Cursor) : Except Fault (Opening × Cursor) := do
  let inner := cursor.nextSolid
  if let some around := skipLookAround? inner then
    throw { kind := .lookAround, span := around.since cursor.offset }
  if let some name := (inner.skipText? "?P<").orElse fun _ => inner.skipText? "?<" then
    let ((text, span), next) ← readGroupName name.offset [] name.rest name
    return (.named text span, next)
  match inner.skipText? "?" with
  | none => return (.group true [], inner)
  | some flags =>
    if flags.isEnd then throw { kind := .groupUnclosed, span := cursor.ahead }
    let (changes, stop) ← readFlags {} none flags.rest flags
    if stop.head? = some ':' then return (.group false changes, stop.next)
    if stop.offset = flags.offset then throw { kind := .repetitionMissing, span := inner.here }
    return (.flags changes, stop.next)

end SyscallNames.Pattern
