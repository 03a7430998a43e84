import SyscallNames.Pattern.Escape

set_option autoImplicit false

namespace SyscallNames.Pattern

def asciiSets : List (Text × List (Nat × Nat)) :=
  [("alnum".toList, [(0x30, 0x39), (0x41, 0x5A), (0x61, 0x7A)]),
    ("alpha".toList, [(0x41, 0x5A), (0x61, 0x7A)]), ("ascii".toList, [(0, 0x7F)]),
    ("blank".toList, [(0x09, 0x09), (0x20, 0x20)]), ("cntrl".toList, [(0, 0x1F), (0x7F, 0x7F)]),
    ("digit".toList, [(0x30, 0x39)]), ("graph".toList, [(0x21, 0x7E)]),
    ("lower".toList, [(0x61, 0x7A)]), ("print".toList, [(0x20, 0x7E)]),
    ("punct".toList, [(0x21, 0x2F), (0x3A, 0x40), (0x5B, 0x60), (0x7B, 0x7E)]),
    ("space".toList, [(0x09, 0x0D), (0x20, 0x20)]), ("upper".toList, [(0x41, 0x5A)]),
    ("word".toList, [(0x30, 0x39), (0x41, 0x5A), (0x5F, 0x5F), (0x61, 0x7A)]),
    ("xdigit".toList, [(0x30, 0x39), (0x41, 0x46), (0x61, 0x66)])]

def readNamed? (cursor : Cursor) : Option (Members × Cursor) :=
  (cursor.skipText? "[:").bind fun inner =>
    let negated := inner.head? = some '^'
    let inner := if negated then inner.next else inner
    let name := inner.rest.takeWhile (· ≠ ':')
    ((inner.skip name.length).skipText? ":]").bind fun next =>
      (asciiSets.lookup name).map fun ranges =>
        (.named ranges negated (next.since cursor.offset), next)

def readClassAtom (cursor : Cursor) : Except Fault (Atom × Cursor) :=
  match cursor.head? with
  | none => .error { kind := .classUnclosed, span := cursor.here }
  | some '\\' => readEscape cursor
  | some c => .ok (literalAtom c false cursor.ahead, cursor.next)

def Atom.member (a : Atom) : Except Fault Members :=
  match a.kind with
  | .literal l => .ok (.literal l)
  | .letter kind negated => .ok (.letter kind negated a.span)
  | .property name negated => .ok (.property name negated a.span)
  | .assertion _ => .error { kind := .classMember, span := a.span }

def Atom.boundary (a : Atom) : Except Fault Literal :=
  match a.kind with
  | .literal l => .ok l
  | _ => .error { kind := .rangeBoundary, span := a.span }

def startsRange (cursor : Cursor) : Bool :=
  let behind := cursor.nextSolid.head?
  cursor.head? = some '-' && behind ≠ some ']' && behind ≠ some '-'

def readMember (unclosed : Fault) (cursor : Cursor) :
    Except Fault (Members × Span × Cursor) := do
  let (first, next) ← readClassAtom cursor
  let next := next.skipBlank
  if next.isEnd then throw unclosed
  if startsRange next then
    let next := next.nextSolid
    if next.isEnd then throw unclosed
    let (last, next) ← readClassAtom next
    let span : Span := ⟨first.span.start, last.span.stop⟩
    let low ← first.boundary
    let high ← last.boundary
    if high.char < low.char then throw { kind := .rangeReversed, span }
    return (.range low high, span, next)
  else return (← first.member, first.span, next)

/-- What has been read of a class: the operation that waits for its right side, and the members
since, the last one first. -/
structure ClassState where
  pending : Option (SetOperation × Members × Span) := none
  items : List (Members × Span) := []

namespace ClassState

def push (state : ClassState) (member : Members) (span : Span) : ClassState :=
  { state with items := (member, span) :: state.items }

def union (state : ClassState) (place : Span) : Members × Span :=
  match state.items with
  | [] => (.none, place)
  | [item] => item
  | last :: items =>
    let span : Span := ⟨((items.getLast?.getD last).2).start, last.2.stop⟩
    (.union (state.items.reverse.map Prod.fst) span, span)

def result (state : ClassState) (place : Span) : Members × Span :=
  let (right, rightSpan) := state.union place
  match state.pending with
  | none => (right, rightSpan)
  | some (operation, left, leftSpan) =>
    let span : Span := ⟨leftSpan.start, rightSpan.stop⟩
    (.combine operation left right span, span)

def operate (state : ClassState) (operation : SetOperation) (place : Span) : ClassState :=
  let (left, span) := state.result place
  { pending := some (operation, left, span) }

end ClassState

structure ClassOpening where
  negated : Bool
  state : ClassState
  unclosed : Fault
  cursor : Cursor

/-- The hyphens at the start of a class stand for themselves; `unclosed` is the fault if nothing
follows them. -/
def readHyphens (unclosed : Fault) (state : ClassState) :
    Text → Cursor → Except Fault (ClassState × Cursor)
  | [], cursor => .ok (state, cursor)
  | _ :: counter, cursor =>
    if cursor.head? = some '-' then
      let next := cursor.nextSolid
      if next.isEnd then .error unclosed
      else
        let literal := .literal { char := '-', span := cursor.ahead }
        readHyphens unclosed (state.push literal cursor.ahead) counter next
    else .ok (state, cursor)

def readOpening (cursor : Cursor) : Except Fault ClassOpening := do
  let start := cursor.offset
  let unclosed (span : Span) : Fault := { kind := .classUnclosed, span }
  let inner := cursor.nextSolid
  if inner.isEnd then throw (unclosed (inner.since start))
  let negated := inner.head? = some '^'
  let inner := if negated then inner.nextSolid else inner
  if inner.isEnd then throw (unclosed (inner.since start))
  let (state, inner) ← readHyphens (unclosed cursor.here) {} inner.rest inner
  if state.items.isEmpty ∧ inner.head? = some ']' then
    let next := inner.nextSolid
    if next.isEnd then throw (unclosed (next.since start))
    let literal := .literal { char := ']', span := inner.ahead }
    let state := state.push literal inner.ahead
    return { negated, state, unclosed := unclosed (next.since start), cursor := next }
  else return { negated, state, unclosed := unclosed (inner.since start), cursor := inner }

def readOperation? (cursor : Cursor) : Option (SetOperation × Cursor) :=
  ((cursor.skipText? "&&").map (SetOperation.intersection, ·)).orElse fun _ =>
    ((cursor.skipText? "--").map (SetOperation.difference, ·)).orElse fun _ =>
      (cursor.skipText? "~~").map (SetOperation.symmetricDifference, ·)

/-- Reads the rest of a class, up to its closing bracket. The characters of a text are enough to
count the steps through it. -/
def readMembers (unclosed : Fault) :
    Text → ClassState → Cursor → Except Fault (Members × Cursor)
  | [], _, _ => .error unclosed
  | _ :: counter, state, cursor =>
    let cursor := cursor.skipBlank
    match cursor.head? with
    | none => .error unclosed
    | some ']' => .ok ((state.result cursor.here).1, cursor.next)
    | some '[' =>
      match readNamed? cursor with
      | some (member, next) =>
        readMembers unclosed counter (state.push member (next.since cursor.offset)) next
      | none => do
        let opening ← readOpening cursor
        let (inner, next) ← readMembers opening.unclosed counter opening.state opening.cursor
        let span := next.since cursor.offset
        readMembers unclosed counter (state.push (.bracket inner opening.negated span) span) next
    | some _ =>
      match readOperation? cursor with
      | some (operation, next) =>
        readMembers unclosed counter (state.operate operation cursor.here) next
      | none => do
        let (member, span, next) ← readMember unclosed cursor
        readMembers unclosed counter (state.push member span) next

def readClass (cursor : Cursor) : Except Fault (Tree × Cursor) := do
  let opening ← readOpening cursor
  let (inner, next) ← readMembers opening.unclosed cursor.rest opening.state opening.cursor
  return (.bracket inner opening.negated (next.since cursor.offset), next)

end SyscallNames.Pattern
