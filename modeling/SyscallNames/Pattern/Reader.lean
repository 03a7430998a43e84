import SyscallNames.Pattern.CharClass
import SyscallNames.Pattern.Count
import SyscallNames.Pattern.Group

set_option autoImplicit false

namespace SyscallNames.Pattern

/-- What has been read of a group, or of the pattern as a whole. -/
structure OpenGroup where
  start : Nat
  isKept : Bool := true
  changes : List FlagChange := []
  verbose : Bool := false
  inside : Nat
  branches : List Tree := []
  branchStart : Nat
  items : List Tree := []

namespace OpenGroup

def push (group : OpenGroup) (tree : Tree) : OpenGroup :=
  { group with items := tree :: group.items }

def branch (group : OpenGroup) (stop : Nat) : Tree :=
  match group.items with
  | [] => .blank
  | [tree] => tree
  | items => .sequence items.reverse ⟨group.branchStart, stop⟩

def nextBranch (group : OpenGroup) (cursor next : Cursor) : OpenGroup :=
  { group with
    branches := group.branch cursor.offset :: group.branches
    branchStart := next.offset
    items := [] }

def tree (group : OpenGroup) (stop : Nat) : Tree :=
  match group.branches with
  | [] => group.branch stop
  | branches => .choice (group.branch stop :: branches).reverse ⟨group.inside, stop⟩

/-- The last part, to be repeated. There has to be one, and no change of flags. -/
def last? (group : OpenGroup) : Option (Tree × OpenGroup) :=
  match group.items with
  | [] | .blank :: _ | .flags _ :: _ => none
  | tree :: items => some (tree, { group with items })

end OpenGroup

structure Reading where
  group : OpenGroup
  outer : List OpenGroup := []
  names : List (Text × Span) := []
  cursor : Cursor

namespace Reading

def push (reading : Reading) (tree : Tree) (cursor : Cursor) : Reading :=
  { reading with group := reading.group.push tree, cursor }

def repeatLast (reading : Reading) (count : Except Fault (Nat × Option Nat × Cursor)) :
    Except Fault Reading :=
  match reading.group.last? with
  | none => .error { kind := .repetitionMissing, span := reading.cursor.here }
  | some (tree, group) => do
    let (least, most, cursor) ← count
    let tree := .times tree least most (cursor.since tree.start)
    return { reading with group := group.push tree, cursor }

def enter (reading : Reading) (isKept : Bool) (changes : List FlagChange) (inside : Cursor) :
    Reading :=
  let verbose := (changeOf? .verbose changes).getD inside.verbose
  let group := {
    start := reading.cursor.offset
    isKept
    changes
    verbose := inside.verbose
    inside := inside.offset
    branchStart := inside.offset }
  { reading with
    group, outer := reading.group :: reading.outer, cursor := { inside with verbose } }

def openGroup (reading : Reading) : Except Fault Reading := do
  let (opening, next) ← readParenthesis reading.cursor
  match opening with
  | .flags changes =>
    let verbose := (changeOf? .verbose changes).getD next.verbose
    return reading.push (.flags changes) { next with verbose }
  | .group isKept changes => return reading.enter isKept changes next
  | .named name span =>
    if let some (_, earlier) := reading.names.find? fun entry => entry.1 = name then
      throw { kind := .groupNameTwice, span, earlier := some earlier }
    let reading := { reading with names := (name, span) :: reading.names }
    return reading.enter true [] next

def closeGroup (reading : Reading) : Except Fault Reading :=
  let cursor := reading.cursor
  match reading.outer with
  | [] => .error { kind := .groupUnopened, span := cursor.ahead }
  | outermost :: outer =>
    let group := reading.group
    let next := { cursor.next with verbose := group.verbose }
    let inside := group.tree cursor.offset
    let tree := .group inside group.isKept group.changes (next.since group.start)
    .ok { reading with group := outermost.push tree, outer, cursor := next }

def step (reading : Reading) (c : Char) : Except Fault Reading :=
  let cursor := reading.cursor
  let next := cursor.next
  match c with
  | '(' => reading.openGroup
  | ')' => reading.closeGroup
  | '|' => .ok { reading with group := reading.group.nextBranch cursor next, cursor := next }
  | '?' => reading.repeatLast (.ok (0, some 1, skipLazy next))
  | '*' => reading.repeatLast (.ok (0, none, skipLazy next))
  | '+' => reading.repeatLast (.ok (1, none, skipLazy next))
  | '\x7b' => reading.repeatLast (readCount cursor)
  | '[' => (readClass cursor).map fun (tree, cursor) => reading.push tree cursor
  | '\\' => (readEscape cursor).map fun (a, cursor) => reading.push (.atom a) cursor
  | '.' => .ok (reading.push (.dot cursor.ahead) next)
  | '^' =>
    .ok (reading.push (.atom { kind := .assertion .lineStart, span := cursor.ahead }) next)
  | '$' => .ok (reading.push (.atom { kind := .assertion .lineStop, span := cursor.ahead }) next)
  | c => .ok (reading.push (.atom (literalAtom c false cursor.ahead)) next)

def close (reading : Reading) : Except Fault Tree :=
  let group := reading.group
  match reading.outer with
  | [] => .ok (group.tree reading.cursor.offset)
  | _ => .error { kind := .groupUnclosed, span := ⟨group.start, group.start + 1⟩ }

/-- Each step takes at least one character, so that the characters of a text are enough to count the
steps through it. -/
def steps : Text → Reading → Except Fault Tree
  | [], reading => reading.close
  | _ :: counter, reading =>
    let reading := { reading with cursor := reading.cursor.skipBlank }
    match reading.cursor.head? with
    | none => reading.close
    | some c => do steps counter (← reading.step c)

end Reading

def Tree.read (text : Text) : Except Fault Tree :=
  Reading.steps text {
    group := { start := 0, inside := 0, branchStart := 0 }, cursor := Cursor.ofText text }

end SyscallNames.Pattern
