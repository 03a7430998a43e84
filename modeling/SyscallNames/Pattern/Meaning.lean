import SyscallNames.Pattern.Nesting
import SyscallNames.Pattern.Reader
import SyscallNames.Pattern.Size
import SyscallNames.Unicode.Name

set_option autoImplicit false

namespace SyscallNames.Pattern

structure Flags where
  ignoreCase : Bool := false
  multiLine : Bool := false
  dotAll : Bool := false
  ending : LineEnding := .newline
  repertoire : Repertoire := .unicode

def Flags.change (flags : Flags) (change : FlagChange) : Flags :=
  match change.flag with
  | .ignoreCase => { flags with ignoreCase := change.on }
  | .multiLine => { flags with multiLine := change.on }
  | .dotAll => { flags with dotAll := change.on }
  | .unicode => { flags with repertoire := if change.on then .unicode else .ascii }
  | .anyLineEnding => { flags with ending := if change.on then .any else .newline }
  | .swapGreed | .verbose => flags

def Flags.changes (flags : Flags) (changes : List FlagChange) : Flags :=
  changes.foldl Flags.change flags

def negate (flags : Flags) (negated : Bool) (span : Span) (s : CharSet) :
    Except Fault CharSet :=
  if !negated then .ok s
  else if flags.repertoire = .unicode then .ok s.complement
  else .error { kind := .noUtf8, span }

def foldAndNegate (flags : Flags) (negated : Bool) (span : Span) (s : CharSet) :
    Except Fault CharSet :=
  negate flags negated span (if flags.ignoreCase then s.foldCase flags.repertoire else s)

def asciiSpace : CharSet := .ofRanges [(0x09, 0x0D), (0x20, 0x20)]

def LetterClass.charSet : LetterClass → Repertoire → CharSet
  | digit, .ascii => .range 0x30 0x39
  | digit, .unicode => Unicode.decimalNumber
  | space, .ascii => asciiSpace
  | space, .unicode => Unicode.whiteSpace
  | word, repertoire => repertoire.word

def letterSet (flags : Flags) (kind : LetterClass) (negated : Bool) (span : Span) :
    Except Fault CharSet :=
  negate flags negated span (kind.charSet flags.repertoire)

def PropertyName.charSet : PropertyName → Except Unicode.NameFault CharSet
  | alone name => Unicode.setOfName name
  | valued name value => Unicode.setOfValue name value

def propertySet (flags : Flags) (name : PropertyName) (negated : Bool) (span : Span) :
    Except Fault CharSet :=
  if flags.repertoire = .ascii then .error { kind := .noUnicode, span }
  else
    match name.charSet with
    | .ok s => foldAndNegate flags negated span s
    | .error .property => .error { kind := .unknownProperty, span }
    | .error .value => .error { kind := .unknownValue, span }

/-- Without Unicode, two hexadecimal digits are a byte, which has to be in ASCII. -/
def Literal.check (flags : Flags) (l : Literal) : Except Fault Char :=
  if flags.repertoire = .ascii ∧ l.isByte ∧ 0x7F < l.char.toNat then
    .error { kind := .noUtf8, span := l.span }
  else .ok l.char

/-- Without Unicode, all characters of a class have to be in ASCII. -/
def Literal.member (flags : Flags) (l : Literal) : Except Fault Nat := do
  let c ← l.check flags
  if flags.repertoire = .ascii ∧ 0x7F < c.toNat then throw { kind := .noUnicode, span := l.span }
  return c.toNat

def SetOperation.apply (s t : CharSet) : SetOperation → CharSet
  | intersection => s.inter t
  | difference => s.diff t
  | symmetricDifference => (s.diff t).union (t.diff s)

mutual

def Members.charSet (flags : Flags) : Members → Except Fault CharSet
  | .none => .ok .empty
  | .literal l => return .single (Char.ofNat (← l.member flags))
  | .range low high => return .range (← low.member flags) (← high.member flags)
  | .letter kind negated span => letterSet flags kind negated span
  | .property name negated span => propertySet flags name negated span
  | .named ranges negated span => foldAndNegate flags negated span (.ofRanges ranges)
  | .bracket inner negated span => do foldAndNegate flags negated span (← inner.charSet flags)
  | .union items _ => unionSet flags items
  | .combine operation left right _ => do
    let fold (s : CharSet) : CharSet := if flags.ignoreCase then s.foldCase flags.repertoire else s
    return operation.apply (fold (← left.charSet flags)) (fold (← right.charSet flags))

def unionSet (flags : Flags) : List Members → Except Fault CharSet
  | [] => .ok .empty
  | m :: items => return (← m.charSet flags).union (← unionSet flags items)

end

def dotSet (flags : Flags) (span : Span) : Except Fault CharSet :=
  if flags.repertoire = .ascii then .error { kind := .noUtf8, span }
  else if flags.dotAll then .ok .any
  else
    match flags.ending with
    | .newline => .ok (CharSet.complement (.single '\n'))
    | .any => .ok (CharSet.complement (.ofRanges [(0x0A, 0x0A), (0x0D, 0x0D)]))

def Assertion.toPlace (flags : Flags) : Assertion → Place
  | lineStart => if flags.multiLine then .lineStart flags.ending else .textStart
  | lineStop => if flags.multiLine then .lineStop flags.ending else .textStop
  | textStart => .textStart
  | textStop => .textStop
  | word edge => .word edge flags.repertoire

def Atom.pattern (flags : Flags) (a : Atom) : Except Fault Pattern :=
  match a.kind with
  | .literal l => do
    let s := CharSet.single (← l.check flags)
    return .one (if flags.ignoreCase then s.foldCase flags.repertoire else s)
  | .letter kind negated => return .one (← letterSet flags kind negated a.span)
  | .property name negated => return .one (← propertySet flags name negated a.span)
  | .assertion assertion => return .place (assertion.toPlace flags)

mutual

def Tree.pattern (flags : Flags) : Tree → Except Fault (Pattern × Flags)
  | .blank => .ok (.blank, flags)
  | .flags changes => .ok (.blank, flags.changes changes)
  | .atom a => return (← a.pattern flags, flags)
  | .dot span => return (.one (← dotSet flags span), flags)
  | .bracket inner negated span => do
    return (.one (← foldAndNegate flags negated span (← inner.charSet flags)), flags)
  | .times tree least most _ => do
    let (p, flags) ← tree.pattern flags
    return (p.repeated least most, flags)
  | .group tree isKept changes _ => do
    let p := (← tree.pattern (flags.changes changes)).1
    return (if isKept then .group p else p, flags)
  | .sequence trees _ => do
    let (ps, flags) ← patterns [] flags trees
    return (.sequence ps, flags)
  | .choice trees _ => do
    let (ps, flags) ← patterns [] flags trees
    return (.choice ps, flags)

def patterns (done : List Pattern) (flags : Flags) :
    List Tree → Except Fault (List Pattern × Flags)
  | [] => .ok (done.reverse, flags)
  | tree :: trees => do
    let (p, flags) ← tree.pattern flags
    patterns (p :: done) flags trees

end

def read (text : Text) : Except Fault Pattern := do
  let tree ← Tree.read text
  tree.checkNesting 0
  return (← tree.pattern {}).1

inductive Refusal
  | fault (e : Fault)
  | tooLarge
deriving DecidableEq, Repr

def Refusal.message (source : Text) : Refusal → String
  | fault e => e.message source
  | tooLarge => "Compiled regex exceeds size limit of " ++ Decimal.toString sizeLimit ++ " bytes."

/-- The pattern that a text spells. -/
def parse (text : Text) : Except Refusal Pattern :=
  match read text with
  | .error e => .error (.fault e)
  | .ok p => if p.size ≤ sizeLimit then .ok p else .error .tooLarge

end SyscallNames.Pattern
