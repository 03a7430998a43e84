import SyscallNames.Decimal

set_option autoImplicit false

namespace SyscallNames.Pattern

inductive FaultKind
  | groupUnclosed
  | groupUnopened
  | groupNameUnclosed
  | groupNameEmpty
  | groupNameInvalid
  | groupNameTwice
  | flagUnknown
  | flagTwice
  | flagsUnfinished
  | negationTwice
  | negationDangling
  | repetitionMissing
  | countUnclosed
  | countMissing
  | countTooLarge
  | countsReversed
  | classUnclosed
  | rangeReversed
  | rangeBoundary
  | classMember
  | escapeUnfinished
  | escapeUnknown
  | hexadecimalEmpty
  | hexadecimalDigit
  | hexadecimalValue
  | wordEdgeUnclosed
  | wordEdgeUnknown
  | wordEdgeUnfinished
  | propertyName
  | backreference
  | lookAround
  | nesting (limit : Nat)
  | noUnicode
  | noUtf8
  | unknownProperty
  | unknownValue
deriving DecidableEq, Repr

structure Span where
  start : Nat
  stop : Nat
deriving DecidableEq, Repr

structure Fault where
  kind : FaultKind
  span : Span
  earlier : Option Span := none
deriving DecidableEq, Repr

def FaultKind.message : FaultKind → String
  | groupUnclosed => "unclosed group"
  | groupUnopened => "unopened group"
  | groupNameUnclosed => "unclosed capture group name"
  | groupNameEmpty => "empty capture group name"
  | groupNameInvalid => "invalid capture group character"
  | groupNameTwice => "duplicate capture group name"
  | flagUnknown => "unrecognized flag"
  | flagTwice => "duplicate flag"
  | flagsUnfinished => "expected flag but got end of regex"
  | negationTwice => "flag negation operator repeated"
  | negationDangling => "dangling flag negation operator"
  | repetitionMissing => "repetition operator missing expression"
  | countUnclosed => "unclosed counted repetition"
  | countMissing => "repetition quantifier expects a valid decimal"
  | countTooLarge => "decimal literal invalid"
  | countsReversed => "invalid repetition count range, the start must be <= the end"
  | classUnclosed => "unclosed character class"
  | rangeReversed => "invalid character class range, the start must be <= the end"
  | rangeBoundary => "invalid range boundary, must be a literal"
  | classMember => "invalid escape sequence found in character class"
  | escapeUnfinished => "incomplete escape sequence, reached end of pattern prematurely"
  | escapeUnknown => "unrecognized escape sequence"
  | hexadecimalEmpty => "hexadecimal literal empty"
  | hexadecimalDigit => "invalid hexadecimal digit"
  | hexadecimalValue => "hexadecimal literal is not a Unicode scalar value"
  | wordEdgeUnclosed =>
    "special word boundary assertion is either unclosed or contains an invalid character"
  | wordEdgeUnknown =>
    "unrecognized special word boundary assertion, valid choices are: start, end, start-half "
      ++ "or end-half"
  | wordEdgeUnfinished =>
    "found either the beginning of a special word boundary or a bounded repetition on a \\b with "
      ++ "an opening brace, but no closing brace"
  | propertyName => "invalid Unicode character class"
  | backreference => "backreferences are not supported"
  | lookAround => "look-around, including look-ahead and look-behind, is not supported"
  | nesting limit =>
    "exceed the maximum number of nested parentheses/brackets (" ++ Decimal.toString limit ++ ")"
  | noUnicode => "Unicode not allowed here"
  | noUtf8 => "pattern can match invalid UTF-8"
  | unknownProperty => "Unicode property not found"
  | unknownValue => "Unicode property value not found"

def lineOf (source : Text) (offset : Nat) : Nat := (source.take offset).count '\n'

def columnOf (source : Text) (offset : Nat) : Nat :=
  ((source.take offset).reverse.takeWhile (· ≠ '\n')).length

def dropReturn (line : Text) : Text :=
  if line.getLast? = some '\r' then line.dropLast else line

/-- The lines of a text, without what ends them. A carriage return is a part of the end only in
front of a newline, and behind the last newline there is a line only if it is not empty. -/
def linesOf (source : Text) : List Text :=
  let parts := source.splitOnP (· = '\n')
  parts.dropLast.map dropReturn ++ parts.getLast?.toList.filter (· ≠ [])

/-- Marks under columns, from the column `position` on; every mark is at least one wide. -/
def marks (position : Nat) : List Span → Text
  | [] => []
  | s :: spans =>
    let width := max 1 (s.stop - s.start)
    List.replicate (s.start - position) ' ' ++ List.replicate width '^'
      ++ marks (max position s.start + width) spans

namespace Fault

def spans (e : Fault) : List Span :=
  match e.earlier with
  | none => [e.span]
  | some s => if s.start ≤ e.span.start then [s, e.span] else [e.span, s]

def columnsIn (source : Text) (line : Nat) (e : Fault) : List Span :=
  (e.spans.filter fun s => lineOf source s.start = line && lineOf source s.stop = line).map fun s =>
    { start := columnOf source s.start, stop := columnOf source s.stop }

def showLine (source margin : Text) (number : Nat) (line : Text) (e : Fault) : Text :=
  let columns := e.columnsIn source number
  margin ++ line ++ ['\n'] ++
    if columns = [] then [] else List.replicate margin.length ' ' ++ marks 0 columns ++ ['\n']

def margin (width number : Nat) : Text :=
  let digits := Decimal.digits (number + 1)
  List.replicate (width - digits.length) ' ' ++ digits ++ [':', ' ']

/-- The places that reach over several lines, each in a line of its own. -/
def longSpans (source : Text) (e : Fault) : Text :=
  (e.spans.filter fun s => lineOf source s.start ≠ lineOf source s.stop).flatMap fun s =>
    ("on line " ++ Decimal.toString (lineOf source s.start + 1)
      ++ " (column " ++ Decimal.toString (columnOf source s.start + 1)
      ++ ") through line " ++ Decimal.toString (lineOf source s.stop + 1)
      ++ " (column " ++ Decimal.toString (columnOf source s.stop) ++ ")\n").toList

def excerpt (source : Text) (e : Fault) : Text :=
  let lines := linesOf source
  if source.contains '\n' then
    let count := lines.length + if source.getLast? = some '\n' then 1 else 0
    let width := (Decimal.digits count).length
    let ruler := List.replicate 79 '~' ++ ['\n']
    ruler ++ (lines.zipIdx.flatMap fun (line, number) =>
      e.showLine source (margin width number) number line) ++ ruler ++ e.longSpans source
  else lines.flatMap fun line => e.showLine source [' ', ' ', ' ', ' '] 0 line

def message (source : Text) (e : Fault) : String :=
  "regex parse error:\n" ++ String.ofList (e.excerpt source) ++ "error: " ++ e.kind.message

end Fault
end SyscallNames.Pattern
