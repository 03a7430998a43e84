import SyscallNames.CharSet
import SyscallNames.Pattern.Basic
import SyscallNames.Pattern.Fault

set_option autoImplicit false

namespace SyscallNames.Pattern

/-- A single character; `isByte` if it was written as two hexadecimal digits. -/
structure Literal where
  char : Char
  isByte : Bool := false
  span : Span

inductive LetterClass
  | digit
  | space
  | word
deriving DecidableEq, Repr

inductive PropertyName
  | alone (name : Text)
  | valued (name value : Text)
deriving DecidableEq, Repr

inductive Assertion
  | lineStart
  | lineStop
  | textStart
  | textStop
  | word (edge : WordEdge)
deriving DecidableEq, Repr

inductive AtomKind
  | literal (l : Literal)
  | letter (kind : LetterClass) (negated : Bool)
  | property (name : PropertyName) (negated : Bool)
  | assertion (a : Assertion)

structure Atom where
  kind : AtomKind
  span : Span

inductive SetOperation
  | intersection
  | difference
  | symmetricDifference
deriving DecidableEq, Repr

inductive Members
  | none
  | literal (l : Literal)
  | range (low high : Literal)
  | letter (kind : LetterClass) (negated : Bool) (span : Span)
  | property (name : PropertyName) (negated : Bool) (span : Span)
  /-- A set with a name of its own between colons. -/
  | named (ranges : List (Nat × Nat)) (negated : Bool) (span : Span)
  | bracket (inner : Members) (negated : Bool) (span : Span)
  | union (items : List Members) (span : Span)
  | combine (operation : SetOperation) (left right : Members) (span : Span)

inductive Flag
  | ignoreCase
  | multiLine
  | dotAll
  | swapGreed
  | unicode
  | anyLineEnding
  | verbose
deriving DecidableEq, Repr

structure FlagChange where
  flag : Flag
  on : Bool
deriving DecidableEq, Repr

inductive Tree
  | blank
  | flags (changes : List FlagChange)
  | atom (a : Atom)
  | dot (span : Span)
  | bracket (inner : Members) (negated : Bool) (span : Span)
  | times (tree : Tree) (least : Nat) (most : Option Nat) (span : Span)
  | group (tree : Tree) (isKept : Bool) (changes : List FlagChange) (span : Span)
  | sequence (trees : List Tree) (span : Span)
  | choice (trees : List Tree) (span : Span)

def Tree.start : Tree → Nat
  | atom a => a.span.start
  | dot s | bracket _ _ s | times _ _ _ s | group _ _ _ s | sequence _ s | choice _ s => s.start
  | blank | flags _ => 0

end SyscallNames.Pattern
