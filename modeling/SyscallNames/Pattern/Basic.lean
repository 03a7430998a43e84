import SyscallNames.CharSet
import SyscallNames.Unicode.Property

set_option autoImplicit false

namespace SyscallNames

inductive WordEdge
  | boundary
  | noBoundary
  | start
  | stop
  | startHalf
  | stopHalf
deriving DecidableEq, Repr

inductive LineEnding
  | newline
  | any
deriving DecidableEq, Repr

inductive Place
  | textStart
  | textStop
  | lineStart (ending : LineEnding)
  | lineStop (ending : LineEnding)
  | word (edge : WordEdge) (repertoire : Repertoire)
deriving DecidableEq, Repr

inductive Pattern
  | blank
  | place (p : Place)
  | one (s : CharSet)
  | seq (p q : Pattern)
  | either (p q : Pattern)
  /-- At least so many times, and at most so many if there is a bound. -/
  | times (p : Pattern) (least : Nat) (most : Option Nat)
  /-- The same, as a part of its own whose ends are kept. -/
  | group (p : Pattern)
deriving DecidableEq, Repr

/-- A gap in a text: the characters on its two sides, as far as there are any. -/
structure Gap where
  before : Option Char
  behind : Option Char
deriving DecidableEq, Repr

def asciiWord : CharSet := .ofRanges [(0x30, 0x39), (0x41, 0x5A), (0x5F, 0x5F), (0x61, 0x7A)]

def Repertoire.word : Repertoire → CharSet
  | ascii => asciiWord
  | unicode => Unicode.word

def WordEdge.holds (before behind : Bool) : WordEdge → Bool
  | boundary => before != behind
  | noBoundary => before == behind
  | start => !before && behind
  | stop => before && !behind
  | startHalf => !before
  | stopHalf => !behind

def Place.holds (g : Gap) : Place → Bool
  | textStart => g.before = none
  | textStop => g.behind = none
  | lineStart .newline => g.before = none || g.before = some '\n'
  | lineStop .newline => g.behind = none || g.behind = some '\n'
  | lineStart .any =>
    g.before = none || g.before = some '\n' || (g.before = some '\r' && g.behind ≠ some '\n')
  | lineStop .any =>
    g.behind = none || g.behind = some '\r' || (g.behind = some '\n' && g.before ≠ some '\r')
  | word edge repertoire =>
    edge.holds (g.before.any repertoire.word.contains) (g.behind.any repertoire.word.contains)

namespace Pattern

def never : Pattern := one .empty

def joinPairs (f : Pattern → Pattern → Pattern) : List Pattern → List Pattern
  | p :: q :: ps => f p q :: joinPairs f ps
  | ps => ps

theorem length_joinPairs_le (f : Pattern → Pattern → Pattern) (ps : List Pattern) :
    (joinPairs f ps).length ≤ ps.length := by
  fun_induction joinPairs f ps with
  | case1 p q ps ih => simp only [List.length_cons]; omega
  | case2 => simp

def joinAll (f : Pattern → Pattern → Pattern) (none : Pattern) : List Pattern → Pattern
  | [] => none
  | [p] => p
  | p :: q :: ps => joinAll f none (f p q :: joinPairs f ps)
termination_by ps => ps.length
decreasing_by
  have := length_joinPairs_le f ps
  simp only [List.length_cons]
  omega

def sequence (ps : List Pattern) : Pattern := joinAll seq blank ps

def set? : Pattern → Option CharSet
  | one s => some s
  | _ => none

/-- A choice between sets is their union. -/
def choice (ps : List Pattern) : Pattern :=
  match ps.mapM set? with
  | some sets => one (.unions sets)
  | none => joinAll either never ps

def isEmptyOnly : Pattern → Bool
  | blank => true
  | place _ => true
  | one _ => false
  | seq p q => p.isEmptyOnly && q.isEmptyOnly
  | either p q => p.isEmptyOnly && q.isEmptyOnly
  | times p least most => (least = 0 && most = some 0) || p.isEmptyOnly
  | group p => p.isEmptyOnly

def repeated (p : Pattern) (least : Nat) (most : Option Nat) : Pattern :=
  if p.isEmptyOnly then times p (min least 1) (some (min (most.getD 1) 1)) else times p least most

end Pattern
end SyscallNames
