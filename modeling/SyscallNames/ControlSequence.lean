import SyscallNames.Utf8

set_option autoImplicit false

namespace SyscallNames.ControlSequence

inductive State
  | ground
  | escape
  | escapeIntermediate
  | parameters
  | deviceEntry
  | deviceParameters
  | deviceIntermediate
  | string
  | bellString
deriving DecidableEq, Repr

def isWithin (low high : Nat) (c : Char) : Bool := low ≤ c.toNat && c.toNat ≤ high

def isIntermediate (c : Char) : Bool := isWithin 0x20 0x2F c

/-- The byte `9C` counts wherever it stands, also inside of a character. -/
def endsString (c : Char) : Bool := (String.utf8EncodeChar c).contains 0x9C

namespace State

def advance (c : Char) : State → State
  | ground => ground
  | escape =>
    if isIntermediate c then escapeIntermediate
    else if c = '[' then parameters
    else if c = ']' then bellString
    else if c = 'P' then deviceEntry
    else if c = 'X' ∨ c = '^' ∨ c = '_' then string
    else if isWithin 0x30 0x7E c then ground
    else escape
  | escapeIntermediate => if isWithin 0x30 0x7E c then ground else escapeIntermediate
  | parameters => if isWithin 0x40 0x7E c then ground else parameters
  | deviceEntry =>
    if isIntermediate c then deviceIntermediate
    else if isWithin 0x30 0x3F c then deviceParameters
    else if isWithin 0x40 0x7E c then string
    else deviceEntry
  | deviceParameters =>
    if isIntermediate c then deviceIntermediate
    else if isWithin 0x3C 0x7E c then string
    else deviceParameters
  | deviceIntermediate => if isWithin 0x30 0x7E c then string else deviceIntermediate
  | string => if endsString c then ground else string
  | bellString => if c = '\x07' then ground else bellString

/-- The state behind a character that is not shown. In every state, two characters cancel the
sequence, and the escape character starts another one. -/
def next (c : Char) (s : State) : State :=
  if c = '\x18' ∨ c = '\x1A' then ground
  else if c = '\x1B' then escape
  else s.advance c

def shows (s : State) (c : Char) : Bool :=
  match s with
  | ground =>
    c = '\t' || c = '\n' || c = '\x0C' || c = '\r' || (0x20 ≤ c.toNat && c ≠ '\x7F')
  | escape | escapeIntermediate | parameters =>
    c = '\t' || c = '\n' || c = '\x0C' || c = '\r'
  | _ => false

end State

/-- Strips a text from the state `s` on. While characters are shown, they are taken to stand outside
of sequences; a character that needs more than one byte also ends the sequence around it. -/
def stripOnto (done : Text) (showing : Bool) (s : State) : Text → Text
  | [] => done.reverse
  | c :: rest =>
    if (if showing then .ground else s : State).shows c then
      stripOnto (c :: done) true (if c.toNat < 0x80 then s else .ground) rest
    else stripOnto done false (s.next c) rest

def strip (text : Text) : Text := stripOnto [] false .ground text

theorem stripOnto_of_shows (done : Text) (showing : Bool) (text : Text)
    (h : ∀ c ∈ text, State.ground.shows c) :
    stripOnto done showing .ground text = done.reverse ++ text := by
  induction text generalizing done showing with
  | nil => simp [stripOnto]
  | cons c rest ih =>
    have hc : State.ground.shows c = true := h c (by simp)
    rw [stripOnto, ite_self, ite_self, if_pos hc, ih _ _ fun d hd => h d (by simp [hd])]
    simp

theorem strip_of_shows (text : Text) (h : ∀ c ∈ text, State.ground.shows c) : strip text = text :=
  stripOnto_of_shows [] false text h

end SyscallNames.ControlSequence
