import SyscallNames.Pattern.Basic

set_option autoImplicit false

namespace SyscallNames

/-- A pattern with marks, and with its repetitions written out. -/
inductive Marked
  | blank
  | place (p : Place)
  | one (s : CharSet) (mark : Bool)
  | seq (p q : Marked)
  | either (p q : Marked)
  | many (p : Marked)

namespace Marked

def matchesEmpty (g : Gap) : Marked → Bool
  | blank => true
  | place p => p.holds g
  | one _ _ => false
  | seq p q => p.matchesEmpty g && q.matchesEmpty g
  | either p q => p.matchesEmpty g || q.matchesEmpty g
  | many _ => true

def isDone (g : Gap) : Marked → Bool
  | blank => false
  | place _ => false
  | one _ mark => mark
  | seq p q => q.isDone g || (p.isDone g && q.matchesEmpty g)
  | either p q => p.isDone g || q.isDone g
  | many p => p.isDone g

/-- Moves the marks over the character `c` behind the gap `g`. If `enter` holds, a mark also comes
in at the start of the pattern. -/
def advance (g : Gap) (c : Char) (enter : Bool) : Marked → Marked
  | blank => blank
  | place p => place p
  | one s _ => one s (enter && s.contains c)
  | seq p q =>
    seq (p.advance g c enter) (q.advance g c (p.isDone g || (enter && p.matchesEmpty g)))
  | either p q => either (p.advance g c enter) (q.advance g c enter)
  | many p => many (p.advance g c (enter || p.isDone g))

def power (p : Marked) (count : Nat) : Marked :=
  if count = 0 then blank
  else if count = 1 then p
  -- Halves keep the tree flat, so that one step over it stays cheap.
  else seq (p.power (count / 2)) (p.power (count - count / 2))
termination_by count
decreasing_by all_goals omega

def ofPattern : Pattern → Marked
  | .blank => blank
  | .place p => place p
  | .one s => one s false
  | .seq p q => seq (ofPattern p) (ofPattern q)
  | .either p q => either (ofPattern p) (ofPattern q)
  | .times p least none => seq ((ofPattern p).power least) (many (ofPattern p))
  | .times p least (some most) =>
    seq ((ofPattern p).power least) ((either (ofPattern p) blank).power (most - least))
  | .group p => ofPattern p

/-- Whether a part of what has been read ends here and matches, or will do so in the rest. In every
gap, another part may start. -/
def occursFrom (p : Marked) (before : Option Char) : Text → Bool
  | [] => p.isDone ⟨before, none⟩ || p.matchesEmpty ⟨before, none⟩
  | c :: rest =>
    let g : Gap := ⟨before, some c⟩
    p.isDone g || p.matchesEmpty g || occursFrom (p.advance g c true) (some c) rest

end Marked

/-- Whether some part of the text matches the pattern. -/
def Pattern.occursIn (p : Pattern) (text : Text) : Bool :=
  (Marked.ofPattern p).occursFrom none text

end SyscallNames
