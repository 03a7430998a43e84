import SyscallNames.Pattern.Basic

set_option autoImplicit false

namespace SyscallNames.Pattern

def stateSize : Nat := 32
def choiceSize : Nat := 4
def rangeSize : Nat := 8

def lengthLimits : List Nat := [0x7F, 0x7FF, 0xFFFF]

/-- Where a range has to be cut so that, of its characters, each byte goes through a range of its
own: behind the point that is given. -/
def cut? (low high : Nat) : Option Nat :=
  (lengthLimits.find? fun limit => low ≤ limit && limit < high).orElse fun _ =>
    if high ≤ 0x7F then none
    else
      [0x40, 0x1000, 0x40000].findSome? fun block =>
        if low / block = high / block then none
        else if low % block ≠ 0 then some (low / block * block + block - 1)
        else if high % block ≠ block - 1 then some (high / block * block - 1)
        else none

def byteRanges (low high : Nat) : List (List (UInt8 × UInt8)) :=
  match cut? low high with
  | none =>
    [(String.utf8EncodeChar (Char.ofNat low)).zip (String.utf8EncodeChar (Char.ofNat high))]
  | some cut =>
    if low ≤ cut ∧ cut < high then byteRanges low cut ++ byteRanges (cut + 1) high else []
termination_by high - low
decreasing_by all_goals omega

def commonLength {α : Type} [DecidableEq α] : List α → List α → Nat
  | a :: as, b :: bs => if a = b then 1 + commonLength as bs else 0
  | _, _ => 0

/-- How many items lists have when those at the start of neighbours are shared. -/
def sharedCount {α : Type} [DecidableEq α] : List (List α) → Nat
  | [] => 0
  | [items] => items.length
  | items :: next :: rest =>
    items.length - commonLength items next + sharedCount (next :: rest)

def leafCount {α : Type} [DecidableEq α] : List (List α) → Nat
  | [] => 0
  | [_] => 1
  | items :: next :: rest =>
    (if items.isPrefixOf next then 0 else 1) + leafCount (next :: rest)

def surrogates : CharSet := .range 0xD800 0xDFFF

def setSize (s : CharSet) : Nat :=
  match s.ranges with
  | [] => stateSize
  | [(low, high)] =>
    if low = high then stateSize * (String.utf8EncodeChar (Char.ofNat low)).length
    else if high ≤ 0x7F then 2 * stateSize + rangeSize
    else wideSize
  | rs => if rs.all (·.2 ≤ 0x7F) then 2 * stateSize + rangeSize * rs.length else wideSize
where
  wideSize : Nat :=
    let all := (s.diff surrogates).ranges.flatMap fun (low, high) => byteRanges low high
    stateSize * (2 + sharedCount all) + choiceSize * all.length

def mayBeEmpty : Pattern → Bool
  | blank => true
  | place _ => true
  | one _ => false
  | seq p q => p.mayBeEmpty && q.mayBeEmpty
  | either p q => p.mayBeEmpty || q.mayBeEmpty
  | times p least _ => least = 0 || p.mayBeEmpty
  | group p => p.mayBeEmpty

def timesSize (mayBeEmpty : Bool) (size least : Nat) : Option Nat → Nat
  | some most =>
    let optional := size + stateSize + 2 * choiceSize
    least * size + if least < most then (most - least) * optional + stateSize else 0
  | none =>
    if least = 0 ∧ mayBeEmpty then size + 3 * stateSize + 4 * choiceSize
    else max least 1 * size + stateSize + 2 * choiceSize

/-- The bytes of the only text that the pattern matches, if it is spelled out. -/
def literal? : Pattern → Option (List UInt8)
  | blank => some []
  | one s =>
    match s.ranges with
    | [(low, high)] =>
      if low = high then some (String.utf8EncodeChar (Char.ofNat low)) else none
    | _ => none
  | seq p q => do return (← p.literal?) ++ (← q.literal?)
  | _ => none

def branches : Pattern → List Pattern
  | either p q => p.branches ++ q.branches
  | p => [p]

def words? (ps : List Pattern) : Option (List (List UInt8)) :=
  (ps.mapM literal?).filter fun words => words.all (· ≠ [])

def treeSize (words : List (List UInt8)) : Nat :=
  let sorted := words.mergeSort fun a b => a ≤ b
  let leaves := leafCount sorted
  let inner := sharedCount sorted + 1 - leaves
  stateSize + inner * (2 * stateSize + choiceSize) + (leaves - 1) * (2 * rangeSize)

/-- The size of a choice between words, read from their starts or from their ends. -/
def wordsSize (words : List (List UInt8)) : Nat :=
  max (treeSize words) (treeSize (words.map List.reverse))

def partSize (isBranch : Bool) : Pattern → Nat
  | blank => if isBranch then stateSize + choiceSize else 0
  | place _ => stateSize + branchSize
  | one s => setSize s + branchSize
  | seq p q => p.partSize false + q.partSize false + branchSize
  | either p q =>
    if isBranch then p.partSize true + q.partSize true
    else
      match words? (p.branches ++ q.branches) with
      | some words => wordsSize words
      | none => p.partSize true + q.partSize true + 2 * stateSize
  | times p least most => timesSize p.mayBeEmpty (p.partSize false) least most + branchSize
  | group p => p.partSize false + 2 * stateSize + branchSize
where
  branchSize : Nat := if isBranch then choiceSize else 0

/-- What is around the automaton of a pattern: any bytes may be in front of the part that matches,
and this part has a start, a stop and an end. -/
def frameSize : Nat := 6 * stateSize + rangeSize + 2 * choiceSize

def size (p : Pattern) : Nat := p.partSize false + frameSize

def sizeLimit : Nat := 10 * 1024 * 1024

end SyscallNames.Pattern
