import SyscallNames.Hexadecimal

set_option autoImplicit false

namespace SyscallNames.Unicode

def readRow (row : String) : List (List Nat) :=
  (row.toList.splitOn ' ').map fun entry => (entry.splitOn '-').map Hexadecimal.value

def readRows (rows : List String) : List (List Nat) := rows.flatMap readRow

/-- Ranges of code points: their two ends, or the only member. -/
def readRanges (rows : List String) : List (Nat × Nat) :=
  (readRows rows).filterMap fun entry =>
    match entry with
    | [only] => some (only, only)
    | [low, high] => some (low, high)
    | _ => none

end SyscallNames.Unicode
