import SyscallNames.Utf8

set_option autoImplicit false

namespace SyscallNames.Hexadecimal

def digit? (c : Char) : Option Nat :=
  if '0' ≤ c ∧ c ≤ '9' then some (c.toNat - 48)
  else if 'a' ≤ c ∧ c ≤ 'f' then some (c.toNat - 87)
  else if 'A' ≤ c ∧ c ≤ 'F' then some (c.toNat - 55)
  else none

def value (ds : Text) : Nat := ds.foldl (fun n c => n * 16 + (digit? c).getD 0) 0

end SyscallNames.Hexadecimal
