import SyscallNames.Declaration
import SyscallNames.Source

set_option autoImplicit false

namespace SyscallNames

structure Report where
  source : Text
  count : Nat
  declarations : List Declaration
deriving DecidableEq, Repr

def Report.ofDeclarations (source : Source) (declarations : List Declaration) : Report :=
  { source := source.display, count := declarations.length, declarations }

end SyscallNames
