import SyscallNames.Utf8

set_option autoImplicit false

namespace SyscallNames

inductive Source
  | stdin
  | file (path : Bytes)
deriving DecidableEq, Repr

namespace Source

def hyphen : Bytes := [0x2D]

def ofArgument : Option Bytes → Source
  | none => stdin
  | some path => if path = hyphen then stdin else file path

def display : Source → Text
  | .stdin => "<stdin>".toList
  | .file path => Utf8.decodeLossy path

end Source
end SyscallNames
