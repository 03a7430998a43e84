import SyscallNames.Utf8

set_option autoImplicit false

namespace SyscallNames

structure Options where
  verbose : Nat := 0
  file : Option Bytes := none
  format : Text := ['{', '}']
  json : Bool := false
  pretty : Bool := false
  count : Bool := false
deriving DecidableEq, Repr

namespace CommandLine

inductive Misuse
  | unknownArgument
  | invalidValue
  | tooManyValues
  | argumentConflict
  | invalidUtf8
deriving DecidableEq, Repr

/-- Why reading a command line ends before its settings are known. -/
inductive Stop
  | help (long : Bool)
  | version
  | misuse (misuse : Misuse)
deriving DecidableEq, Repr

inductive Flag
  | verbose
  | format
  | json
  | pretty
  | count
  | help (long : Bool)
  | version
deriving DecidableEq, Repr

namespace Flag

def long : List (String × Flag) :=
  [("verbose", verbose), ("output-format", format), ("json", json), ("pretty", pretty),
    ("count", count), ("help", help true), ("version", version)]

def short : List (Char × Flag) :=
  [('v', verbose), ('f', format), ('c', count), ('h', help false), ('V', version)]

def ofLong? (name : Bytes) : Option Flag :=
  (long.find? fun entry => Utf8.encode entry.1.toList = name).map Prod.snd

def ofShort? (letter : UInt8) : Option Flag :=
  (short.find? fun entry => entry.1.toNat = letter.toNat).map Prod.snd

end Flag
end CommandLine
end SyscallNames
