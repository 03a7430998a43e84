import SyscallNames.Decimal

set_option autoImplicit false

namespace SyscallNames

inductive Errno
  | noEntry
  | notDirectory
  | isDirectory
  | noSpace
  | brokenPipe
  | nameTooLong
deriving DecidableEq, Repr

namespace Errno

def number : Errno → Nat
  | .noEntry => 2
  | .notDirectory => 20
  | .isDirectory => 21
  | .noSpace => 28
  | .brokenPipe => 32
  | .nameTooLong => 36

def description : Errno → String
  | .noEntry => "No such file or directory"
  | .notDirectory => "Not a directory"
  | .isDirectory => "Is a directory"
  | .noSpace => "No space left on device"
  | .brokenPipe => "Broken pipe"
  | .nameTooLong => "File name too long"

def all : List Errno :=
  [.noEntry, .notDirectory, .isDirectory, .noSpace, .brokenPipe, .nameTooLong]

def ofNumber? (n : Nat) : Option Errno := all.find? fun e => e.number = n

end Errno

inductive IoError
  | system (errno : Errno)
  | nulInPath
  | nothingTaken
  | other (text : String)
deriving DecidableEq, Repr

def IoError.message : IoError → String
  | .system errno =>
    errno.description ++ " (os error " ++ Decimal.toString errno.number ++ ")"
  | .nulInPath => "file name contained an unexpected NUL byte"
  | .nothingTaken => "failed to write whole buffer"
  | .other text => text

end SyscallNames
