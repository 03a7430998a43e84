import SyscallNames.CommandLine.Basic

set_option autoImplicit false

namespace SyscallNames.CommandLine

/-- A value that has been put by. -/
inductive Pending
  | nothing
  | format (value : Option Bytes)
  | file (path : Bytes)
deriving DecidableEq, Repr

/-- The settings so far; behind a double hyphen there are no flags. -/
structure Progress where
  verbose : Nat := 0
  file : Option Bytes := none
  format : Option Text := none
  json : Bool := false
  pretty : Bool := false
  count : Bool := false
  pending : Pending := .nothing
  plain : Bool := false
deriving DecidableEq, Repr

def hyphen : UInt8 := 0x2D
def equals : UInt8 := 0x3D

def maxVerbose : Nat := 255

namespace Progress

def fail {α : Type} (m : Misuse) : Except Stop α := .error (.misuse m)

def setFormat (p : Progress) (value : Bytes) : Except Stop Progress :=
  if p.format.isSome then fail .argumentConflict
  else match Utf8.decode? value with
    | none => fail .invalidUtf8
    | some format => .ok { p with format := some format }

/-- Takes up the value that has been put by. -/
def settle (p : Progress) : Except Stop Progress :=
  let q := { p with pending := .nothing }
  match p.pending with
  | .nothing => .ok q
  | .format none => fail .invalidValue
  | .format (some value) => q.setFormat value
  | .file path => if path = [] then fail .invalidValue else .ok { q with file := some path }

def setFlag (p : Progress) : Flag → Except Stop Progress
  | .verbose => .ok { p with verbose := min (p.verbose + 1) maxVerbose }
  | .format => .ok { p with pending := .format none }
  | .json => if p.json then fail .argumentConflict else .ok { p with json := true }
  | .pretty => if p.pretty then fail .argumentConflict else .ok { p with pretty := true }
  | .count => if p.count then fail .argumentConflict else .ok { p with count := true }
  | .help long => .error (.help long)
  | .version => .error .version

def readFlag (p : Progress) (flag : Flag) : Except Stop Progress := do
  (← p.settle).setFlag flag

def readFormat (p : Progress) (value : Bytes) : Except Stop Progress := do
  (← p.settle).setFormat value

def readLong (p : Progress) (text : Bytes) : Except Stop Progress :=
  match Flag.ofLong? (text.takeWhile (· ≠ equals)), text.dropWhile (· ≠ equals) with
  | none, _ => fail .unknownArgument
  | some flag, [] => p.readFlag flag
  | some .format, _ :: value => p.readFormat value
  | some _, _ :: _ => fail .tooManyValues

/-- The letters behind one hyphen. What follows the format letter is its value, and an equals sign
in between is dropped. -/
def readShort (p : Progress) : Bytes → Except Stop Progress
  | [] => .ok p
  | letter :: rest =>
    match Flag.ofShort? letter with
    | none => fail .unknownArgument
    | some .format =>
      match rest with
      | [] => p.readFlag .format
      | b :: value => p.readFormat (if b = equals then value else b :: value)
    | some flag =>
      match p.readFlag flag with
      | .error e => .error e
      | .ok p => p.readShort rest

def hasFile (p : Progress) : Bool :=
  match p.pending with
  | .file _ => true
  | _ => p.file.isSome

def readPlain (p : Progress) (argument : Bytes) : Except Stop Progress :=
  if p.hasFile then fail .unknownArgument
  else do return { ← p.settle with pending := .file argument }

def readValue (p : Progress) (argument : Bytes) : Except Stop Progress :=
  if p.pending = .format none then .ok { p with pending := .format (some argument) }
  else p.readPlain argument

def readArgument (p : Progress) (argument : Bytes) : Except Stop Progress :=
  if p.plain then p.readPlain argument
  else match argument with
    | a :: b :: rest =>
      if a = hyphen ∧ b = hyphen then
        if rest = [] then .ok { p with plain := true } else p.readLong rest
      else if a = hyphen then p.readShort (b :: rest)
      else p.readValue argument
    | _ => p.readValue argument

def finish (p : Progress) : Except Stop Options := do
  let p ← p.settle
  if p.json && p.count then fail .argumentConflict
  else
    return {
      verbose := p.verbose
      file := p.file
      format := p.format.getD ['{', '}']
      json := p.json
      pretty := p.pretty
      count := p.count }

end Progress

def parse (arguments : List Bytes) : Except Stop Options := do
  (← arguments.foldlM Progress.readArgument {}).finish

end SyscallNames.CommandLine
