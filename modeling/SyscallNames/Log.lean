import SyscallNames.ControlSequence

set_option autoImplicit false

namespace SyscallNames.Log

inductive Level
  | error
  | warn
  | info
  | debug
  | trace
deriving DecidableEq, Repr

inductive Origin
  | commandLine
  | extraction
deriving DecidableEq, Repr

structure Record where
  level : Level
  origin : Origin
  message : String
deriving DecidableEq, Repr

def Level.rank : Level → Nat
  | .error => 1
  | .warn => 2
  | .info => 3
  | .debug => 4
  | .trace => 5

def Level.label : Level → String
  | .error => "ERROR"
  | .warn => "WARN "
  | .info => "INFO "
  | .debug => "DEBUG"
  | .trace => "TRACE"

def Origin.target : Origin → String
  | .commandLine => "syscall_list::cli"
  | .extraction => "syscall_list::extractor"

/-- The lines of a message after the first are indented by four blanks. -/
def indent (message : String) : String :=
  String.ofList (message.toList.flatMap fun c => if c = '\n' then "\n    ".toList else [c])

def Record.line (r : Record) : String :=
  "[" ++ r.level.label ++ " " ++ r.origin.target ++ "] " ++ indent r.message ++ "\n"

/-- The text of a record. Its last newline is taken out too if it stands in a control sequence. -/
def Record.render (r : Record) : String := String.ofList (ControlSequence.strip r.line.toList)

end SyscallNames.Log
