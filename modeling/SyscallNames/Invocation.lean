import SyscallNames.Program

set_option autoImplicit false

namespace SyscallNames

structure Environment where
  logSpec : Option Bytes := none
  noColor : Bool := false
  terminal : Bool := false
  /-- The text of a log record. On a terminal the log may color it. -/
  record : Log.Record → String := Log.Record.render

namespace Environment

/-- The text that asks for a log. Bytes that are no text count as if nothing were set. -/
def logText (environment : Environment) : Option Text := environment.logSpec.bind Utf8.decode?

def view (environment : Environment) : View :=
  { colored := environment.terminal && !environment.noColor, record := environment.record }

end Environment

structure Invocation where
  options : Options
  stdin : Except IoError Bytes := .ok []
  /-- What reading the file under a path gives, whatever that is. -/
  files : Bytes → Except IoError Bytes := fun _ => .error (.system .noEntry)
  device : Sink := {}
  environment : Environment := {}

namespace Invocation

def input (i : Invocation) : Except IoError Bytes :=
  readFrom i.stdin i.files (Source.ofArgument i.options.file)

def outcome (i : Invocation) : Outcome := execute i.options (readFrom i.stdin i.files) i.device

def log (i : Invocation) : LogSetup := logSetup i.environment.logText i.options

def errorText (i : Invocation) : String := i.outcome.errorText i.log i.environment.view

end Invocation
end SyscallNames
