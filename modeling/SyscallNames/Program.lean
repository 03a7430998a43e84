import SyscallNames.CommandLine.Help
import SyscallNames.CommandLine.Parser
import SyscallNames.FileTree
import SyscallNames.Listing
import SyscallNames.Log.Filter
import SyscallNames.Report.Json

set_option autoImplicit false

namespace SyscallNames

inductive Tone
  | warning
  | failure
deriving DecidableEq, Repr

/-- What appears on the standard error: log records, if they are shown, and notices, always. -/
inductive Event
  | record (r : Log.Record)
  | notice (tone : Tone) (message : String)
deriving DecidableEq, Repr

structure View where
  colored : Bool := false
  /-- The text of a log record. A log that is colored may have one of its own. -/
  record : Log.Record → String := Log.Record.render

def Tone.paint (tone : Tone) (message : String) : String :=
  (match tone with
    | .warning => "\x1b[33m"
    | .failure => "\x1b[31m") ++ message ++ "\x1b[39m"

namespace Event

def isShown (filter : Log.Filter) : Event → Bool
  | .record r => filter.shows r
  | .notice _ _ => true

def render (view : View) : Event → String
  | .record r => view.record r
  | .notice tone message =>
    "\n" ++ (if view.colored then tone.paint message else message) ++ "\n\n"

def commandLine (level : Log.Level) (message : String) : Event :=
  .record { level, origin := .commandLine, message }

def extraction (level : Log.Level) (message : String) : Event :=
  .record { level, origin := .extraction, message }

def failure (message : String) : Event := .notice .failure ("Error: " ++ message)

def renderAll (filter : Log.Filter) (events : List Event) (view : View := {}) : String :=
  String.join ((events.filter (isShown filter)).map (render view))

end Event

inductive Mode
  | lines
  | count
  | json (layout : Json.Layout)
deriving DecidableEq, Repr

structure Outcome where
  exitCode : Nat
  output : Sink
  events : List Event

structure LogSetup where
  filter : Log.Filter
  faults : List Log.FilterFault := []
deriving DecidableEq, Repr

def LogSetup.warnings (log : LogSetup) : String :=
  String.join (log.faults.map Log.FilterFault.render)

def Outcome.errorText (log : LogSetup) (outcome : Outcome) (view : View := {}) : String :=
  log.warnings ++ Event.renderAll log.filter outcome.events view

structure Job where
  template : Template
  mode : Mode
  source : Source
  idlePretty : Bool
deriving DecidableEq, Repr

namespace Job

def modeOf (options : Options) : Mode :=
  if options.json then .json (if options.pretty then .indented else .compact)
  else if options.count then .count
  else .lines

def ofTemplate (options : Options) (template : Template) : Job where
  template
  mode := modeOf options
  source := Source.ofArgument options.file
  idlePretty := options.pretty && !options.json

/-- The template is read before all else, so that a bad one is refused whatever the input is. -/
def ofOptions (options : Options) : Except TemplateError Job :=
  (Template.parse options.format).map (ofTemplate options)

def refusal (format : Text) (error : TemplateError) : Event :=
  .failure ("Invalid --output-format: " ++ error.message format)

def shownSource (job : Job) : String := String.ofList job.source.display

def opening (job : Job) : List Event :=
  .commandLine .debug ("Using output template '" ++ String.ofList job.template.source ++ "'") ::
    (if job.idlePretty then [.notice .warning "--pretty has no effect without --json"] else []) ++
    [.commandLine .info ("Scanning " ++ job.shownSource),
      .extraction .info (match job.source with
        | .stdin => "Reading input from stdin"
        | .file _ => "Reading input file " ++ job.shownSource)]

def readFailure (source : Source) (error : IoError) : String :=
  match source with
  | .stdin => "Failed to read from stdin: " ++ error.message
  | .file path =>
    "Failed to read input file '" ++ String.ofList (Utf8.decodeLossy path) ++ "': " ++ error.message

def findings (job : Job) (size : Nat) (declarations : List Declaration) : List Event :=
  let count := Decimal.toString declarations.length
  [.extraction .debug
      ("Extracted " ++ count ++ " syscall declarations from " ++ Decimal.toString size ++ " bytes"),
    .commandLine .info
      (if declarations = [] then "No syscall declarations found in " ++ job.shownSource
      else "Found " ++ count ++ " syscall declarations in " ++ job.shownSource)]

def writeLine (text : Text) : Output Unit := do
  Sink.put (Utf8.encode text)
  Sink.put [Declaration.newline]
  Sink.flush

def write (job : Job) (declarations : List Declaration) : Output Unit :=
  match job.mode with
  | .lines => Listing.write job.template declarations
  | .count => writeLine (Decimal.digits declarations.length)
  | .json layout => writeLine ((Report.ofDeclarations job.source declarations).toJson layout)

def bufferSize : Nat := 8192

/-- A reader of the output that has gone away is no failure. -/
def finishWriting (job : Job) (declarations : List Declaration) (device : Sink) :
    Nat × Sink × List Event :=
  match job.write declarations { device with capacity := bufferSize } with
  | .ok () sink => (0, sink, [])
  | .error (.system .brokenPipe) sink =>
    (0, sink, [.commandLine .debug
      ("Stdout closed early: " ++ (IoError.system .brokenPipe).message)])
  | .error e sink => (1, sink, [.failure ("Failed to write output: " ++ e.message)])

def finish (job : Job) (input : Except IoError Bytes) (device : Sink) : Outcome :=
  match input with
  | .error e =>
    { exitCode := 1, output := device, events := [.failure (readFailure job.source e)] }
  | .ok text =>
    let declarations := Declaration.extract text
    let (exitCode, output, events) := job.finishWriting declarations device
    { exitCode, output, events := job.findings text.length declarations ++ events }

end Job

/-- A whole run: `read` says what reading a source gives. -/
def execute (options : Options) (read : Source → Except IoError Bytes) (device : Sink) : Outcome :=
  match Job.ofOptions options with
  | .error e =>
    { exitCode := 1, output := device, events := [Job.refusal options.format e] }
  | .ok job =>
    let outcome := job.finish (read job.source) device
    { outcome with events := job.opening ++ outcome.events }

def readFrom (stdin : Except IoError Bytes) (files : Bytes → Except IoError Bytes) :
    Source → Except IoError Bytes
  | .stdin => stdin
  | .file path => files path

instance : Coe FileTree (Bytes → Except IoError Bytes) := ⟨FileTree.read⟩

/-- The log that the environment asks for, or else the one for the verbosity. -/
def logSetup (spec : Option Text) (options : Options) : LogSetup :=
  match spec with
  | some spec =>
    let (filter, faults) := Log.Filter.parse spec
    { filter, faults }
  | none => { filter := Log.Filter.ofVerbosity options.verbose }

end SyscallNames
