import SyscallNames.Log
import SyscallNames.Pattern.Marked
import SyscallNames.Pattern.Meaning

set_option autoImplicit false

namespace SyscallNames.Log

/-- Shows the records of the targets that start with a name, or of all targets, up to a rank. -/
structure Directive where
  name : Option Text := none
  limit : Nat
deriving DecidableEq, Repr

structure Filter where
  directives : List Directive
  pattern : Option Pattern := none
deriving DecidableEq, Repr

inductive FilterFault
  | tooManyParts (text : Text)
  | directive (text : Text)
  | pattern (source : Text) (refusal : Pattern.Refusal)
deriving DecidableEq, Repr

def FilterFault.message : FilterFault → String
  | .tooManyParts text => "invalid logging spec '" ++ String.ofList text ++ "' (too many '/'s)"
  | .directive text => "invalid logging spec '" ++ String.ofList text ++ "'"
  | .pattern source refusal => "invalid regex filter - " ++ refusal.message source

def FilterFault.render (e : FilterFault) : String :=
  "warning: " ++ e.message ++ ", ignoring it\n"

def limit? (name : Text) : Option Nat :=
  match String.ofList (name.map Char.toLower) with
  | "off" => some 0
  | "error" => some 1
  | "warn" => some 2
  | "info" => some 3
  | "debug" => some 4
  | "trace" => some 5
  | _ => none

def maxLimit : Nat := Level.trace.rank

def trim (text : Text) : Text :=
  let isBlank := Unicode.whiteSpace.contains
  ((text.dropWhile isBlank).reverse.dropWhile isBlank).reverse

namespace Directive

def parse (text : Text) : Except FilterFault Directive :=
  match text.splitOn '=' with
  | [part] =>
    match limit? part with
    | some limit => .ok { limit }
    | none => .ok { name := some part, limit := maxLimit }
  | [name, level] =>
    if trim level = [] then .ok { name := some name, limit := maxLimit }
    else
      match limit? (trim level) with
      | some limit => .ok { name := some name, limit }
      | none => .error (.directive (trim level))
  | _ => .error (.directive text)

def nameLength (d : Directive) : Nat := (d.name.getD []).length

def covers (d : Directive) (target : Text) : Bool := (d.name.getD []).isPrefixOf target

def insert (directives : List Directive) (d : Directive) : List Directive :=
  if directives.any (·.name = d.name) then
    directives.map fun e => if e.name = d.name then d else e
  else directives ++ [d]

/-- Of two the one with the longer name; the later, if the names have one length. -/
def prefer : Option Directive → Directive → Option Directive
  | none, d => some d
  | some best, d => if best.nameLength ≤ d.nameLength then some d else some best

end Directive

namespace Filter

def readDirectives (text : Text) : List Directive × List FilterFault :=
  (((text.splitOn ',').map trim).filter (· ≠ [])).foldl
    (fun (directives, faults) part =>
      match Directive.parse part with
      | .ok d => (Directive.insert directives d, faults)
      | .error e => (directives, faults ++ [e]))
    ([], [])

def ofDirectives (directives : List Directive) (pattern : Option Pattern) : Filter :=
  { directives := if directives = [] then [{ limit := Level.error.rank }] else directives, pattern }

/-- A filter from its text: directives between commas and, behind a slash, a pattern. What is at
fault is passed over. -/
def parse (text : Text) : Filter × List FilterFault :=
  match text.splitOn '/' with
  | [part] =>
    let (directives, faults) := readDirectives part
    (ofDirectives directives none, faults)
  | [part, source] =>
    let (directives, faults) := readDirectives part
    match Pattern.parse source with
    | .ok pattern => (ofDirectives directives (some pattern), faults)
    | .error e => (ofDirectives directives none, faults ++ [.pattern source e])
  | _ => (ofDirectives [] none, [.tooManyParts text])

def ofVerbosity (count : Nat) : Filter :=
  { directives := [{ limit := min (Level.warn.rank + count) maxLimit }] }

def find? (filter : Filter) (target : Text) : Option Directive :=
  (filter.directives.filter fun d => d.covers target).foldl Directive.prefer none

def allows (filter : Filter) (r : Record) : Bool :=
  (filter.find? r.origin.target.toList).any fun d => r.level.rank ≤ d.limit

def shows (filter : Filter) (r : Record) : Bool :=
  filter.allows r && filter.pattern.all fun p => p.occursIn r.message.toList

end Filter
end SyscallNames.Log
