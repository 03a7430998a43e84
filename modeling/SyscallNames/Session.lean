import SyscallNames.Listing
import SyscallNames.Report.Json

set_option autoImplicit false

namespace SyscallNames

structure Session where
  template : Template := Template.default
  declarations : List Declaration := []
  output : Sink := {}

namespace Session

inductive Step
  | setTemplate (source : Option Text)
  | extract (text : Bytes)
  | append (text : Bytes)
  | push (declaration : Declaration)
  | render (name : Text)
  | write
  | run (text : Bytes)
  | report (path : Option Bytes)
  | take

inductive Answer
  | template (source : Text)
  | refused (source : Text) (error : TemplateError)
  | declarations (declarations : List Declaration)
  | count (count : Nat)
  | rendered (text : Text)
  | written (length : Nat)
  | ran (count length : Nat)
  | report (json : Text)
  | output (bytes : Bytes)

def step (s : Session) : Step → Answer × Session
  | .setTemplate source =>
    match Template.parseOrDefault source with
    | .ok template => (.template template.source, { s with template })
    | .error e => (.refused (source.getD []) e, s)
  | .extract text =>
    let declarations := Declaration.extract text
    (.declarations declarations, { s with declarations })
  | .append text =>
    let declarations := s.declarations ++ Declaration.extract text
    (.count declarations.length, { s with declarations })
  | .push declaration =>
    let declarations := s.declarations ++ [declaration]
    (.count declarations.length, { s with declarations })
  | .render name => (.rendered (s.template.render name), s)
  | .write =>
    let output := Sink.after (Listing.write s.template s.declarations s.output)
    (.written output.taken.size, { s with output })
  | .run text =>
    let output := Sink.after (Listing.run { pending := text } s.template s.output)
    (.ran (Declaration.extract text).length output.taken.size, { s with output })
  | .report path =>
    let report := Report.ofDeclarations (Source.ofArgument path) s.declarations
    (.report (report.toJson .compact), s)
  | .take => (.output s.output.taken.toList, { s with output := { s.output with taken := #[] } })

/-- The answers of the steps, and the session after the last. -/
def steps (s : Session) : List Step → List Answer × Session
  | [] => ([], s)
  | step :: rest =>
    let (answer, s) := s.step step
    let (answers, s) := s.steps rest
    (answer :: answers, s)

end Session
end SyscallNames
