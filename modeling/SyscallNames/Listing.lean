import SyscallNames.Declaration
import SyscallNames.Stream.Input
import SyscallNames.Stream.Sink
import SyscallNames.Template.Reader

set_option autoImplicit false

namespace SyscallNames

inductive RunError
  | reading (error : IoError)
  | writing (error : IoError)
deriving DecidableEq, Repr

def RunError.message : RunError → String
  | .reading error => "Failed to read input: " ++ error.message
  | .writing error => error.message

namespace Listing

def line (template : Template) (name : Text) : Bytes :=
  Utf8.encode (template.render name) ++ [Declaration.newline]

def bytes (template : Template) (names : List Text) : Bytes :=
  names.flatMap (line template)

def write (template : Template) : List Declaration → Output Unit
  | [] => Sink.flush
  | d :: rest => do
    Sink.put (Utf8.encode (template.render d.name))
    Sink.put [Declaration.newline]
    write template rest

/-- Reads all of the input before it writes, and gives the number of lines. -/
def run (input : Input) (template : Template) : EStateM RunError Sink Nat := fun sink =>
  match input.readToEnd with
  | .error e => .error (.reading e) sink
  | .ok text =>
    let declarations := Declaration.extract text
    match write template declarations sink with
    | .error e sink => .error (.writing e) sink
    | .ok () sink => .ok declarations.length sink

end Listing
end SyscallNames
