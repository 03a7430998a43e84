import SyscallNames.Utf8

set_option autoImplicit false

namespace SyscallNames.Json

/-- A text is no JSON, is JSON of another shape than the one asked for, or ends too early. -/
inductive Fault
  | malformed
  | mismatch
  | truncated
deriving DecidableEq, Repr

abbrev Reader (α : Type) := Text → Except Fault (α × Text)

def isBlank (c : Char) : Bool := c = ' ' || c = '\n' || c = '\t' || c = '\r'

def skipBlank (text : Text) : Text := text.dropWhile isBlank

def expect (c : Char) (text : Text) : Except Fault Text :=
  match skipBlank text with
  | [] => .error .truncated
  | d :: rest => if d = c then .ok rest else .error .malformed

def readLiteral : Text → Text → Except Fault Text
  | [], text => .ok text
  | _ :: _, [] => .error .truncated
  | c :: word, d :: rest => if d = c then readLiteral word rest else .error .malformed

def readDocument {α : Type} (reader : Reader α) (text : Text) : Except Fault α :=
  match reader text with
  | .error e => .error e
  | .ok (value, rest) => if skipBlank rest = [] then .ok value else .error .malformed

end SyscallNames.Json
