import SyscallNames.Json.Number
import SyscallNames.Json.Quoted

set_option autoImplicit false

namespace SyscallNames.Json

inductive Container
  | array
  | object
deriving DecidableEq, Repr

namespace Container

def closing : Container → Char
  | .array => ']'
  | .object => '}'

def enter : Container → Text → Except Fault Text
  | .array, text => .ok text
  | .object, text => do expect ':' (← skipString (← expect '"' text))

end Container

/-- From behind a value, closes containers until another value follows in one of them. -/
def leave : List Container → Text → Except Fault (List Container × Text)
  | [], text => .ok ([], text)
  | container :: outer, text =>
    match skipBlank text with
    | [] => .error .truncated
    | c :: rest =>
      if c = container.closing then leave outer rest
      else if c = ',' then (container.enter rest).map fun rest => (container :: outer, rest)
      else .error .malformed

def opened (container : Container) (outer : List Container) (text : Text) :
    Except Fault (List Container × Text) :=
  match skipBlank text with
  | [] => .error .truncated
  | c :: rest =>
    if c = container.closing then leave outer rest
    else (container.enter (c :: rest)).map fun rest => (container :: outer, rest)

def skipScalar : Text → Except Fault Text
  | [] => .error .truncated
  | c :: rest =>
    if c = '"' then skipString rest
    else if c = 'n' then readLiteral "ull".toList rest
    else if c = 't' then readLiteral "rue".toList rest
    else if c = 'f' then readLiteral "alse".toList rest
    else if c = '-' || c.isDigit then skipNumber (c :: rest)
    else .error .malformed

def skipStep (outer : List Container) (text : Text) : Except Fault (List Container × Text) :=
  match skipBlank text with
  | '[' :: rest => opened .array outer rest
  | '{' :: rest => opened .object outer rest
  | text => do leave outer (← skipScalar text)

/-- Each step takes at least one character, so that the characters of a text are enough to count the
steps through it. -/
def skipSteps : Text → List Container → Text → Except Fault Text
  | [], _, _ => .error .truncated
  | _ :: counter, outer, text =>
    match skipStep outer text with
    | .error e => .error e
    | .ok ([], rest) => .ok rest
    | .ok (outer, rest) => skipSteps counter outer rest

def skipValue (text : Text) : Except Fault Text := skipSteps text [] text

end SyscallNames.Json
