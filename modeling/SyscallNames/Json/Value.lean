import SyscallNames.Json.Skip

set_option autoImplicit false

namespace SyscallNames.Json

def wrongKind : Text → Fault
  | [] => .truncated
  | c :: rest =>
    let simple : Except Fault Unit :=
      if c = '"' then (readString rest).map fun _ => ()
      else if c = 'n' then (readLiteral "ull".toList rest).map fun _ => ()
      else if c = 't' then (readLiteral "rue".toList rest).map fun _ => ()
      else if c = 'f' then (readLiteral "alse".toList rest).map fun _ => ()
      else if c = '-' || c.isDigit then (readNumber (c :: rest)).map fun _ => ()
      else if c = '[' || c = '{' then .ok ()
      else .error .malformed
    match simple with
    | .error e => e
    | .ok () => .mismatch

def readText : Reader Text := fun text =>
  match skipBlank text with
  | '"' :: rest => readString rest
  | text => .error (wrongKind text)

def readWord : Reader Nat := fun text =>
  match skipBlank text with
  | [] => .error .truncated
  | c :: rest =>
    if c = '-' || c.isDigit then
      match readNumber (c :: rest) with
      | .error e => .error e
      | .ok (.word n, rest) => .ok (n, rest)
      | .ok (.other, _) => .error .mismatch
    else .error (wrongKind (c :: rest))

def readItems {α : Type} (item : Reader α) : Text → List α → Reader (List α)
  | [], _, _ => .error .truncated
  | _ :: counter, done, text =>
    match item text with
    | .error e => .error e
    | .ok (a, rest) =>
      match skipBlank rest with
      | [] => .error .truncated
      | ']' :: rest => .ok ((a :: done).reverse, rest)
      | ',' :: rest => readItems item counter (a :: done) rest
      | _ => .error .malformed

def readList {α : Type} (item : Reader α) : Reader (List α) := fun text =>
  match skipBlank text with
  | '[' :: rest =>
    match skipBlank rest with
    | ']' :: rest => .ok ([], rest)
    | rest => readItems item rest [] rest
  | text => .error (wrongKind text)

end SyscallNames.Json
