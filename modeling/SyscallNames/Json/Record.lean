import SyscallNames.Json.Value

set_option autoImplicit false

namespace SyscallNames.Json

/-- The keys of a record and the readers of its values. -/
structure Record (α β γ : Type) where
  firstKey : Text
  first : Reader α
  secondKey : Text
  second : Reader β
  thirdKey : Text
  third : Reader γ

namespace Record

variable {α β γ : Type}

structure Seen (α β γ : Type) where
  first : Option α := none
  second : Option β := none
  third : Option γ := none

def Seen.complete (seen : Seen α β γ) : Except Fault (α × β × γ) :=
  match seen.first, seen.second, seen.third with
  | some a, some b, some c => .ok (a, b, c)
  | _, _, _ => .error .mismatch

def readOnce {δ : Type} (seen : Option δ) (reader : Reader δ) (text : Text) :
    Except Fault (δ × Text) :=
  if seen.isSome then .error .mismatch else do reader (← expect ':' text)

def readMember (r : Record α β γ) (seen : Seen α β γ) (key : Text) : Reader (Seen α β γ) :=
  fun text =>
    if key = r.firstKey then
      (readOnce seen.first r.first text).map fun (a, rest) =>
        ({ seen with first := some a }, rest)
    else if key = r.secondKey then
      (readOnce seen.second r.second text).map fun (b, rest) =>
        ({ seen with second := some b }, rest)
    else if key = r.thirdKey then
      (readOnce seen.third r.third text).map fun (c, rest) =>
        ({ seen with third := some c }, rest)
    else do
      let rest ← skipValue (← expect ':' text)
      return (seen, rest)

def readMembers (r : Record α β γ) : Text → Seen α β γ → Reader (α × β × γ)
  | [], _, _ => .error .truncated
  | _ :: counter, seen, text => do
    let (key, text) ← readString (← expect '"' text)
    let (seen, text) ← r.readMember seen key text
    match skipBlank text with
    | [] => throw .truncated
    | '}' :: rest => return (← seen.complete, rest)
    | ',' :: rest => readMembers r counter seen rest
    | _ => throw .malformed

def readObject (r : Record α β γ) : Reader (α × β × γ) := fun text =>
  match skipBlank text with
  | '}' :: _ => .error .mismatch
  | text => r.readMembers text {} text

def nextItem (text : Text) : Except Fault Text :=
  match skipBlank text with
  | [] => .error .truncated
  | ',' :: rest => .ok rest
  | ']' :: _ => .error .mismatch
  | _ => .error .malformed

/-- A record as an array, from behind its opening bracket. -/
def readArray (r : Record α β γ) : Reader (α × β × γ) := fun text => do
  if (skipBlank text).head? = some ']' then throw .mismatch
  let (a, text) ← r.first text
  let (b, text) ← r.second (← nextItem text)
  let (c, text) ← r.third (← nextItem text)
  return ((a, b, c), ← expect ']' text)

def read (r : Record α β γ) : Reader (α × β × γ) := fun text =>
  match skipBlank text with
  | '{' :: rest => r.readObject rest
  | '[' :: rest => r.readArray rest
  | text => .error (wrongKind text)

end Record
end SyscallNames.Json
