import SyscallNames.Decimal

set_option autoImplicit false

namespace SyscallNames.Json

inductive Layout
  | compact
  | indented
deriving DecidableEq, Repr

def escapeControl (c : Char) : Text :=
  ['\\', 'u', '0', '0', Nat.digitChar (c.toNat / 16), Nat.digitChar (c.toNat % 16)]

/-- Quotes, backslashes and control characters are escaped, all other characters stand for
themselves. -/
def escape (c : Char) : Text :=
  if c = '"' then ['\\', '"']
  else if c = '\\' then ['\\', '\\']
  else if c = '\n' then ['\\', 'n']
  else if c = '\t' then ['\\', 't']
  else if c = '\r' then ['\\', 'r']
  else if c = '\x08' then ['\\', 'b']
  else if c = '\x0C' then ['\\', 'f']
  else if c < ' ' then escapeControl c
  else [c]

def quote (text : Text) : Text := '"' :: (text.flatMap escape ++ ['"'])

namespace Layout

def newline : Layout → Nat → Text
  | .compact, _ => []
  | .indented, depth => '\n' :: List.replicate (2 * depth) ' '

def colon : Layout → Text
  | .compact => [':']
  | .indented => [':', ' ']

def more (layout : Layout) (depth : Nat) (items : List Text) : Text :=
  items.flatMap fun item => ',' :: (layout.newline depth ++ item)

/-- Items between brackets; brackets around no item stay together. -/
def bracket (layout : Layout) (depth : Nat) (opening closing : Char) : List Text → Text
  | [] => [opening, closing]
  | item :: items =>
    opening :: (layout.newline (depth + 1) ++ item ++ layout.more (depth + 1) items
      ++ layout.newline depth ++ [closing])

def array (layout : Layout) (depth : Nat) (items : List Text) : Text :=
  layout.bracket depth '[' ']' items

def member (layout : Layout) (key value : Text) : Text := quote key ++ layout.colon ++ value

def object (layout : Layout) (depth : Nat) (members : List (Text × Text)) : Text :=
  layout.bracket depth '{' '}' (members.map fun m => layout.member m.1 m.2)

end Layout
end SyscallNames.Json
