import SyscallNames.Utf8

set_option autoImplicit false

namespace SyscallNames

/-- A name, the line of the keyword, counted from `1`, and the byte at which the keyword starts. -/
structure Declaration where
  name : Text
  line : Nat
  offset : Nat
deriving DecidableEq, Repr

namespace Declaration

def keywordText : String := "asmlinkage long sys_"

def keyword : Bytes := Utf8.encode keywordText.toList

@[simp]
theorem length_keyword : keyword.length = 20 := by decide

def pattern : String := keywordText ++ "([a-z0-9_]+)"

def isNameByte (b : UInt8) : Bool :=
  (0x61 ≤ b && b ≤ 0x7A) || (0x30 ≤ b && b ≤ 0x39) || b = 0x5F

def newline : UInt8 := 0x0A

/-- The name of the declaration at the front of `text`, empty if there is none. -/
def nameAt (text : Bytes) : Bytes :=
  if keyword.isPrefixOf text then (text.drop keyword.length).takeWhile isNameByte else []

def nameText (name : Bytes) : Text := name.map fun b => Char.ofNat b.toNat

def nextLine (line : Nat) (b : UInt8) : Nat := if b = newline then line + 1 else line

/-- The declarations in a text that starts at the line `line` and the byte `offset`. A declaration
holds no line break. -/
def extractFrom (line offset : Nat) : Bytes → List Declaration
  | [] => []
  | b :: rest =>
    let name := nameAt (b :: rest)
    if name = [] then extractFrom (nextLine line b) (offset + 1) rest
    else
      let length := keyword.length + name.length
      { name := nameText name, line, offset } ::
        extractFrom line (offset + length) (rest.drop (length - 1))
termination_by text => text.length
decreasing_by
  · simp
  · simp only [List.length_drop, List.length_cons]; omega

theorem extractFrom_of_nameAt_eq_nil {b : UInt8} {rest : Bytes} (h : nameAt (b :: rest) = [])
    (line offset : Nat) :
    extractFrom line offset (b :: rest) = extractFrom (nextLine line b) (offset + 1) rest := by
  rw [extractFrom]
  exact if_pos h

theorem extractFrom_of_nameAt_ne_nil {b : UInt8} {rest : Bytes} (h : nameAt (b :: rest) ≠ [])
    (line offset : Nat) :
    extractFrom line offset (b :: rest) =
      { name := nameText (nameAt (b :: rest)), line, offset } ::
        extractFrom line (offset + (keyword.length + (nameAt (b :: rest)).length))
          (rest.drop (keyword.length + (nameAt (b :: rest)).length - 1)) := by
  rw [extractFrom]
  exact if_neg h

def extract (text : Bytes) : List Declaration := extractFrom 1 0 text

def names (text : Bytes) : List Text := (extract text).map name

end Declaration
end SyscallNames
