import SyscallNames.Pattern.Syntax

set_option autoImplicit false

namespace SyscallNames.Pattern

def nestingLimit : Nat := 250

def deeper (depth : Nat) (span : Span) : Except Fault Nat :=
  if depth < nestingLimit then .ok (depth + 1) else .error { kind := .nesting nestingLimit, span }

mutual

def Members.checkNesting (depth : Nat) : Members → Except Fault Unit
  | .bracket inner _ span => do inner.checkNesting (← deeper depth span)
  | .union items span => do checkNestingAll (← deeper depth span) items
  | .combine _ left right span => do
    let depth ← deeper depth span
    left.checkNesting depth
    right.checkNesting depth
  | _ => .ok ()

def checkNestingAll (depth : Nat) : List Members → Except Fault Unit
  | [] => .ok ()
  | m :: items => do
    m.checkNesting depth
    checkNestingAll depth items

end

mutual

def Tree.checkNesting (depth : Nat) : Tree → Except Fault Unit
  | .bracket inner _ span => do inner.checkNesting (← deeper depth span)
  | .times tree _ _ span => do tree.checkNesting (← deeper depth span)
  | .group tree _ _ span => do tree.checkNesting (← deeper depth span)
  | .sequence trees span => do checkTrees (← deeper depth span) trees
  | .choice trees span => do checkTrees (← deeper depth span) trees
  | _ => .ok ()

def checkTrees (depth : Nat) : List Tree → Except Fault Unit
  | [] => .ok ()
  | tree :: trees => do
    tree.checkNesting depth
    checkTrees depth trees

end

end SyscallNames.Pattern
