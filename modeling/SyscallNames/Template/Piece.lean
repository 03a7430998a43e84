import SyscallNames.Template.Error

set_option autoImplicit false

namespace SyscallNames

/-- A piece of a template, with fields as `α`: their text, or what was read from it. -/
inductive Piece (α : Type)
  | literal (c : Char)
  | field (f : α)
deriving DecidableEq, Repr

namespace Piece

/-- Cuts the rest of a template in front of which stand the pieces `done`, last first, and, inside a
field, its text so far, last first. The pieces in front of an unpaired brace come with the error. -/
def cutOnto : List (Piece Text) → Option Text → Text → List (Piece Text) × Option BraceError
  | done, none, [] => (done.reverse, none)
  | done, none, '{' :: '{' :: rest => cutOnto (literal '{' :: done) none rest
  | done, none, '}' :: '}' :: rest => cutOnto (literal '}' :: done) none rest
  | done, none, '{' :: rest => cutOnto done (some []) rest
  | done, none, '}' :: _ => (done.reverse, some .loneClose)
  | done, none, c :: rest => cutOnto (literal c :: done) none rest
  | done, some [], [] => (done.reverse, some .loneOpen)
  | done, some (_ :: _), [] => (done.reverse, some .unclosed)
  | done, some body, '}' :: rest => cutOnto (field body.reverse :: done) none rest
  | done, some _, '{' :: _ => (done.reverse, some .nested)
  | done, some body, c :: rest => cutOnto done (some (c :: body)) rest

def cut (template : Text) : List (Piece Text) × Option BraceError := cutOnto [] none template

def text : Piece Text → Text
  | .literal c => if c = '{' ∨ c = '}' then [c, c] else [c]
  | .field body => '{' :: (body ++ ['}'])

def map {α β : Type} (g : α → β) : Piece α → Piece β
  | .literal c => .literal c
  | .field f => .field (g f)

def isField {α : Type} : Piece α → Bool
  | .literal _ => false
  | .field _ => true

def openText : Option Text → Text
  | none => []
  | some body => '{' :: body.reverse

theorem flatMap_text_cutOnto {done pieces : List (Piece Text)} {inner : Option Text} {rest : Text}
    (h : cutOnto done inner rest = (pieces, none)) :
    pieces.flatMap text = done.reverse.flatMap text ++ openText inner ++ rest := by
  fun_induction cutOnto done inner rest <;> simp_all [openText, text]

theorem flatMap_text_cut {pieces : List (Piece Text)} {template : Text}
    (h : cut template = (pieces, none)) : pieces.flatMap text = template := by
  simpa [openText] using flatMap_text_cutOnto h

theorem cutOnto_append (done before : List (Piece Text)) (inner : Option Text) (rest : Text) :
    cutOnto (done ++ before) inner rest =
      (before.reverse ++ (cutOnto done inner rest).1, (cutOnto done inner rest).2) := by
  fun_induction cutOnto done inner rest <;> simp_all [cutOnto]

end Piece
end SyscallNames
