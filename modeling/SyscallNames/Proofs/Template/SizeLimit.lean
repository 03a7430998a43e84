import Mathlib.Data.List.TakeWhile
import SyscallNames.Proofs.Template.Fault
import SyscallNames.Proofs.Template.SpecReading

set_option autoImplicit false

namespace SyscallNames

section Digits

variable {ds : Text}

end Digits

namespace FieldSize

/-- The spec that gives a size and no more; a width comes with an alignment, so that a zero in front
of it cannot be the fill. -/
def specText : FieldSize → Text → Text
  | .width, ds => '>' :: ds
  | .precision, ds => '.' :: ds

def source (size : FieldSize) (ds : Text) : Text := '{' :: ':' :: (size.specText ds ++ ['}'])

/-- The digits that count for the size. A zero in front of a width is the zero flag. -/
def counted : FieldSize → Text → Text
  | .width, '0' :: ds => ds
  | _, ds => ds

def spec : FieldSize → Nat → FieldSpec
  | .width, n => { align := .right, width := n }
  | .precision, n => { precision := some n }

variable {ds : Text}

end FieldSize

namespace FieldSpec

variable {size : FieldSize} {ds : Text}

end FieldSpec

namespace Template

end Template

namespace FieldSize

variable {ds : Text}

section Parsing

variable (size : FieldSize) (hne : ds ≠ []) (hd : ∀ c ∈ ds, c.isDigit = true)

include hne hd

end Parsing

end FieldSize
end SyscallNames
