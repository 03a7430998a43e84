import SyscallNames.Decimal
import SyscallNames.Template.Basic

set_option autoImplicit false

namespace SyscallNames

inductive FieldSize
  | width
  | precision
deriving DecidableEq, Repr

inductive FieldError
  | explicitThenAutomatic
  | automaticThenExplicit
  | lookup (name : Text)
  | named (name : Text)
  | indexOutOfRange (index : Nat)
  | unknownConversion (code : Char)
  | missingConversion
  | missingColon
  | equalsAlign
  | sign
  | alternateForm
  | tooManyDigits (digits : Text)
  | tooLarge (size : FieldSize) (value : Nat)
  | grouping (separator : Char)
  | missingPrecision
  | unknownCode (code : Char)
  | invalidSpec (spec : Text)
deriving DecidableEq, Repr

inductive BraceError
  | nested
  | loneOpen
  | unclosed
  | loneClose
deriving DecidableEq, Repr

inductive TemplateError
  | field (error : FieldError)
  | brace (error : BraceError)
  | noField
deriving DecidableEq, Repr

def FieldSize.noun : FieldSize → String
  | .width => "width"
  | .precision => "precision"

def FieldError.message : FieldError → String
  | .explicitThenAutomatic =>
    "Cannot switch from manual field specification to automatic field numbering"
  | .automaticThenExplicit =>
    "Cannot switch from automatic field numbering to manual field specification"
  | .lookup name =>
    "Attribute and index access in field '" ++ String.ofList name ++ "' is not supported"
  | .named name =>
    "Named field '" ++ String.ofList name ++ "' is not supported; use '\x7b\x7d' or '\x7b0\x7d'"
  | .indexOutOfRange index =>
    "Replacement index " ++ Decimal.toString index
      ++ " out of range: the only argument is the syscall name"
  | .unknownConversion code => "Unknown conversion specifier '" ++ String.singleton code ++ "'"
  | .missingConversion => "End of format field while looking for conversion specifier"
  | .missingColon => "Expected ':' after conversion specifier"
  | .equalsAlign => "'=' alignment not allowed in string format specifier"
  | .sign => "Sign not allowed in string format specifier"
  | .alternateForm => "Alternate form (#) not allowed in string format specifier"
  | .tooManyDigits digits => "Too many decimal digits in format string: " ++ String.ofList digits
  | .tooLarge size value =>
    "Format " ++ size.noun ++ " " ++ Decimal.toString value ++ " exceeds the maximum of "
      ++ Decimal.toString Template.maxFieldSize
  | .grouping separator => "Cannot specify '" ++ String.singleton separator ++ "' with 's'"
  | .missingPrecision => "Format specifier missing precision"
  | .unknownCode code => "Unknown format code '" ++ String.singleton code ++ "' for a syscall name"
  | .invalidSpec spec => "Invalid format specifier '" ++ String.ofList spec ++ "'"

def BraceError.message (source : Text) : BraceError → String
  | .nested =>
    "Nested replacement fields are not supported in '" ++ String.ofList source ++ "'"
  | .loneOpen => "Single '\x7b' encountered in format string '" ++ String.ofList source ++ "'"
  | .unclosed => "Expected '\x7d' before end of format string '" ++ String.ofList source ++ "'"
  | .loneClose => "Single '\x7d' encountered in format string '" ++ String.ofList source ++ "'"

def TemplateError.message (source : Text) : TemplateError → String
  | .field error => error.message
  | .brace error => error.message source
  | .noField =>
    "Output format '" ++ String.ofList source
      ++ "' has no replacement field; use '\x7b\x7d' where the syscall name goes"

end SyscallNames
