import SyscallNames.CommandLine.Basic

set_option autoImplicit false

namespace SyscallNames

/-- The settings that some command line can ask for. -/
structure Options.Valid (o : Options) : Prop where
  verbose_le : o.verbose ≤ 255
  file_ne_nil : o.file ≠ some []
  json_or_count : ¬ (o.json ∧ o.count)

namespace CommandLine

inductive Switch
  | verbose
  | json
  | pretty
  | count
deriving DecidableEq, Repr

def Switch.name : Switch → String
  | verbose => "verbose"
  | json => "json"
  | pretty => "pretty"
  | count => "count"

inductive Letter
  | verbose
  | count
deriving DecidableEq, Repr

namespace Letter

def char : Letter → Char
  | verbose => 'v'
  | count => 'c'

def switch : Letter → Switch
  | verbose => .verbose
  | count => .count

end Letter

/-- Where a format is written: behind the long name of its option or behind its letter, which ends a
cluster. It is an argument of its own or joined to the one in front, with or without an equals
sign. -/
inductive FormatPlace
  | long
  | longEquals
  | letter (cluster : List Letter)
  | letterEquals (cluster : List Letter)
  | letterJoined (cluster : List Letter)
deriving DecidableEq, Repr

namespace FormatPlace

def cluster : FormatPlace → List Letter
  | long => []
  | longEquals => []
  | letter cluster => cluster
  | letterEquals cluster => cluster
  | letterJoined cluster => cluster

def texts (format : Text) : FormatPlace → List Text
  | long => ["--output-format".toList, format]
  | longEquals => ["--output-format=".toList ++ format]
  | letter cluster => ['-' :: (cluster.map Letter.char ++ ['f']), format]
  | letterEquals cluster => ['-' :: (cluster.map Letter.char ++ 'f' :: '=' :: format)]
  | letterJoined cluster => ['-' :: (cluster.map Letter.char ++ 'f' :: format)]

/-- A format in an argument of its own must not look like an option, and one behind a letter must be
told from the end of the cluster and from an equals sign. -/
def Allows (format : Text) : FormatPlace → Prop
  | long => format = ['-'] ∨ format.head? ≠ some '-'
  | longEquals => True
  | letter _ => format = ['-'] ∨ format.head? ≠ some '-'
  | letterEquals _ => format ≠ []
  | letterJoined _ => format ≠ [] ∧ format.head? ≠ some '='

end FormatPlace

inductive Setting
  | switch (s : Switch)
  | format (value : Text)
  | file (path : Bytes)
deriving DecidableEq, Repr

namespace Setting

def format? : Setting → Option Text
  | format value => some value
  | _ => none

def file? : Setting → Option Bytes
  | file path => some path
  | _ => none

end Setting

inductive Token
  | switch (s : Switch)
  | cluster (letters : List Letter)
  | format (place : FormatPlace) (value : Text)
  | file (path : Bytes)
deriving DecidableEq, Repr

namespace Token

def arguments : Token → List Bytes
  | switch s => [Utf8.encode ("--".toList ++ s.name.toList)]
  | cluster letters => [Utf8.encode ('-' :: letters.map Letter.char)]
  | format place value => (place.texts value).map Utf8.encode
  | file path => [path]

def settings : Token → List Setting
  | switch s => [.switch s]
  | cluster letters => letters.map fun l => .switch l.switch
  | format place value => (place.cluster.map fun l => .switch l.switch) ++ [.format value]
  | file path => [.file path]

/-- A cluster has a letter, a format may stand in its place, and a file does not look like an
option. -/
def WellFormed : Token → Prop
  | switch _ => True
  | cluster letters => letters ≠ []
  | format place value => place.Allows value
  | file path => path = Utf8.encode ['-'] ∨ path.head? ≠ some 0x2D

end Token

structure Form where
  tokens : List Token
  last : Option Bytes := none
deriving DecidableEq, Repr

namespace Form

def arguments (form : Form) : List Bytes :=
  form.tokens.flatMap Token.arguments
    ++ form.last.elim [] fun path => [Utf8.encode "--".toList, path]

def settings (form : Form) : List Setting :=
  form.tokens.flatMap Token.settings ++ form.last.toList.map .file

def WellFormed (form : Form) : Prop := ∀ token ∈ form.tokens, token.WellFormed

end Form

/-- What settings make together: how verbose counts up to `255`, all else is asked for at most once,
and a format that is not given is the plain field. -/
structure Yields (settings : List Setting) (o : Options) : Prop where
  verbose : o.verbose = min (settings.count (.switch .verbose)) 255
  json : settings.count (.switch .json) = o.json.toNat
  pretty : settings.count (.switch .pretty) = o.pretty.toNat
  count : settings.count (.switch .count) = o.count.toNat
  format : settings.filterMap Setting.format? = [o.format] ∨
    (settings.filterMap Setting.format? = [] ∧ o.format = ['{', '}'])
  file : settings.filterMap Setting.file? = o.file.toList

/-- The arguments are one of the ways to ask for these options. -/
def Spells (arguments : List Bytes) (o : Options) : Prop :=
  ∃ form : Form, form.WellFormed ∧ form.arguments = arguments ∧ Yields form.settings o

end CommandLine
end SyscallNames
