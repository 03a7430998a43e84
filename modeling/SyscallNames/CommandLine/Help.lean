import SyscallNames.CommandLine.Basic

set_option autoImplicit false

namespace SyscallNames.CommandLine

def lines (ls : List String) : String := String.join (ls.map (· ++ "\n"))

def versionText : String := lines ["syscall-list 0.1.0"]

def shortHelp : String := lines [
  "Extract system-call names declared as `asmlinkage long sys_<name>`",
  "",
  "Usage: syscall-list [OPTIONS] [FILE]",
  "",
  "Arguments:",
  "  [FILE]  Kernel source file to scan (`-` or omitted reads stdin)",
  "",
  "Options:",
  "  -v, --verbose...              Enable verbose logging (can be repeated for more verbosity)",
  "  -f, --output-format <FORMAT>  Output template; `\x7b\x7d` is replaced by each syscall name"
    ++ " [default: \x7b\x7d]",
  "      --json                    Output an extraction report as JSON"
    ++ " (names, lines, byte offsets)",
  "      --pretty                  Pretty-print JSON output (only with --json)",
  "  -c, --count                   Print only the number of declarations found",
  "  -h, --help                    Print help (see more with '--help')",
  "  -V, --version                 Print version"]

def longHelp : String := lines [
  "Reads one kernel source file (usually include/linux/syscalls.h), finds every"
    ++ " `asmlinkage long sys_<name>` declaration and prints each <name> through a format template,"
    ++ " one line per declaration, in order of appearance.",
  "",
  "Examples:",
  "  syscall-list include/linux/syscalls.h",
  "  syscall-list -f '#define SYS_\x7b0\x7d __NR_\x7b0\x7d' syscalls.h",
  "  syscall-list -f 'SYS_\x7b\x7d' - < syscalls.h",
  "",
  "Usage: syscall-list [OPTIONS] [FILE]",
  "",
  "Arguments:",
  "  [FILE]",
  "          Kernel source file to scan (`-` or omitted reads stdin)",
  "",
  "Options:",
  "  -v, --verbose...",
  "          Enable verbose logging (can be repeated for more verbosity)",
  "",
  "  -f, --output-format <FORMAT>",
  "          Output template; `\x7b\x7d` is replaced by each syscall name",
  "          ",
  "          Supports `\x7b\x7b`/`\x7d\x7d` escapes, `\x7b0\x7d`, `\x7b!r\x7d` and string format"
    ++ " specs such as `\x7b:>20\x7d` or `\x7b:.8\x7d`. The template is checked before the input is"
    ++ " read, so a malformed one fails even when nothing matches.",
  "          ",
  "          [default: \x7b\x7d]",
  "",
  "      --json",
  "          Output an extraction report as JSON (names, lines, byte offsets)",
  "",
  "      --pretty",
  "          Pretty-print JSON output (only with --json)",
  "",
  "  -c, --count",
  "          Print only the number of declarations found",
  "",
  "  -h, --help",
  "          Print help (see a summary with '-h')",
  "",
  "  -V, --version",
  "          Print version"]

def helpText (long : Bool) : String := if long then longHelp else shortHelp

def Misuse.message : Misuse → String
  | .unknownArgument => "error: unexpected argument found"
  | .invalidValue => "error: a value is required"
  | .tooManyValues => "error: unexpected value found"
  | .argumentConflict => "error: arguments cannot be used together or more than once"
  | .invalidUtf8 => "error: invalid UTF-8 was detected in an argument"

def Stop.output : Stop → String
  | .help long => helpText long
  | .version => versionText
  | .misuse _ => ""

def Stop.exitCode : Stop → Nat
  | .misuse _ => 2
  | _ => 0

end SyscallNames.CommandLine
