import SyscallNames.Program

set_option autoImplicit false

namespace SyscallNames

/-- What a run does outside of itself, in order: it tells, it reads, and it prints all at once. -/
structure Surroundings (m : Type → Type) where
  tell : List Event → m Unit
  read : Source → m (Except IoError Bytes)
  print : Array UInt8 → m (Except IoError Unit)

namespace Surroundings

variable {m : Type → Type} [Monad m]

/-- The end of a job, on a device that turns out to take all that is printed or nothing of it. -/
def finish (s : Surroundings m) (job : Job) (input : Except IoError Bytes) : m Outcome := do
  let outcome := job.finish input {}
  match ← s.print outcome.output.taken with
  | .ok () => return outcome
  | .error e => return job.finish input (Sink.failing e)

def run (s : Surroundings m) (options : Options) : m Nat := do
  match Job.ofOptions options with
  | .error e =>
    s.tell [Job.refusal options.format e]
    return 1
  | .ok job =>
    s.tell job.opening
    let outcome ← s.finish job (← s.read job.source)
    s.tell outcome.events
    return outcome.exitCode

end Surroundings
end SyscallNames
