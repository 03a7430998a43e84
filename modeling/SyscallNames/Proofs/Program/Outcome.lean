import SyscallNames.Invocation
import SyscallNames.Proofs.Program.Writing

set_option autoImplicit false

namespace SyscallNames

namespace Event

end Event

namespace Job

variable (job : Job)

end Job

namespace Invocation

variable {i : Invocation} {template : Template} {text : Bytes}

def job (i : Invocation) (template : Template) : Job := Job.ofTemplate i.options template

section Stages

theorem outcome_of_parse (h : Template.parse i.options.format = .ok template) :
    i.outcome =
      let finished := (i.job template).finish i.input i.device
      { finished with events := (i.job template).opening ++ finished.events } := by
  rw [outcome, execute, Job.ofOptions, h]
  rfl

theorem outcome_of_read (h : Template.parse i.options.format = .ok template)
    (hinput : i.input = .ok text) {exitCode : Nat} {output : Sink} {events : List Event}
    (hend : (i.job template).finishWriting (Declaration.extract text) i.device =
      (exitCode, output, events)) :
    i.outcome = {
      exitCode
      output
      events := (i.job template).opening ++
        ((i.job template).findings text.length (Declaration.extract text) ++ events) } := by
  rw [outcome_of_parse h, hinput, Job.finish, hend]

end Stages

end Invocation
end SyscallNames
