import SyscallNames.Proofs.Log.Record
import SyscallNames.Proofs.Program.Outcome

set_option autoImplicit false

namespace SyscallNames

namespace Event

end Event

namespace Invocation

def shown (i : Invocation) : List Event := i.outcome.events.filter (Event.isShown i.log.filter)

variable {i j : Invocation}

namespace Alike

end Alike

end Invocation
end SyscallNames
