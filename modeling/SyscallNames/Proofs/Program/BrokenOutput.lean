import SyscallNames.Proofs.Program.Outcome

set_option autoImplicit false

namespace SyscallNames

namespace Sink

variable {device : Sink}

end Sink

namespace Job

variable {job : Job} {ds : List Declaration} {device : Sink}

end Job

namespace Invocation

variable {i : Invocation} {template : Template} {text : Bytes}

end Invocation
end SyscallNames
