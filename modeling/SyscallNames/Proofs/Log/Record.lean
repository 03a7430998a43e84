import SyscallNames.Log.Filter

set_option autoImplicit false

namespace SyscallNames

namespace Log

end Log

namespace ControlSequence

open Log

end ControlSequence

namespace Log

end Log
end SyscallNames
