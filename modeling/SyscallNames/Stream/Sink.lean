import SyscallNames.IoError

set_option autoImplicit false

namespace SyscallNames

structure Sink where
  taken : Array UInt8 := #[]
  /-- How many more bytes can be taken. -/
  room : Option Nat := none
  /-- How a write without room is refused: with an error, or by taking no byte. -/
  refusal : Option IoError := none
  flushFailure : Option IoError := none
  flushes : Nat := 0
  capacity : Nat := 0
  held : Array UInt8 := #[]

/-- An action on a sink, which leaves the sink changed also when it fails. -/
abbrev Output (α : Type) := EStateM IoError Sink α

namespace Sink

/-- The sink that an action leaves, also when it fails. -/
def after {ε α : Type} : EStateM.Result ε Sink α → Sink
  | .ok _ sink => sink
  | .error _ sink => sink

def failing (e : IoError) : Sink := { room := some 0, refusal := some e }

/-- One write past the buffer, and how many bytes it took. -/
def write (bs : Bytes) : Output Nat := fun sink =>
  let size := match sink.room with
    | none => bs.length
    | some room => min room bs.length
  if size = 0 ∧ bs ≠ [] then
    match sink.refusal with
    | some e => .error e sink
    | none => .ok 0 sink
  else .ok size { sink with taken := sink.taken ++ bs.take size, room := sink.room.map (· - size) }

def writeAll : Bytes → Output Unit
  | [], sink => .ok () sink
  | b :: bs, sink =>
    match write (b :: bs) sink with
    | .error e sink => .error e sink
    | .ok 0 sink => .error .nothingTaken sink
    | .ok (n + 1) sink => writeAll (bs.drop n) sink
termination_by bs => bs.length
decreasing_by simp only [List.length_drop, List.length_cons]; omega

theorem writeAll_of_room {bs : Bytes} {sink : Sink} (h : ∀ room ∈ sink.room, bs.length ≤ room) :
    writeAll bs sink = .ok () { sink with
      taken := sink.taken ++ bs, room := sink.room.map (· - bs.length) } := by
  obtain ⟨taken, room⟩ := sink
  cases bs with
  | nil => cases room <;> simp [writeAll]
  | cons b bs =>
    rw [writeAll]
    cases room with
    | none => simp [write, writeAll]
    | some room =>
      have hm : min room (bs.length + 1) = bs.length + 1 := Nat.min_eq_right (by simpa using h)
      simp [write, hm, writeAll]

def drain : Output Unit := fun sink =>
  writeAll sink.held.toList { sink with held := #[] }

def hold (bs : Bytes) : Output Unit := fun sink =>
  .ok () { sink with held := sink.held ++ bs }

/-- Writes through the buffer, which is drained if the bytes do not fit into it, and passed by if
they would fill it alone. -/
def put (bs : Bytes) : Output Unit := do
  if (← get).capacity < (← get).held.size + bs.length then drain
  -- What is no smaller than the buffer goes past it.
  if (← get).capacity ≤ bs.length then writeAll bs else hold bs

def flushDevice : Output Unit := fun sink =>
  let sink := { sink with flushes := sink.flushes + 1 }
  match sink.flushFailure with
  | some e => .error e sink
  | none => .ok () sink

def flush : Output Unit := do
  drain
  flushDevice

end Sink
end SyscallNames
