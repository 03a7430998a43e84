import SyscallNames.IoError

set_option autoImplicit false

namespace SyscallNames

structure Input where
  pending : Bytes
  /-- The most bytes that one read gives. -/
  chunk : Option Nat := none
  /-- What reading past the last byte meets, instead of the end. -/
  failure : Option IoError := none

namespace Input

def read (input : Input) : Except IoError (Bytes × Input) :=
  if input.pending = [] then
    match input.failure with
    | some e => .error e
    | none => .ok ([], input)
  else
    let size := input.chunk.getD input.pending.length
    .ok (input.pending.take size, { input with pending := input.pending.drop size })

theorem length_pending_lt_of_read {input rest : Input} {b : UInt8} {bs : Bytes}
    (h : input.read = .ok (b :: bs, rest)) : rest.pending.length < input.pending.length := by
  unfold read at h
  split at h
  · split at h <;> simp at h
  · simp only [Except.ok.injEq, Prod.mk.injEq] at h
    obtain ⟨htake, rfl⟩ := h
    have hlen := congrArg List.length htake
    simp only [List.length_take, List.length_cons, List.length_drop] at hlen ⊢
    omega

def readOnto (done : Array UInt8) (input : Input) : Except IoError Bytes :=
  match h : input.read with
  | .error e => .error e
  | .ok ([], _) => .ok done.toList
  | .ok (b :: bs, rest) =>
    have := length_pending_lt_of_read h
    readOnto (done ++ (b :: bs)) rest
termination_by input.pending.length

def readToEnd (input : Input) : Except IoError Bytes := readOnto #[] input

theorem readOnto_eq {input : Input} (done : Array UInt8) (hc : input.chunk ≠ some 0) :
    readOnto done input =
      match input.failure with
      | some e => .error e
      | none => .ok (done.toList ++ input.pending) := by
  fun_induction readOnto done input with
  | case1 done input e h =>
    unfold read at h
    split at h
    · cases hf : input.failure <;> simp_all
    · simp_all
  | case2 done input rest h =>
    unfold read at h
    split at h
    · cases hf : input.failure <;> simp_all
    · simp only [Except.ok.injEq, Prod.mk.injEq, List.take_eq_nil_iff] at h
      cases hk : input.chunk <;> simp_all
  | case3 done input b bs rest h _ ih =>
    unfold read at h
    split at h
    · simp_all
    · simp only [Except.ok.injEq, Prod.mk.injEq] at h
      obtain ⟨htake, rfl⟩ := h
      rw [ih hc]
      simp [← htake]

/-- However large its reads are, a stream is read whole, or gives nothing but the error behind its
last byte. -/
theorem readToEnd_eq {input : Input} (hc : input.chunk ≠ some 0) :
    input.readToEnd =
      match input.failure with
      | some e => .error e
      | none => .ok input.pending :=
  readOnto_eq #[] hc

end Input
end SyscallNames
