import SyscallNames.Proofs.Stream.Sink

set_option autoImplicit false

namespace SyscallNames.Sink

variable {device sink : Sink} {bs done : Bytes}

section Actions

variable {α : Type} {action : Output Unit} {next : Unit → Output α}

theorem bind_of_ok {after : Sink} (h : action sink = .ok () after) :
    (action >>= next) sink = next () after := by
  change EStateM.bind action next sink = next () after
  rw [EStateM.bind, h]

theorem bind_of_error {e : IoError} {after : Sink} (h : action sink = .error e after) :
    (action >>= next) sink = .error e after := by
  change EStateM.bind action next sink = .error e after
  rw [EStateM.bind, h]

end Actions

section Portions

def store (bs : Bytes) : Output Unit := do
  if (← get).capacity ≤ bs.length then writeAll bs else hold bs

theorem put_of_lt (h : sink.capacity < sink.held.size + bs.length) :
    put bs sink = (drain >>= fun _ => store bs) sink := by
  change (if sink.capacity < sink.held.size + bs.length then _ else _ : Output Unit) sink = _
  rw [if_pos h]
  rfl

theorem put_of_le (h : sink.held.size + bs.length ≤ sink.capacity) :
    put bs sink = store bs sink := by
  change (if sink.capacity < sink.held.size + bs.length then _ else _ : Output Unit) sink = _
  rw [if_neg (Nat.not_lt.mpr h)]
  rfl

theorem store_of_le (h : sink.capacity ≤ bs.length) : store bs sink = writeAll bs sink := by
  change (if sink.capacity ≤ bs.length then _ else _ : Output Unit) sink = _
  rw [if_pos h]

theorem store_of_lt (h : bs.length < sink.capacity) :
    store bs sink = .ok () { sink with held := sink.held ++ bs } := by
  change (if sink.capacity ≤ bs.length then _ else _ : Output Unit) sink = _
  rw [if_neg (Nat.not_le.mpr h)]
  rfl

end Portions

/-- The bytes `bs` have been written to `device`, and its buffer holds the last of them. -/
def Buffered (device : Sink) (bs : Bytes) (sink : Sink) : Prop :=
  ∃ passed held, bs = passed ++ Array.toList held ∧ device.Fits passed ∧
    sink = { device.offered passed with held }

/-- The result of a write behind which the bytes written are `bs`: it fails only if they do not
fit. -/
def Carried (device : Sink) (bs : Bytes) (result : EStateM.Result IoError Sink Unit) : Prop :=
  (∃ after, result = .ok () after ∧ Buffered device bs after) ∨
    (¬ device.Fits bs ∧ result = .error device.refusalError (device.offered bs))

section Buffers

variable (hd : device.held = #[])

include hd

theorem offered_eq_of_held_eq (bs : Bytes) :
    ({ device.offered bs with held := #[] } : Sink) = device.offered bs := by
  rw [← hd]
  rfl

theorem buffered_offered (hf : device.Fits bs) : Buffered device bs (device.offered bs) :=
  ⟨bs, #[], (List.append_nil bs).symm, hf, (offered_eq_of_held_eq hd bs).symm⟩

theorem buffered_nil : Buffered device [] device := by
  have hf : device.Fits [] := fun room _ => Nat.zero_le room
  have h := buffered_offered hd hf
  rwa [offered_nil] at h

theorem drain_of_fits (h : Buffered device bs sink) (hf : device.Fits bs) :
    drain sink = .ok () (device.offered bs) := by
  obtain ⟨passed, held, rfl, -, rfl⟩ := h
  rw [drain, offered_append]
  change writeAll held.toList { device.offered passed with held := #[] } = _
  rw [offered_eq_of_held_eq hd, writeAll_of_fits (Fits.append_iff.mp hf).2]

theorem drain_of_not_fits (h : Buffered device bs sink) (hf : ¬ device.Fits bs) :
    drain sink = .error device.refusalError (device.offered bs) := by
  obtain ⟨passed, held, rfl, hpassed, rfl⟩ := h
  rw [drain, offered_append]
  change writeAll held.toList { device.offered passed with held := #[] } = _
  rw [offered_eq_of_held_eq hd,
    writeAll_of_not_fits fun hheld => hf (Fits.append_iff.mpr ⟨hpassed, hheld⟩)]
  rfl

theorem carried_writeAll (hf : device.Fits done) :
    Carried device (done ++ bs) (writeAll bs (device.offered done)) := by
  by_cases hbs : (device.offered done).Fits bs
  · left
    rw [writeAll_of_fits hbs, ← offered_append]
    exact ⟨_, rfl, buffered_offered hd (Fits.append_iff.mpr ⟨hf, hbs⟩)⟩
  · right
    rw [writeAll_of_not_fits hbs, ← offered_append]
    exact ⟨fun h => hbs (Fits.append_iff.mp h).2, rfl⟩

theorem carried_store (h : Buffered device done sink)
    (hroom : sink.capacity ≤ bs.length → sink.held = #[]) :
    Carried device (done ++ bs) (store bs sink) := by
  by_cases hle : sink.capacity ≤ bs.length
  · -- The buffer is passed by, and so it must hold nothing in front of these bytes.
    have hempty := hroom hle
    rw [store_of_le hle]
    obtain ⟨passed, held, rfl, hpassed, rfl⟩ := h
    obtain rfl : held = #[] := hempty
    rw [offered_eq_of_held_eq hd, List.append_nil]
    exact carried_writeAll hd hpassed
  · left
    refine ⟨_, store_of_lt (Nat.lt_of_not_le hle), ?_⟩
    obtain ⟨passed, held, rfl, hpassed, rfl⟩ := h
    refine ⟨passed, held ++ bs, ?_, hpassed, rfl⟩
    rw [List.append_assoc, Array.toList_appendList]

theorem carried_put (h : Buffered device done sink) (bs : Bytes) :
    Carried device (done ++ bs) (put bs sink) := by
  by_cases hlt : sink.capacity < sink.held.size + bs.length
  · rw [put_of_lt hlt]
    by_cases hf : device.Fits done
    · rw [bind_of_ok (drain_of_fits hd h hf)]
      exact carried_store hd (buffered_offered hd hf) fun _ => hd
    · rw [bind_of_error (drain_of_not_fits hd h hf)]
      right
      rw [offered_append_of_not_fits hf]
      exact ⟨fun hfits => hf (Fits.append_iff.mp hfits).1, rfl⟩
  · rw [put_of_le (Nat.le_of_not_lt hlt)]
    refine carried_store hd h fun hle => Array.size_eq_zero_iff.mp ?_
    omega

theorem flush_of_fits (h : Buffered device bs sink) (hf : device.Fits bs) :
    flush sink = flushDevice (device.offered bs) :=
  bind_of_ok (drain_of_fits hd h hf)

theorem flush_of_not_fits (h : Buffered device bs sink) (hf : ¬ device.Fits bs) :
    flush sink = .error device.refusalError (device.offered bs) :=
  bind_of_error (drain_of_not_fits hd h hf)

end Buffers

def putAll : List Bytes → Output Unit
  | [] => flush
  | bs :: rest => do
    put bs
    putAll rest

section Rows

variable {portions : List Bytes} (hd : device.held = #[])

include hd

theorem putAll_of_buffered_of_fits (h : Buffered device done sink)
    (hf : device.Fits (done ++ portions.flatten)) :
    putAll portions sink = flushDevice (device.offered (done ++ portions.flatten)) := by
  induction portions generalizing done sink with
  | nil =>
    rw [List.flatten_nil, List.append_nil] at hf ⊢
    exact flush_of_fits hd h hf
  | cons bs rest ih =>
    rw [List.flatten_cons, ← List.append_assoc] at hf ⊢
    obtain ⟨after, hafter, hbuffered⟩ | ⟨hnot, -⟩ := carried_put hd h bs
    · rw [putAll, bind_of_ok hafter]
      exact ih hbuffered hf
    · exact absurd (Fits.append_iff.mp hf).1 hnot

theorem putAll_of_buffered_of_not_fits (h : Buffered device done sink)
    (hf : ¬ device.Fits (done ++ portions.flatten)) :
    putAll portions sink =
      .error device.refusalError (device.offered (done ++ portions.flatten)) := by
  induction portions generalizing done sink with
  | nil =>
    rw [List.flatten_nil, List.append_nil] at hf ⊢
    exact flush_of_not_fits hd h hf
  | cons bs rest ih =>
    rw [List.flatten_cons, ← List.append_assoc] at hf ⊢
    rw [putAll]
    obtain ⟨after, hafter, hbuffered⟩ | ⟨hnot, herror⟩ := carried_put hd h bs
    · rw [bind_of_ok hafter]
      exact ih hbuffered hf
    · rw [bind_of_error herror, offered_append_of_not_fits hnot]

theorem putAll_of_fits (hf : device.Fits portions.flatten) :
    putAll portions device = flushDevice (device.offered portions.flatten) := by
  have h := putAll_of_buffered_of_fits hd (buffered_nil hd) hf
  rwa [List.nil_append] at h

theorem putAll_of_not_fits (hf : ¬ device.Fits portions.flatten) :
    putAll portions device = .error device.refusalError (device.offered portions.flatten) := by
  have h := putAll_of_buffered_of_not_fits hd (buffered_nil hd) hf
  rwa [List.nil_append] at h

end Rows

end SyscallNames.Sink
