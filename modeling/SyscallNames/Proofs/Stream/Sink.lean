import SyscallNames.Stream.Sink

set_option autoImplicit false

namespace SyscallNames.Sink

variable {sink : Sink} {bs cs : Bytes}

def Fits (sink : Sink) (bs : Bytes) : Prop := ∀ room ∈ sink.room, bs.length ≤ room

def share (sink : Sink) (count : Nat) : Nat := sink.room.elim count (min · count)

/-- The sink after these bytes have been offered to it. -/
def offered (sink : Sink) (bs : Bytes) : Sink :=
  { sink with
    taken := sink.taken ++ bs.take (sink.share bs.length)
    room := sink.room.map (· - sink.share bs.length) }

def refusalError (sink : Sink) : IoError := sink.refusal.getD .nothingTaken

/-- A sink without a buffer, which passes each write on at once. -/
structure Direct (sink : Sink) : Prop where
  capacity : sink.capacity = 0
  held : sink.held = #[]

@[simp]
theorem offered_nil (sink : Sink) : sink.offered [] = sink := by
  obtain ⟨taken, room⟩ := sink
  cases room <;> simp [offered, share]

theorem append_bytes_assoc (taken : Array UInt8) (bs cs : Bytes) :
    taken ++ (bs ++ cs) = taken ++ bs ++ cs := by
  rw [← Array.toList_inj]
  simp

theorem offered_append (sink : Sink) (bs cs : Bytes) :
    sink.offered (bs ++ cs) = (sink.offered bs).offered cs := by
  obtain ⟨taken, room⟩ := sink
  cases room with
  | none => simp [offered, share, List.take_of_length_le, append_bytes_assoc]
  | some room =>
    simp only [offered, share, Option.elim_some, Option.map_some, List.length_append]
    have htake : (bs ++ cs).take (min room (bs.length + cs.length)) =
        bs.take (min room bs.length) ++ cs.take (min (room - min room bs.length) cs.length) := by
      rw [List.take_append]
      congr 1
      · rw [List.take_eq_take_iff]
        omega
      · congr 1
        omega
    have hroom : room - min room (bs.length + cs.length) =
        room - min room bs.length - min (room - min room bs.length) cs.length := by omega
    rw [htake, hroom, append_bytes_assoc]

theorem Fits.append_iff : sink.Fits (bs ++ cs) ↔ sink.Fits bs ∧ (sink.offered bs).Fits cs := by
  obtain ⟨taken, room⟩ := sink
  cases room with
  | none => simp [Fits, offered]
  | some room =>
    simp only [Fits, offered, share, Option.mem_some_iff, Option.map_some, Option.elim_some,
      forall_eq', List.length_append]
    omega

theorem fits_of_unlimited (h : sink.room = none) (bs : Bytes) : sink.Fits bs := by
  intro room hroom
  rw [h] at hroom
  cases hroom

theorem toList_taken_offered_of_unlimited (h : sink.room = none) (bs : Bytes) :
    (sink.offered bs).taken.toList = sink.taken.toList ++ bs := by
  simp [offered, share, h]

theorem room_of_not_fits (h : ¬ sink.Fits bs) : ∃ room, sink.room = some room ∧ room < bs.length := by
  cases hr : sink.room with
  | none => simp [Fits, hr] at h
  | some room => exact ⟨room, rfl, by simpa [Fits, hr] using h⟩

theorem offered_of_full (h : sink.room = some 0) : sink.offered bs = sink := by
  obtain ⟨taken, room⟩ := sink
  simp only at h
  subst h
  simp [offered, share]

theorem writeAll_of_full (hroom : sink.room = some 0) (hne : bs ≠ []) :
    writeAll bs sink = .error sink.refusalError sink := by
  obtain ⟨b, bs, rfl⟩ := List.exists_cons_of_ne_nil hne
  rw [writeAll]
  cases hr : sink.refusal <;> simp [write, hroom, hr, refusalError]

theorem writeAll_of_fits (h : sink.Fits bs) : writeAll bs sink = .ok () (sink.offered bs) := by
  rw [writeAll_of_room h, offered, share]
  obtain ⟨taken, room⟩ := sink
  cases room with
  | none => simp
  | some room =>
    have hle : bs.length ≤ room := h room rfl
    simp [Nat.min_eq_right hle]

theorem writeAll_of_not_fits (h : ¬ sink.Fits bs) :
    writeAll bs sink = .error sink.refusalError (sink.offered bs) := by
  obtain ⟨room, hroom, hlt⟩ := room_of_not_fits h
  have hne : bs ≠ [] := by
    rintro rfl
    simp at hlt
  cases room with
  | zero =>
    rw [writeAll_of_full hroom hne, offered_of_full hroom]
  | succ room =>
    obtain ⟨b, bs, rfl⟩ := List.exists_cons_of_ne_nil hne
    have hmin : min (room + 1) (bs.length + 1) = room + 1 := Nat.min_eq_left (Nat.le_of_lt hlt)
    have hwrite : write (b :: bs) sink = .ok (room + 1) (sink.offered (b :: bs)) := by
      simp [write, hroom, offered, share, hmin]
    have hfull : (sink.offered (b :: bs)).room = some 0 := by
      simp [offered, share, hroom, hmin]
    have hrest : bs.drop room ≠ [] := by
      simp only [List.length_cons] at hlt
      simp only [ne_eq, List.drop_eq_nil_iff]
      omega
    -- The first write takes all the room there is, and the second is refused.
    rw [writeAll, hwrite]
    exact writeAll_of_full hfull hrest

theorem offered_append_of_not_fits (h : ¬ sink.Fits bs) :
    sink.offered (bs ++ cs) = sink.offered bs := by
  obtain ⟨room, hroom, hlt⟩ := room_of_not_fits h
  rw [offered_append]
  apply offered_of_full
  simp [offered, share, hroom, Nat.min_eq_left (Nat.le_of_lt hlt)]

end SyscallNames.Sink
