import SyscallNames.Listing
import SyscallNames.Proofs.Stream.Buffer

set_option autoImplicit false

namespace SyscallNames.Listing

open Sink (Direct)

variable {template : Template} {sink : Sink}

theorem bytes_cons (template : Template) (name : Text) (names : List Text) :
    bytes template (name :: names) =
      Utf8.encode (template.render name) ++ ([Declaration.newline] ++ bytes template names) := by
  simp [bytes, line]

/-- What is written one by one for these names: each line, and the line break behind it. -/
def portions (template : Template) (names : List Text) : List Bytes :=
  names.flatMap fun name => [Utf8.encode (template.render name), [Declaration.newline]]

@[simp]
theorem flatten_portions (template : Template) (names : List Text) :
    (portions template names).flatten = bytes template names := by
  induction names with
  | nil => rfl
  | cons name names ih =>
    rw [bytes_cons, ← ih]
    rfl

theorem write_eq_putAll (template : Template) (ds : List Declaration) :
    write template ds = Sink.putAll (portions template (ds.map Declaration.name)) := by
  induction ds with
  | nil => rfl
  | cons d ds ih =>
    rw [write, ih]
    rfl

theorem write_of_fits (ds : List Declaration) (h : sink.held = #[])
    (hf : sink.Fits (bytes template (ds.map Declaration.name))) :
    write template ds sink =
      Sink.flushDevice (sink.offered (bytes template (ds.map Declaration.name))) := by
  rw [← flatten_portions] at hf ⊢
  rw [write_eq_putAll, Sink.putAll_of_fits h hf]

theorem write_of_not_fits (ds : List Declaration) (h : sink.held = #[])
    (hf : ¬ sink.Fits (bytes template (ds.map Declaration.name))) :
    write template ds sink =
      .error sink.refusalError (sink.offered (bytes template (ds.map Declaration.name))) := by
  rw [← flatten_portions] at hf ⊢
  rw [write_eq_putAll, Sink.putAll_of_not_fits h hf]

def ofText (template : Template) (text : Bytes) : Bytes :=
  bytes template (Declaration.names text)

variable {input : Input}

theorem run_of_failure {e : IoError} (hchunk : input.chunk ≠ some 0)
    (hfail : input.failure = some e) : run input template sink = .error (.reading e) sink := by
  rw [run, Input.readToEnd_eq hchunk, hfail]

theorem run_of_not_fits (hchunk : input.chunk ≠ some 0) (hfail : input.failure = none)
    (h : sink.Direct) (hf : ¬ sink.Fits (ofText template input.pending)) :
    run input template sink =
      .error (.writing sink.refusalError) (sink.offered (ofText template input.pending)) := by
  rw [run, Input.readToEnd_eq hchunk, hfail]
  simp only
  rw [write_of_not_fits _ h.held hf]
  rfl

theorem run_of_fits (hchunk : input.chunk ≠ some 0) (hfail : input.failure = none)
    (h : sink.Direct) (hf : sink.Fits (ofText template input.pending)) :
    run input template sink =
      let after := { sink.offered (ofText template input.pending) with flushes := sink.flushes + 1 }
      match sink.flushFailure with
      | some e => .error (.writing e) after
      | none => .ok (Declaration.names input.pending).length after := by
  rw [run, Input.readToEnd_eq hchunk, hfail]
  simp only
  rw [write_of_fits _ h.held hf, Sink.flushDevice]
  simp only [Sink.offered]
  cases sink.flushFailure with
  | some e => rfl
  | none => simp [Declaration.names, ofText]

theorem run_chunk (hchunk : input.chunk ≠ some 0) {chunk : Option Nat} (hc : chunk ≠ some 0) :
    run { input with chunk } template sink = run input template sink := by
  have hread : ({ input with chunk } : Input).readToEnd = input.readToEnd := by
    rw [Input.readToEnd_eq hchunk, Input.readToEnd_eq hc]
  rw [run, run, hread]

/-- A run over any stream and any sink without a buffer. A failing stream leaves the sink alone.
Otherwise the sink takes as much of the listing as it has room for, however the input is read; a
listing that does not fit is an error of the sink, without a flush, and one that fits is flushed
once, whose failure is the only one left. -/
theorem run_over_faulty_streams (template : Template) (hchunk : input.chunk ≠ some 0)
    (hsink : sink.Direct) :
    (∀ e, input.failure = some e → run input template sink = .error (.reading e) sink) ∧
    (input.failure = none →
      (Sink.after (run input template sink)).taken =
          sink.taken ++ (ofText template input.pending).take
            (sink.room.elim (ofText template input.pending).length
              (min · (ofText template input.pending).length)) ∧
        (∀ chunk, chunk ≠ some 0 →
          run { input with chunk } template sink = run input template sink) ∧
        (∀ room, sink.room = some room → room < (ofText template input.pending).length →
          ∃ after, after.flushes = sink.flushes ∧
            run input template sink =
              .error (.writing (sink.refusal.getD .nothingTaken)) after) ∧
        ((∀ room, sink.room = some room → (ofText template input.pending).length ≤ room) →
          ∃ after, after.flushes = sink.flushes + 1 ∧
            run input template sink =
              match sink.flushFailure with
              | some e => .error (.writing e) after
              | none => .ok (Declaration.names input.pending).length after)) ∧
    IoError.nothingTaken.message = "failed to write whole buffer" := by
  refine ⟨fun e hfail => run_of_failure hchunk hfail, fun hfail => ⟨?_, ?_, ?_, ?_⟩, rfl⟩
  · by_cases hf : sink.Fits (ofText template input.pending)
    · rw [run_of_fits hchunk hfail hsink hf]
      cases sink.flushFailure <;> rfl
    · rw [run_of_not_fits hchunk hfail hsink hf]
      rfl
  · intro chunk hc
    exact run_chunk hchunk hc
  · intro room hroom hlt
    have hf : ¬ sink.Fits (ofText template input.pending) := by
      intro hf
      have := hf room hroom
      omega
    exact ⟨sink.offered _, rfl, run_of_not_fits hchunk hfail hsink hf⟩
  · intro hf
    exact ⟨{ sink.offered _ with flushes := sink.flushes + 1 }, rfl,
      run_of_fits hchunk hfail hsink hf⟩

/-- The room of this sink ends inside the first line. -/
theorem run_cut_inside_line :
    let input : Input := {
      pending := Utf8.encode "asmlinkage long sys_read(".toList, chunk := some 7 }
    let sink : Sink := { room := some 3 }
    input.chunk ≠ some 0 ∧ sink.Direct ∧
      (Sink.after (run input Template.default sink)).taken = #[0x72, 0x65, 0x61] := by
  refine ⟨by decide, ⟨rfl, rfl⟩, ?_⟩
  rw [((run_over_faulty_streams Template.default (by decide) ⟨rfl, rfl⟩).2.1 rfl).1]
  decide +kernel

end SyscallNames.Listing
