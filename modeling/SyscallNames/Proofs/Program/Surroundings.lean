import SyscallNames.Surroundings
import SyscallNames.Proofs.Program.Writing

set_option autoImplicit false

namespace SyscallNames

namespace Job

theorem finishWriting_empty (job : Job) (ds : List Declaration) :
    ∃ output, job.finishWriting ds {} = (0, output, []) ∧
      output.taken.toList = job.printed ds := by
  have hfits : ({} : Sink).Fits (job.printed ds) := Sink.fits_of_unlimited rfl _
  refine ⟨_, finishWriting_of_fits rfl rfl hfits, ?_⟩
  exact (Sink.toList_taken_offered_of_unlimited rfl _).trans (List.nil_append _)

variable {job : Job} {ds : List Declaration} {input : Except IoError Bytes}

theorem finishWriting_failing_of_nil (e : IoError) (h : job.printed ds = []) :
    ∃ output, job.finishWriting ds (Sink.failing e) = (0, output, []) := by
  have hfits : (Sink.failing e).Fits (job.printed ds) := by simp [h, Sink.Fits]
  exact ⟨_, finishWriting_of_fits rfl rfl hfits⟩

theorem taken_finishWriting_failing (e : IoError) :
    (job.finishWriting ds (Sink.failing e)).2.1.taken = #[] := by
  by_cases hf : (Sink.failing e).Fits (job.printed ds)
  · rw [finishWriting_of_fits rfl rfl hf, Sink.offered_of_full rfl]
    rfl
  · rw [finishWriting_of_not_fits rfl hf, Sink.offered_of_full rfl]
    split <;> rfl

theorem taken_finish_failing (e : IoError) :
    (job.finish input (Sink.failing e)).output.taken = #[] := by
  cases input with
  | error => rfl
  | ok text => exact taken_finishWriting_failing e

theorem finish_failing_of_nil (e : IoError) (h : (job.finish input {}).output.taken = #[]) :
    (job.finish input (Sink.failing e)).exitCode = (job.finish input {}).exitCode ∧
      (job.finish input (Sink.failing e)).events = (job.finish input {}).events := by
  cases input with
  | error => exact ⟨rfl, rfl⟩
  | ok text =>
    obtain ⟨output, hend, htaken⟩ := job.finishWriting_empty (Declaration.extract text)
    rw [finish, hend] at h
    have hnil : job.printed (Declaration.extract text) = [] := by
      rw [← htaken, show output.taken = #[] from h]
    obtain ⟨broken, hbroken⟩ := finishWriting_failing_of_nil e hnil
    rw [finish, finish, hend, hbroken]
    exact ⟨rfl, rfl⟩

end Job

namespace Surroundings

structure Recording where
  printed : Array UInt8 := #[]
  events : List Event := []

/-- Surroundings that keep what is told and, unless they refuse it, what is printed. -/
def recorder (read : Source → Except IoError Bytes) (refusal : Option IoError) :
    Surroundings (StateM Recording) where
  tell events := modify fun r => { r with events := r.events ++ events }
  read source := pure (read source)
  print bytes :=
    match refusal with
    | none => do
      modify fun r => { r with printed := r.printed ++ bytes }
      return .ok ()
    | some e => return if bytes = #[] then .ok () else .error e

def device : Option IoError → Sink
  | none => {}
  | some e => Sink.failing e

variable (read : Source → Except IoError Bytes) (refusal : Option IoError)

theorem finish_recorder (job : Job) (input : Except IoError Bytes) (r : Recording) :
    ∃ outcome, (recorder read refusal).finish job input r =
        (outcome, { r with printed := r.printed ++ outcome.output.taken }) ∧
      outcome.exitCode = (job.finish input (device refusal)).exitCode ∧
      outcome.events = (job.finish input (device refusal)).events ∧
      outcome.output.taken = (job.finish input (device refusal)).output.taken := by
  cases refusal with
  | none => exact ⟨job.finish input {}, rfl, rfl, rfl, rfl⟩
  | some e =>
    have htaken : (job.finish input (Sink.failing e)).output.taken = #[] :=
      Job.taken_finish_failing e
    by_cases h : (job.finish input {}).output.taken = #[]
    · obtain ⟨hcode, hevents⟩ := Job.finish_failing_of_nil e h
      refine ⟨job.finish input {}, ?_, hcode.symm, hevents.symm, h.trans htaken.symm⟩
      simp only [finish, recorder, h, if_true, pure_bind, Array.append_empty]
      rfl
    · refine ⟨job.finish input (Sink.failing e), ?_, rfl, rfl, rfl⟩
      simp only [finish, recorder, if_neg h, pure_bind, htaken, Array.append_empty]
      rfl

/-- In surroundings that take all that is printed or nothing, a run that prints all at once does what
`execute` says of a device like that. -/
theorem run_recorder (options : Options) :
    let outcome := execute options read (device refusal)
    (recorder read refusal).run options {} =
      (outcome.exitCode, { printed := outcome.output.taken, events := outcome.events }) := by
  rw [execute, run]
  cases Job.ofOptions options with
  | error e => cases refusal <;> rfl
  | ok job =>
    -- What is told in the end comes behind what was told and kept on the way.
    let told (ended : Outcome × Recording) : Nat × Recording :=
      (ended.1.exitCode, { ended.2 with events := ended.2.events ++ ended.1.events })
    obtain ⟨outcome, hfinish, hcode, hevents, htaken⟩ :=
      finish_recorder read refusal job (read job.source) { events := job.opening }
    change told ((recorder read refusal).finish job (read job.source) { events := job.opening }) = _
    rw [hfinish]
    simp only [told, hcode, hevents, htaken, Array.empty_append]

end Surroundings
end SyscallNames
