import SyscallNames.Program
import SyscallNames.Proofs.Listing.Run

set_option autoImplicit false

namespace SyscallNames

namespace Job

variable {job : Job} {ds : List Declaration} {device : Sink}

def printed (job : Job) (ds : List Declaration) : Bytes :=
  match job.mode with
  | .lines => Listing.bytes job.template (ds.map Declaration.name)
  | .count => Utf8.encode (Decimal.digits ds.length) ++ [Declaration.newline]
  | .json layout =>
    Utf8.encode ((Report.ofDeclarations job.source ds).toJson layout) ++ [Declaration.newline]

/-- In each mode, printing is a row of writes with a flush at its end. -/
theorem exists_write_eq_putAll (job : Job) (ds : List Declaration) :
    ∃ portions, job.write ds = Sink.putAll portions ∧ portions.flatten = job.printed ds := by
  cases hm : job.mode with
  | lines =>
    refine ⟨Listing.portions job.template (ds.map Declaration.name), ?_, ?_⟩
    · rw [write, hm]
      exact Listing.write_eq_putAll job.template ds
    · rw [printed, hm]
      exact Listing.flatten_portions ..
  | count =>
    refine ⟨[Utf8.encode (Decimal.digits ds.length), [Declaration.newline]], ?_, ?_⟩
    · rw [write, hm]
      rfl
    · rw [printed, hm]
      rfl
  | json layout =>
    refine ⟨[Utf8.encode ((Report.ofDeclarations job.source ds).toJson layout),
      [Declaration.newline]], ?_, ?_⟩
    · rw [write, hm]
      rfl
    · rw [printed, hm]
      rfl

section Device

variable (hheld : device.held = #[])

include hheld

theorem write_of_fits (hf : device.Fits (job.printed ds)) :
    job.write ds { device with capacity := bufferSize } =
      Sink.flushDevice { device.offered (job.printed ds) with capacity := bufferSize } := by
  obtain ⟨portions, hwrite, hprinted⟩ := job.exists_write_eq_putAll ds
  rw [← hprinted] at hf ⊢
  rw [hwrite]
  let buffered : Sink := { device with capacity := bufferSize }
  have h : buffered.held = #[] := hheld
  exact Sink.putAll_of_fits h hf

theorem write_of_not_fits (hf : ¬ device.Fits (job.printed ds)) :
    job.write ds { device with capacity := bufferSize } =
      .error device.refusalError
        { device.offered (job.printed ds) with capacity := bufferSize } := by
  obtain ⟨portions, hwrite, hprinted⟩ := job.exists_write_eq_putAll ds
  rw [← hprinted] at hf ⊢
  rw [hwrite]
  let buffered : Sink := { device with capacity := bufferSize }
  have h : buffered.held = #[] := hheld
  exact Sink.putAll_of_not_fits h hf

theorem finishWriting_of_fits (hflush : device.flushFailure = none)
    (hf : device.Fits (job.printed ds)) :
    job.finishWriting ds device =
      (0, { device.offered (job.printed ds) with
        flushes := device.flushes + 1, capacity := bufferSize }, []) := by
  have hfailure : (device.offered (job.printed ds)).flushFailure = none := hflush
  rw [finishWriting, write_of_fits hheld hf, Sink.flushDevice]
  simp only [hfailure]
  rfl

theorem finishWriting_of_not_fits (hf : ¬ device.Fits (job.printed ds)) :
    job.finishWriting ds device =
      if device.refusalError = .system .brokenPipe then
        (0, { device.offered (job.printed ds) with capacity := bufferSize },
          [.commandLine .debug
            ("Stdout closed early: " ++ (IoError.system .brokenPipe).message)])
      else
        (1, { device.offered (job.printed ds) with capacity := bufferSize },
          [.failure ("Failed to write output: " ++ device.refusalError.message)]) := by
  rw [finishWriting, write_of_not_fits hheld hf]
  generalize device.refusalError = e
  by_cases h : e = .system .brokenPipe
  · rw [if_pos h, h]
  · rw [if_neg h]
    split
    · rename_i heq
      cases heq
    · rename_i heq
      cases heq
      exact absurd rfl h
    · rename_i heq
      cases heq
      rfl

end Device

end Job
end SyscallNames
