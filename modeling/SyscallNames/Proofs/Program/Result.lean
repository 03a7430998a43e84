import SyscallNames.Proofs.Listing.Identification
import SyscallNames.Proofs.Program.Outcome
import SyscallNames.Proofs.Report.RoundTrip

set_option autoImplicit false

namespace SyscallNames

/-- An output that takes all that is written, and has taken nothing yet. -/
structure Sink.Working (device : Sink) : Prop where
  room : device.room = none
  flushFailure : device.flushFailure = none
  held : device.held = #[]
  taken : device.taken = #[]

namespace Listing

variable {template : Template} {text : Bytes}

/-- What a run over a text writes, when nothing fails. -/
def ofRun (template : Template) (text : Bytes) : Bytes :=
  (Sink.after (run { pending := text } template {})).taken.toList

@[simp]
theorem ofRun_eq (template : Template) (text : Bytes) :
    ofRun template text = ofText template text := by
  have hinput : ({ pending := text } : Input).Reliable := ⟨by simp, rfl⟩
  exact taken_run hinput ⟨rfl, rfl⟩ rfl

end Listing

namespace Invocation

variable {i : Invocation} {template : Template} {text : Bytes}

theorem outcome_of_working_of_read (hdevice : i.device.Working)
    (h : Template.parse i.options.format = .ok template) (hinput : i.input = .ok text) :
    i.outcome.exitCode = 0 ∧
      i.outcome.output.taken.toList = (i.job template).printed (Declaration.extract text) := by
  have hfits := Sink.fits_of_unlimited hdevice.room
    ((i.job template).printed (Declaration.extract text))
  rw [outcome_of_read h hinput
    (Job.finishWriting_of_fits hdevice.held hdevice.flushFailure hfits)]
  refine ⟨rfl, ?_⟩
  refine (Sink.toList_taken_offered_of_unlimited hdevice.room _).trans ?_
  rw [hdevice.taken]
  rfl

theorem printed_job (i : Invocation) (template : Template) (text : Bytes) :
    (i.job template).printed (Declaration.extract text) =
      if i.options.json then
        Utf8.encode ((Report.ofDeclarations (Source.ofArgument i.options.file)
          (Declaration.extract text)).toJson
            (if i.options.pretty then .indented else .compact)) ++ [Declaration.newline]
      else if i.options.count then
        Utf8.encode (Decimal.digits (Declaration.extract text).length) ++ [Declaration.newline]
      else Listing.ofRun template text := by
  rw [Job.printed, job, Job.ofTemplate, Job.modeOf]
  cases i.options.json with
  | true => rfl
  | false =>
    cases i.options.count with
    | true => rfl
    | false => exact (Listing.ofRun_eq template text).symm

end Invocation
end SyscallNames
