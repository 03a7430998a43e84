import SyscallNames.Proofs.Listing.Run
import SyscallNames.Session

set_option autoImplicit false

namespace SyscallNames.Session

def Step.template? : Step → Option Template
  | .setTemplate source => (Template.parseOrDefault source).toOption
  | _ => none

def Step.list (ds : List Declaration) : Step → List Declaration
  | .extract text => Declaration.extract text
  | .append text => ds ++ Declaration.extract text
  | .push d => ds ++ [d]
  | _ => ds

/-- The last template that these steps have set, or the default one. -/
def templateBehind (before : List Step) : Template :=
  (before.filterMap Step.template?).getLast?.getD Template.default

def listBehind (before : List Step) : List Declaration := before.foldl Step.list []

/-- What a step writes behind the steps `before`: one line for each name. -/
def Step.lines (before : List Step) : Step → Bytes
  | .write => Listing.bytes (templateBehind before) ((listBehind before).map Declaration.name)
  | .run text => Listing.bytes (templateBehind before) (Declaration.names text)
  | _ => []

def linesBehind (before : List Step) : List Step → Bytes
  | [] => []
  | step :: rest => step.lines before ++ linesBehind (before ++ [step]) rest

/-- What an answer hands out of the output. -/
def Answer.handedOut : Answer → Bytes
  | .output bytes => bytes
  | _ => []

section Output

variable {template : Template} {sink : Sink}

structure Open (sink : Sink) : Prop extends sink.Direct where
  room : sink.room = none

theorem Open.fits (h : Open sink) (bs : Bytes) : sink.Fits bs :=
  Sink.fits_of_unlimited h.room bs

theorem Open.flushed_offered (h : Open sink) (bs : Bytes) :
    Open { sink.offered bs with flushes := sink.flushes + 1 } :=
  ⟨⟨h.capacity, h.held⟩, by simp [Sink.offered, h.room]⟩

theorem after_write (h : Open sink) (ds : List Declaration) :
    Sink.after (Listing.write template ds sink) =
      { sink.offered (Listing.bytes template (ds.map Declaration.name)) with
        flushes := sink.flushes + 1 } := by
  rw [Listing.write_of_fits ds h.held (h.fits _), Sink.flushDevice]
  cases hf : sink.flushFailure <;> simp [Sink.offered, hf, Sink.after]

theorem after_run (h : Open sink) (text : Bytes) :
    Sink.after (Listing.run { pending := text } template sink) =
      { sink.offered (Listing.ofText template text) with flushes := sink.flushes + 1 } := by
  rw [Listing.run_of_fits (by simp) rfl h.toDirect (h.fits _)]
  cases sink.flushFailure <;> rfl

end Output

section Steps

variable {s : Session} {before : List Step}

theorem step_template (s : Session) (step : Step) :
    (s.step step).2.template = step.template?.getD s.template := by
  cases step with
  | setTemplate source =>
    rw [Session.step, Step.template?]
    cases Template.parseOrDefault source <;> rfl
  | extract | append | push | render | write | run | report | take => rfl

theorem step_declarations (s : Session) (step : Step) :
    (s.step step).2.declarations = step.list s.declarations := by
  cases step with
  | setTemplate source =>
    rw [Session.step]
    cases Template.parseOrDefault source <;> rfl
  | extract | append | push | render | write | run | report | take => rfl

theorem templateBehind_append (before : List Step) (step : Step) :
    templateBehind (before ++ [step]) = step.template?.getD (templateBehind before) := by
  rw [templateBehind, List.filterMap_append]
  cases h : step.template? with
  | none => simp [h, templateBehind]
  | some template => simp [h]

theorem listBehind_append (before : List Step) (step : Step) :
    listBehind (before ++ [step]) = step.list (listBehind before) := by
  rw [listBehind, List.foldl_append]
  rfl

/-- The session as the steps `before` leave it, with anything in its output. -/
structure Behind (before : List Step) (s : Session) : Prop where
  template : s.template = templateBehind before
  declarations : s.declarations = listBehind before
  output : Open s.output

theorem behind_nil : Behind [] {} := ⟨rfl, rfl, ⟨rfl, rfl⟩, rfl⟩

theorem Behind.open_step (h : Behind before s) (step : Step) : Open (s.step step).2.output := by
  cases step with
  | setTemplate source =>
    rw [Session.step]
    cases Template.parseOrDefault source <;> exact h.output
  | write =>
    simp only [Session.step, after_write h.output]
    exact h.output.flushed_offered _
  | run text =>
    simp only [Session.step, after_run h.output]
    exact h.output.flushed_offered _
  | take => exact ⟨⟨h.output.capacity, h.output.held⟩, h.output.room⟩
  | extract | append | push | render | report => exact h.output

theorem Behind.after_step (h : Behind before s) (step : Step) :
    Behind (before ++ [step]) (s.step step).2 where
  template := by rw [step_template, templateBehind_append, h.template]
  declarations := by rw [step_declarations, listBehind_append, h.declarations]
  output := h.open_step step

theorem Behind.handedOut_step (h : Behind before s) (step : Step) :
    (s.step step).1.handedOut ++ (s.step step).2.output.taken.toList =
      s.output.taken.toList ++ step.lines before := by
  cases step with
  | setTemplate source =>
    rw [Session.step]
    cases Template.parseOrDefault source <;> exact (List.append_nil _).symm
  | write =>
    simp only [Session.step, after_write h.output, Step.lines, ← h.template, ← h.declarations]
    exact Sink.toList_taken_offered_of_unlimited h.output.room _
  | run text =>
    simp only [Session.step, after_run h.output, Step.lines, ← h.template]
    exact Sink.toList_taken_offered_of_unlimited h.output.room _
  | take => rfl
  | extract | append | push | render | report => exact (List.append_nil _).symm

theorem steps_cons (s : Session) (step : Step) (rest : List Step) :
    s.steps (step :: rest) =
      ((s.step step).1 :: ((s.step step).2.steps rest).1, ((s.step step).2.steps rest).2) := rfl

theorem Behind.steps (h : Behind before s) (script : List Step) :
    Behind (before ++ script) (s.steps script).2 := by
  induction script generalizing before s with
  | nil => rwa [List.append_nil]
  | cons step rest ih =>
    rw [steps_cons, List.append_cons]
    exact ih (h.after_step step)

theorem Behind.handedOut_steps (h : Behind before s) (script : List Step) :
    (s.steps script).1.flatMap Answer.handedOut ++ (s.steps script).2.output.taken.toList =
      s.output.taken.toList ++ linesBehind before script := by
  induction script generalizing before s with
  | nil => exact (List.append_nil _).symm
  | cons step rest ih =>
    rw [steps_cons, List.flatMap_cons, List.append_assoc, ih (h.after_step step),
      ← List.append_assoc, h.handedOut_step step, List.append_assoc]
    rfl

end Steps

section Refused

/-- The step tries to set a template that cannot be read. -/
def Step.Refused (step : Step) : Prop :=
  ∃ source e, step = .setTemplate source ∧ Template.parseOrDefault source = .error e

/-- What is left of a list without its marked members. -/
def unmarked {α : Type} (marked : List (α × Bool)) : List α :=
  (marked.filter fun m => !m.2).map Prod.fst

theorem step_of_refused {step : Step} (h : step.Refused) (s : Session) : (s.step step).2 = s := by
  obtain ⟨source, e, rfl, he⟩ := h
  rw [Session.step, he]

theorem steps_unmarked {marked : List (Step × Bool)}
    (h : ∀ step, (step, true) ∈ marked → step.Refused) (s : Session) :
    s.steps (unmarked marked) =
      (unmarked ((s.steps (marked.map Prod.fst)).1.zip (marked.map Prod.snd)),
        (s.steps (marked.map Prod.fst)).2) := by
  induction marked generalizing s with
  | nil => rfl
  | cons m marked ih =>
    obtain ⟨step, mark⟩ := m
    have hrest := ih fun step hstep => h step (List.mem_cons_of_mem _ hstep)
    rw [List.map_cons, steps_cons, List.map_cons, List.zip_cons_cons]
    cases mark with
    | true =>
      rw [step_of_refused (h step List.mem_cons_self)]
      exact hrest s
    | false =>
      have hfirst : unmarked ((step, false) :: marked) = step :: unmarked marked := rfl
      rw [hfirst, steps_cons, hrest]
      rfl

end Refused

/-- What `take` hands out and what is left in the end are together the lines that the steps write,
each with the last template, or the one that shows the name alone, and the list that the steps in
front of it leave. Neither writing a listing nor a run changes the list, and writing leaves the
template. Without any of the steps whose template is refused, all others answer the same and the
session ends the same. -/
theorem steps_hand_out_lines (script : List Step) :
    ((steps {} script).1.flatMap Answer.handedOut ++ (steps {} script).2.output.taken.toList =
        linesBehind [] script ∧
      (steps {} script).2.template = templateBehind script ∧
      (steps {} script).2.declarations = listBehind script ∧
      Template.parse "\x7b\x7d".toList = .ok (templateBehind [])) ∧
    (∀ (s : Session) (text : Bytes),
      (s.step (.run text)).2.declarations = s.declarations ∧
        (s.step .write).2.declarations = s.declarations ∧
        (s.step .write).2.template = s.template) ∧
    ∀ marked : List (Step × Bool), marked.map Prod.fst = script →
      (∀ step, (step, true) ∈ marked → step.Refused) →
        (steps {} (unmarked marked)).1 = unmarked ((steps {} script).1.zip (marked.map Prod.snd)) ∧
          (steps {} (unmarked marked)).2 = (steps {} script).2 := by
  have hbehind := behind_nil.steps script
  refine ⟨⟨behind_nil.handedOut_steps script, hbehind.template, hbehind.declarations, rfl⟩, ?_, ?_⟩
  · intro s text
    exact ⟨step_declarations s (.run text), step_declarations s .write, step_template s .write⟩
  · rintro marked rfl h
    rw [steps_unmarked h]
    exact ⟨rfl, rfl⟩

/-- The refused template is passed over, and the run leaves the list as it is. -/
example :
    linesBehind []
        [.push { name := "read".toList, line := 1, offset := 0 },
          .setTemplate (some "sys_\x7b\x7d".toList), .setTemplate (some "\x7b0".toList),
          .run (Utf8.encode "asmlinkage long sys_open".toList), .take, .write] =
      Utf8.encode "sys_open\nsys_read\n".toList := by
  decide +kernel

end SyscallNames.Session
