import SyscallNames.Proofs.Json.Layout
import SyscallNames.Proofs.Program.Result

set_option autoImplicit false

namespace SyscallNames

open Json (InStep inStep_bracket inStep_digits inStep_quote)

theorem Declaration.inStep_toJsonAt (d : Declaration) (depth : Nat) :
    InStep (fun layout => d.toJsonAt layout depth) 4 := by
  have hname := (inStep_quote d.name).member nameKey
  have hline := (inStep_digits d.line).member lineKey
  have hoffset := (inStep_digits d.offset).member offsetKey
  exact inStep_bracket depth '{' '}' (by decide) (by decide)
    (.cons hname (.cons hline (.cons hoffset .nil)))

theorem length_splitOn {α : Type} [DecidableEq α] (a : α) (l : List α) :
    (l.splitOn a).length = l.count a + 1 := by
  induction l with
  | nil => rfl
  | cons b l ih =>
    rw [List.splitOn_cons_eq_if_modifyHead, List.count_cons]
    by_cases hb : b = a
    · rw [if_pos (by simpa using hb), if_pos (by simpa using hb), List.length_cons, ih]
    · rw [if_neg (by simpa using hb), if_neg (by simpa using hb), List.length_modifyHead, ih]

namespace Report

theorem forall₂_inStep_declarations (ds : List Declaration) (depth : Nat) :
    List.Forall₂ InStep (ds.map fun d layout => d.toJsonAt layout depth)
      (List.replicate ds.length 4) := by
  induction ds with
  | nil => exact .nil
  | cons d ds ih => exact .cons (d.inStep_toJsonAt depth) ih

theorem inStep_declarations (ds : List Declaration) (depth : Nat) :
    InStep (fun layout => layout.array depth (ds.map (Declaration.toJsonAt layout (depth + 1))))
      (if ds = [] then 0 else 5 * ds.length + 1) := by
  refine (inStep_bracket depth '[' ']' (by decide) (by decide)
    (forall₂_inStep_declarations ds (depth + 1))).of_eq ?_ ?_
  · intro layout
    rw [List.map_map]
    rfl
  · simp only [List.map_eq_nil_iff, List.sum_replicate_nat, List.length_replicate]
    split <;> omega

theorem inStep_toJson (r : Report) :
    InStep (fun layout => r.toJson layout)
      (if r.declarations = [] then 4 else 5 * r.declarations.length + 5) := by
  have hsource := (inStep_quote r.source).member sourceKey
  have hcount := (inStep_digits r.count).member countKey
  have hdeclarations := (inStep_declarations r.declarations 1).member declarationsKey
  refine (inStep_bracket 0 '{' '}' (by decide) (by decide)
    (.cons hsource (.cons hcount (.cons hdeclarations .nil)))).of_eq (fun _ => rfl) ?_
  simp only [List.sum_cons, List.sum_nil, List.length_cons, List.length_nil, reduceCtorEq, if_false]
  split <;> omega

def lines (r : Report) : Json.Layout → Nat
  | .compact => 1
  | .indented => if r.declarations = [] then 5 else 6 + 5 * r.declarations.length

theorem count_newline_toJson (r : Report) (layout : Json.Layout) :
    (r.toJson layout).count '\n' + 1 = r.lines layout := by
  cases layout with
  | compact =>
    have hnone : (r.toJson .compact).count '\n' = 0 := r.inStep_toJson.printable.count_newline
    rw [hnone, lines]
  | indented =>
    rw [r.inStep_toJson.count_newline, lines]
    split <;> omega

theorem count_newline_encode_toJson (r : Report) (layout : Json.Layout) :
    (Utf8.encode (r.toJson layout)).count Declaration.newline + 1 = r.lines layout := by
  have hnewline : '\n'.toNat < 0x80 := by decide
  exact (congrArg (· + 1) (Utf8.count_encode hnewline _)).trans (r.count_newline_toJson layout)

/-- Whatever its strings are, a report has no control characters in the compact layout, the indented
one is the same without the blanks and line breaks between its tokens, and the number of lines
depends on the number of declarations alone. So a run that is to report writes one line, or as many
as there are brackets and members. -/
theorem layouts_toJson :
    (∀ r : Report,
      (∀ b ∈ Utf8.encode (r.toJson .compact), 0x20 ≤ b) ∧
      Json.squeeze .outside (r.toJson .indented) = r.toJson .compact ∧
      ∀ layout, ((r.toJson layout).splitOn '\n').length = r.lines layout) ∧
    ∀ (i : Invocation) (template : Template) (text : Bytes), i.device.Working →
      i.options.json = true → Template.parse i.options.format = .ok template → i.input = .ok text →
      let layout := if i.options.pretty then Json.Layout.indented else .compact
      let report := ofDeclarations (Source.ofArgument i.options.file) (Declaration.extract text)
      let document := Utf8.encode (report.toJson layout)
      i.outcome.output.taken.toList = document ++ [Declaration.newline] ∧
        (document.splitOn Declaration.newline).length = report.lines layout := by
  refine ⟨fun r => ⟨?_, ?_, fun layout => ?_⟩, ?_⟩
  · intro b hb
    exact Utf8.le_toNat_of_mem_encode (by decide) r.inStep_toJson.printable hb
  · have h := r.inStep_toJson.squeeze_append []
    rwa [List.append_nil, Json.squeeze, List.append_nil] at h
  · rw [length_splitOn, r.count_newline_toJson]
  · intro i template text hdevice hjson htemplate hinput layout report document
    obtain ⟨-, houtput⟩ := i.outcome_of_working_of_read hdevice htemplate hinput
    rw [i.printed_job, if_pos hjson] at houtput
    exact ⟨houtput, (length_splitOn ..).trans (report.count_newline_encode_toJson layout)⟩

/-- A report on a file whose name looks like a document, in both layouts. -/
theorem layouts_toJson_of_escapes :
    let path := Utf8.encode "\x7b\"a\\\": [\n\x1F ]\x7d".toList
    let text := Utf8.encode "asmlinkage long sys_read(asmlinkage long sys_open".toList
    let run (pretty : Bool) : Invocation := {
      options := { file := some path, json := true, pretty }
      files := FileTree.addFile {} path text }
    let breaks (pretty : Bool) := (run pretty).outcome.output.taken.toList.count Declaration.newline
    (∀ pretty, (run pretty).device.Working ∧ (run pretty).input = .ok text) ∧
      breaks false = 1 ∧ breaks true = 16 := by
  intro path text run breaks
  have hdevice (pretty : Bool) : (run pretty).device.Working := ⟨rfl, rfl, rfl, rfl⟩
  have hinput (pretty : Bool) : (run pretty).input = .ok text := by cases pretty <;> rfl
  have hlines (pretty : Bool) : breaks pretty =
      (ofDeclarations (Source.ofArgument (some path)) (Declaration.extract text)).lines
        (if pretty then .indented else .compact) := by
    obtain ⟨template, htemplate⟩ : ∃ template, Template.parse "\x7b\x7d".toList = .ok template :=
      ⟨_, rfl⟩
    obtain ⟨houtput, hdocument⟩ := layouts_toJson.2 (run pretty) template text
      (hdevice pretty) rfl htemplate (hinput pretty)
    rw [length_splitOn] at hdocument
    refine Eq.trans ?_ hdocument
    rw [← List.count_singleton_self (a := Declaration.newline), ← List.count_append]
    exact congrArg (List.count Declaration.newline) houtput
  have hlength : (Declaration.extract text).length = 2 := by decide +kernel
  refine ⟨fun pretty => ⟨hdevice pretty, hinput pretty⟩, hlines false, (hlines true).trans ?_⟩
  have hsome : Declaration.extract text ≠ [] := fun h => by simp [h] at hlength
  exact (if_neg hsome).trans (congrArg (fun n => 6 + 5 * n) hlength)

end Report
end SyscallNames
