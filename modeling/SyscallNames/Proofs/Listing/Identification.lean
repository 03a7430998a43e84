import SyscallNames.Proofs.Listing.Run
import SyscallNames.Proofs.Template.Rendering
import SyscallNames.Proofs.Utf8

set_option autoImplicit false

namespace SyscallNames

/-- A stream that hands out all of its bytes, and then ends. -/
structure Input.Reliable (input : Input) : Prop where
  chunk : input.chunk ≠ some 0
  failure : input.failure = none

namespace Listing

open Declaration (IsName IsNameChar)

variable {template : Template}

def text (template : Template) (names : List Text) : Text :=
  names.flatMap fun name => template.render name ++ ['\n']

theorem bytes_eq_encode (template : Template) (names : List Text) :
    bytes template names = Utf8.encode (text template names) := by
  induction names with
  | nil => rfl
  | cons name names ih =>
    have htext : text template (name :: names) =
        template.render name ++ (['\n'] ++ text template names) := by
      rw [text, List.flatMap_cons, List.append_assoc]
      rfl
    rw [bytes_cons, ih, htext, Utf8.encode_append, Utf8.encode_append]
    rfl

theorem splitOn_text {names : List Text} (h : ∀ name ∈ names, '\n' ∉ template.render name) :
    (text template names).splitOn '\n' = names.map template.render ++ [[]] := by
  induction names with
  | nil => rfl
  | cons name names ih =>
    obtain ⟨hname, hnames⟩ := List.forall_mem_cons.mp h
    rw [text, List.flatMap_cons, List.append_assoc, List.singleton_append,
      List.splitOn_append_cons_self_of_not_mem hname]
    exact congrArg _ (ih hnames)

theorem newline_not_mem_render {source : Text} (hparse : Template.parse source = .ok template)
    (hline : '\n' ∉ source) {name : Text} (hname : ∀ c ∈ name, IsNameChar c) :
    '\n' ∉ template.render name := by
  intro h
  rcases Template.mem_render hparse h with hsource | hc | hquote | hblank
  · exact hline hsource
  · exact absurd (hname _ hc) (by decide)
  · exact absurd hquote (by decide)
  · exact absurd hblank (by decide)

section Telling

variable {source : Text} {f : Field} {names others : List Text}

theorem eq_of_map_render_eq (hmem : .field f ∈ template.segments) (hf : f.Tells)
    (hnames : ∀ name ∈ names, IsName name) (hothers : ∀ name ∈ others, IsName name)
    (h : names.map template.render = others.map template.render) : names = others := by
  induction names generalizing others with
  | nil => exact (List.map_eq_nil_iff.mp h.symm).symm
  | cons name names ih =>
    cases others with
    | nil => cases h
    | cons other others =>
      obtain ⟨hname, hnames⟩ := List.forall_mem_cons.mp hnames
      obtain ⟨hother, hothers⟩ := List.forall_mem_cons.mp hothers
      obtain ⟨hhead, htail⟩ := List.cons_eq_cons.mp h
      rw [Template.eq_of_render_eq hmem hf hname.isNameChar hother.isNameChar hhead,
        ih hnames hothers htail]

theorem bytes_injective (hparse : Template.parse source = .ok template) (hline : '\n' ∉ source)
    (hmem : .field f ∈ template.segments) (hf : f.Tells)
    (hnames : ∀ name ∈ names, IsName name) (hothers : ∀ name ∈ others, IsName name)
    (h : bytes template names = bytes template others) : names = others := by
  rw [bytes_eq_encode, bytes_eq_encode] at h
  have hsplit := congrArg (List.splitOn '\n') (Utf8.encode_injective h)
  rw [splitOn_text fun name hn => newline_not_mem_render hparse hline (hnames name hn).isNameChar,
    splitOn_text fun name hn => newline_not_mem_render hparse hline (hothers name hn).isNameChar]
    at hsplit
  exact eq_of_map_render_eq hmem hf hnames hothers (List.append_cancel_right hsplit)

end Telling

section Runs

variable {source : Text} {input other : Input} {sink : Sink}

theorem taken_run (hinput : input.Reliable) (hsink : sink.Direct) (hroom : sink.room = none) :
    (Sink.after (run input template sink)).taken.toList =
      sink.taken.toList ++ ofText template input.pending := by
  have htaken : (Sink.after (run input template sink)).taken =
      (sink.offered (ofText template input.pending)).taken := by
    rw [run_of_fits hinput.chunk hinput.failure hsink (Sink.fits_of_unlimited hroom _)]
    cases sink.flushFailure <;> rfl
  rw [htaken, Sink.toList_taken_offered_of_unlimited hroom]

/-- A template on one line that has a field which tells its name writes the same for two texts
exactly if they declare the same names, and no two names give the same line. -/
theorem taken_run_eq_iff (hparse : Template.parse source = .ok template) (hline : '\n' ∉ source)
    (htells : ∃ f, Segment.field f ∈ template.segments ∧ f.Tells)
    (hinput : input.Reliable) (hother : other.Reliable) (hsink : sink.Direct)
    (hroom : sink.room = none) :
    ((Sink.after (run input template sink)).taken = (Sink.after (run other template sink)).taken ↔
      Declaration.names input.pending = Declaration.names other.pending) ∧
    ∀ a b, IsName a → IsName b → line template a = line template b → a = b := by
  obtain ⟨f, hmem, hf⟩ := htells
  refine ⟨?_, fun a b ha hb h => ?_⟩
  · rw [← Array.toList_inj, taken_run hinput hsink hroom, taken_run hother hsink hroom,
      List.append_right_inj]
    constructor
    · intro h
      exact bytes_injective hparse hline hmem hf
        (fun _ => Declaration.isName_of_mem_names) (fun _ => Declaration.isName_of_mem_names) h
    · intro h
      rw [ofText, ofText, h]
  · have hrender := Utf8.encode_injective (List.append_cancel_right h)
    exact Template.eq_of_render_eq hmem hf ha.isNameChar hb.isNameChar hrender

/-- The first field cuts both names to the same text, and the last one fills them up to it. -/
theorem taken_run_ne_of_padded :
    let source := "\x7b0:.4\x7d\x7b0!r:*^12\x7d\x7b0:v<5\x7d".toList
    let template : Template := {
      source
      segments := [.field { spec := { precision := some 4 } },
        .field { conversion := .quoted, spec := { fill := '*', align := .center, width := 12 } },
        .field { spec := { fill := 'v', width := 5 } }] }
    let input : Input := { pending := Utf8.encode "asmlinkage long sys_read".toList }
    let other : Input := { pending := Utf8.encode "asmlinkage long sys_readv".toList, chunk := some 3 }
    Template.parse source = .ok template ∧ input.Reliable ∧ other.Reliable ∧
      (Sink.after (run input template {})).taken ≠ (Sink.after (run other template {})).taken := by
  intro source template input other
  have hparse : Template.parse source = .ok template := rfl
  have hinput : input.Reliable := ⟨by decide, rfl⟩
  have hother : other.Reliable := ⟨by decide, rfl⟩
  have htells : ∃ f, Segment.field f ∈ template.segments ∧ f.Tells :=
    ⟨_, List.mem_cons_of_mem _ List.mem_cons_self, rfl, .inr (by decide)⟩
  refine ⟨hparse, hinput, hother, fun h => ?_⟩
  have hnames :=
    (taken_run_eq_iff hparse (by decide) htells hinput hother ⟨rfl, rfl⟩ rfl).1.mp h
  exact absurd hnames (by decide +kernel)

end Runs

end Listing
end SyscallNames
