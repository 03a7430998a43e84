import SyscallNames.Proofs.Declaration.Name
import SyscallNames.Proofs.Template.Language

set_option autoImplicit false

namespace SyscallNames

section Lengths

variable {name other : Text}

theorem Conversion.length_apply_le (conversion : Conversion) (h : name.length ≤ other.length) :
    (conversion.apply name).length ≤ (conversion.apply other).length := by
  cases conversion with
  | plain => exact h
  | quoted => simpa [apply] using h

theorem Field.length_render (f : Field) (name : Text) :
    (f.render name).length =
      max f.spec.width (f.spec.precision.elim (f.conversion.apply name).length
        fun p => min p (f.conversion.apply name).length) := by
  rw [render, FieldSpec.length_pad, FieldSpec.length_cut]

theorem Field.length_render_le (f : Field) (h : name.length ≤ other.length) :
    (f.render name).length ≤ (f.render other).length := by
  have happly := f.conversion.length_apply_le h
  rw [length_render, length_render]
  cases f.spec.precision with
  | none =>
    simp only [Option.elim_none]
    omega
  | some p =>
    simp only [Option.elim_some]
    omega

theorem Segment.length_render_le (s : Segment) (h : name.length ≤ other.length) :
    (s.render name).length ≤ (s.render other).length := by
  cases s with
  | literal text => exact Nat.le_refl _
  | field f => exact f.length_render_le h

end Lengths

section Parts

variable {α β : Type} {f g : α → List β} {l : List α}

theorem length_flatMap_le (hle : ∀ a ∈ l, (f a).length ≤ (g a).length) :
    (l.flatMap f).length ≤ (l.flatMap g).length := by
  induction l with
  | nil => exact Nat.le_refl _
  | cons a l ih =>
    obtain ⟨ha, hl⟩ := List.forall_mem_cons.mp hle
    rw [List.flatMap_cons, List.flatMap_cons, List.length_append, List.length_append]
    exact Nat.add_le_add ha (ih hl)

theorem eq_of_flatMap_eq (hle : ∀ a ∈ l, (f a).length ≤ (g a).length)
    (h : l.flatMap f = l.flatMap g) : ∀ a ∈ l, f a = g a := by
  induction l with
  | nil => simp
  | cons a l ih =>
    obtain ⟨ha, hl⟩ := List.forall_mem_cons.mp hle
    have hrest := length_flatMap_le hl
    have hsum := congrArg List.length h
    rw [List.flatMap_cons, List.flatMap_cons] at h hsum
    rw [List.length_append, List.length_append] at hsum
    obtain ⟨hhead, htail⟩ := List.append_inj h (by omega)
    exact List.forall_mem_cons.mpr ⟨hhead, ih hl htail⟩

end Parts

section Telling

open Declaration (IsNameChar)

/-- A field that shows all of a name, and fills up, if at all, with characters no name can hold. -/
structure Field.Tells (f : Field) : Prop where
  precision : f.spec.precision = none
  fill : f.spec.width = 0 ∨ ¬ IsNameChar f.spec.fill

theorem FieldSpec.filter_pad {p : Char → Bool} (spec : FieldSpec)
    (h : spec.width = 0 ∨ p spec.fill = false) (value : Text) :
    (spec.pad value).filter p = value.filter p := by
  have hfill : ∀ n, n ≤ spec.width → (List.replicate n spec.fill).filter p = [] := by
    intro n hn
    rcases h with hwidth | hfill
    · obtain rfl : n = 0 := by omega
      rfl
    · rw [List.filter_replicate, if_neg (by simp [hfill])]
  rw [pad]
  split <;> simp only [List.filter_append]
  · rw [hfill _ (Nat.sub_le _ _), List.append_nil]
  · rw [hfill _ (Nat.sub_le _ _), List.nil_append]
  · rw [hfill _ (by omega), hfill _ (by omega), List.nil_append, List.append_nil]

theorem Conversion.filter_apply (conversion : Conversion) {name : Text}
    (h : ∀ c ∈ name, IsNameChar c) :
    (conversion.apply name).filter (IsNameChar ·) = name := by
  have hname : name.filter (IsNameChar ·) = name :=
    List.filter_eq_self.mpr fun c hc => decide_eq_true (h c hc)
  have hquote : decide (IsNameChar '\x27') = false := by decide
  cases conversion with
  | plain => exact hname
  | quoted => simp [apply, hquote, hname]

theorem Field.Tells.filter_render {f : Field} (hf : f.Tells) {name : Text}
    (h : ∀ c ∈ name, IsNameChar c) : (f.render name).filter (IsNameChar ·) = name := by
  have hcut : f.spec.cut (f.conversion.apply name) = f.conversion.apply name := by
    rw [FieldSpec.cut, hf.precision]
  rw [Field.render, hcut, FieldSpec.filter_pad _ (hf.fill.imp_right decide_eq_false),
    f.conversion.filter_apply h]

/-- Two names that look the same in a template with such a field are the same. -/
theorem Template.eq_of_render_eq {template : Template} {f : Field}
    (hmem : .field f ∈ template.segments) (hf : f.Tells) {name other : Text}
    (hname : ∀ c ∈ name, IsNameChar c) (hother : ∀ c ∈ other, IsNameChar c)
    (h : template.render name = template.render other) : name = other := by
  have hfield : f.render name = f.render other := by
    rcases Nat.le_total name.length other.length with hle | hle
    · exact eq_of_flatMap_eq (fun s _ => s.length_render_le hle) h _ hmem
    · exact (eq_of_flatMap_eq (fun s _ => s.length_render_le hle) h.symm _ hmem).symm
  rw [← hf.filter_render hname, hfield, hf.filter_render hother]

end Telling

section Characters

variable {c : Char} {name value : Text}

theorem FieldSpec.Form.mem_render {s : Form} (h : c ∈ s.render value) :
    c = s.fillChar ∨ c ∈ value := by
  simp only [render, List.mem_append] at h
  obtain (h | h) | h := h
  · exact .inl (List.eq_of_mem_replicate h)
  · exact .inr (List.mem_of_mem_take h)
  · exact .inl (List.eq_of_mem_replicate h)

theorem FieldSpec.Form.fillChar_mem (s : Form) : s.fillChar ∈ s.text ∨ s.fillChar = ' ' := by
  cases hf : s.fill with
  | some fill => exact .inl (by simp [fillChar, text, hf])
  | none =>
    cases hz : s.zero with
    | false => exact .inr (by simp [fillChar, hf, hz])
    | true =>
      cases ha : s.align with
      | none => exact .inl (by simp [fillChar, text, hf, hz, ha])
      | some a => exact .inr (by simp [fillChar, hf, ha])

theorem Conversion.Form.mem_render {f : Form} (h : c ∈ f.render name) :
    c ∈ name ∨ c = '\x27' := by
  cases f with
  | absent => exact .inl h
  | s => exact .inl h
  | r => simpa [render, or_comm] using h
  | a => simpa [render, or_comm] using h

theorem Field.Form.mem_render {f : Form} (h : c ∈ f.render name) :
    c ∈ f.text ∨ c ∈ name ∨ c = '\x27' ∨ c = ' ' := by
  rw [render] at h
  cases hs : f.spec with
  | none =>
    rw [hs, Option.elim_none] at h
    exact .inr ((Conversion.Form.mem_render h).imp_right .inl)
  | some s =>
    rw [hs, Option.elim_some] at h
    rcases FieldSpec.Form.mem_render h with rfl | h
    · rcases s.fillChar_mem with hfill | hfill
      · exact .inl (by simp [text, hs, hfill])
      · exact .inr (.inr (.inr hfill))
    · exact .inr ((Conversion.Form.mem_render h).imp_right .inl)

theorem Template.mem_render {source : Text} {template : Template}
    (hparse : parse source = .ok template) (h : c ∈ template.render name) :
    c ∈ source ∨ c ∈ name ∨ c = '\x27' ∨ c = ' ' := by
  obtain ⟨t, -, rfl, rfl⟩ := exists_form_of_parse hparse
  rw [render, Form.render_ofPieces] at h
  obtain ⟨p, hp, hc⟩ := List.mem_flatMap.mp h
  have htext : ∀ d ∈ (p.map Field.Form.text).text, d ∈ t.text := by
    intro d hd
    exact List.mem_flatMap.mpr ⟨_, List.mem_map_of_mem hp, hd⟩
  cases p with
  | literal d =>
    obtain rfl := List.mem_singleton.mp hc
    refine .inl (htext _ ?_)
    by_cases hbrace : c = '{' ∨ c = '}' <;> simp [Piece.map, Piece.text, hbrace]
  | field f =>
    refine (Field.Form.mem_render hc).imp_left fun hf => htext c ?_
    simp [Piece.map, Piece.text, hf]

end Characters
end SyscallNames
