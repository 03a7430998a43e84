import SyscallNames.Proofs.Template.Literals

set_option autoImplicit false

namespace SyscallNames

section Numbers

variable {names : List FieldName.Form}

theorem Numbering.addAll_explicit (h : ∀ name ∈ names, name ≠ .automatic) :
    Numbering.explicit.addAll names = .ok .explicit := by
  induction names with
  | nil => rfl
  | cons name names ih =>
    obtain ⟨hname, hnames⟩ := List.forall_mem_cons.mp h
    cases name with
    | automatic => exact absurd rfl hname
    | zeros plus more =>
      rw [addAll_cons]
      exact ih hnames

theorem Numbering.addAll_undecided (hne : names ≠ []) (h : ∀ name ∈ names, name ≠ .automatic) :
    Numbering.undecided.addAll names = .ok .explicit := by
  obtain ⟨name, names, rfl⟩ := List.exists_cons_of_ne_nil hne
  obtain ⟨hname, hnames⟩ := List.forall_mem_cons.mp h
  cases name with
  | automatic => exact absurd rfl hname
  | zeros plus more =>
    rw [addAll_cons]
    exact addAll_explicit hnames

theorem Numbering.addAll_automatic (hne : names ≠ []) (h : ∀ name ∈ names, name ≠ .automatic) :
    Numbering.automatic.addAll names = .error .automaticThenExplicit := by
  obtain ⟨name, names, rfl⟩ := List.exists_cons_of_ne_nil hne
  cases name with
  | automatic => exact absurd rfl (h _ List.mem_cons_self)
  | zeros plus more => rfl

end Numbers

namespace Template

def HasAutomatic (source : Text) : Prop :=
  ∃ t : Form, t.WellFormed ∧ t.text = source ∧ ∃ f ∈ t.fields, f.name = .automatic

namespace Form

variable {t u : Form}

def template (t : Form) : Template :=
  { source := t.text, segments := Segment.ofPieces t.meaning }

@[simp]
theorem render_template (t : Form) (name : Text) : t.template.render name = t.render name :=
  render_ofPieces t name

theorem hasAutomatic_text (h : t.WellFormed) :
    HasAutomatic t.text ↔ ∃ f ∈ t.fields, f.name = .automatic := by
  constructor
  · rintro ⟨u, hu, htext, hf⟩
    rwa [text_injective hu h htext] at hf
  · intro hf
    exact ⟨t, h, rfl, hf⟩

theorem names_of_hasAutomatic (h : t.WellFormed) (ha : HasAutomatic t.text) :
    t.fields.map Field.Form.name = [.automatic] := by
  obtain ⟨f, hf, hname⟩ := (hasAutomatic_text h).mp ha
  exact h.numbered.resolve_right fun hn => hn.2 f hf hname

theorem names_of_not_hasAutomatic (h : t.WellFormed) (ha : ¬ HasAutomatic t.text) :
    t.fields.map Field.Form.name ≠ [] ∧
      ∀ name ∈ t.fields.map Field.Form.name, name ≠ .automatic := by
  rw [hasAutomatic_text h] at ha
  refine ⟨fun hnil => h.numbered.fields_ne_nil (List.map_eq_nil_iff.mp hnil), ?_⟩
  intro name hname hauto
  obtain ⟨f, hf, rfl⟩ := List.mem_map.mp hname
  exact ha ⟨f, hf, hauto⟩

@[simp]
theorem names_append (t u : Form) :
    (fields (t ++ u)).map Field.Form.name =
      t.fields.map Field.Form.name ++ u.fields.map Field.Form.name := by
  rw [fields_append, List.map_append]

theorem wellFormed_fields_append (ht : t.WellFormed) (hu : u.WellFormed) :
    ∀ f ∈ fields (t ++ u), f.WellFormed := by
  rw [fields_append]
  intro f hf
  exact (List.mem_append.mp hf).elim (ht.fields f) (hu.fields f)

theorem wellFormed_append (ht : t.WellFormed) (hu : u.WellFormed) (hna : ¬ HasAutomatic t.text)
    (hnb : ¬ HasAutomatic u.text) : WellFormed (t ++ u) := by
  rw [hasAutomatic_text ht] at hna
  rw [hasAutomatic_text hu] at hnb
  refine ⟨wellFormed_fields_append ht hu, .inr ⟨?_, ?_⟩⟩
  · rw [fields_append]
    exact List.append_ne_nil_of_left_ne_nil ht.numbered.fields_ne_nil _
  · rw [fields_append]
    intro f hf hname
    exact (List.mem_append.mp hf).elim (fun hf => hna ⟨f, hf, hname⟩) fun hf => hnb ⟨f, hf, hname⟩

/-- The fields behind the seam are read with the numbering that the fields in front of it leave. -/
theorem parse_append_eq_error (ht : t.WellFormed) (hu : u.WellFormed) {n : Numbering}
    {e : FieldError} (hn : Numbering.undecided.addAll (t.fields.map Field.Form.name) = .ok n)
    (he : n.addAll (u.fields.map Field.Form.name) = .error e) :
    Template.parse (t.text ++ u.text) = .error (.field e) := by
  rw [← text_append]
  apply parse_text_of_addAll_eq_error (wellFormed_fields_append ht hu)
  rw [names_append, Numbering.addAll_append, hn]
  exact he

section Seam

variable (ht : t.WellFormed) (hu : u.WellFormed)

include ht hu

theorem parse_append_automatic_automatic (ha : HasAutomatic t.text) (hb : HasAutomatic u.text) :
    Template.parse (t.text ++ u.text) = .error (.field (.indexOutOfRange 1)) := by
  apply parse_append_eq_error (n := .automatic) ht hu
  · rw [names_of_hasAutomatic ht ha]
    rfl
  · rw [names_of_hasAutomatic hu hb]
    rfl

theorem parse_append_automatic_explicit (ha : HasAutomatic t.text) (hb : ¬ HasAutomatic u.text) :
    Template.parse (t.text ++ u.text) = .error (.field .automaticThenExplicit) := by
  obtain ⟨hne, hnames⟩ := names_of_not_hasAutomatic hu hb
  apply parse_append_eq_error (n := .automatic) ht hu
  · rw [names_of_hasAutomatic ht ha]
    rfl
  · exact Numbering.addAll_automatic hne hnames

theorem parse_append_explicit_automatic (ha : ¬ HasAutomatic t.text) (hb : HasAutomatic u.text) :
    Template.parse (t.text ++ u.text) = .error (.field .explicitThenAutomatic) := by
  obtain ⟨hne, hnames⟩ := names_of_not_hasAutomatic ht ha
  apply parse_append_eq_error (n := .explicit) ht hu
  · exact Numbering.addAll_undecided hne hnames
  · rw [names_of_hasAutomatic hu hb]
    rfl

theorem parse_append_explicit_explicit (ha : ¬ HasAutomatic t.text) (hb : ¬ HasAutomatic u.text) :
    Template.parse (t.text ++ u.text) = .ok (template (t ++ u)) := by
  rw [← text_append]
  exact parse_text (wellFormed_append ht hu ha hb)

theorem not_hasAutomatic_of_parse_append {joined : Template}
    (h : Template.parse (t.text ++ u.text) = .ok joined) :
    ¬ HasAutomatic t.text ∧ ¬ HasAutomatic u.text := by
  by_cases ha : HasAutomatic t.text
  · by_cases hb : HasAutomatic u.text
    · rw [parse_append_automatic_automatic ht hu ha hb] at h
      cases h
    · rw [parse_append_automatic_explicit ht hu ha hb] at h
      cases h
  · refine ⟨ha, fun hb => ?_⟩
    rw [parse_append_explicit_automatic ht hu ha hb] at h
    cases h

end Seam

theorem parse_around (h : t.WellFormed) (x y : Text) :
    Template.parse (escape x ++ t.text ++ escape y) =
      .ok (template (literals x ++ t ++ literals y)) := by
  have hfields : fields (literals x ++ t ++ literals y) = t.fields := by
    rw [fields_append, fields_append, fields_literals, fields_literals, List.nil_append,
      List.append_nil]
  have hw : WellFormed (literals x ++ t ++ literals y) := by
    constructor
    · rw [hfields]
      exact h.fields
    · rw [Numbered, hfields]
      exact h.numbered
  rw [← text_literals, ← text_literals, ← text_append, ← text_append]
  exact parse_text hw

end Form

/-- Two templates put behind each other are a template exactly if every field of both has a number,
and then show what the two show. Otherwise the first field behind the seam is refused, for being a
second one without a number or for the change of numbering. Around any template, text whose braces
are written twice stands for itself. -/
theorem parse_append_iff {a b : Text} {first second : Template} (ha : parse a = .ok first)
    (hb : parse b = .ok second) :
    ((∃ joined, parse (a ++ b) = .ok joined) ↔ ¬ HasAutomatic a ∧ ¬ HasAutomatic b) ∧
    (∀ joined, parse (a ++ b) = .ok joined →
      ∀ name, joined.render name = first.render name ++ second.render name) ∧
    (HasAutomatic a → HasAutomatic b →
      ∃ e, parse (a ++ b) = .error e ∧ e.message (a ++ b) =
        "Replacement index 1 out of range: the only argument is the syscall name") ∧
    (HasAutomatic a → ¬ HasAutomatic b →
      ∃ e, parse (a ++ b) = .error e ∧ e.message (a ++ b) =
        "Cannot switch from automatic field numbering to manual field specification") ∧
    (¬ HasAutomatic a → HasAutomatic b →
      ∃ e, parse (a ++ b) = .error e ∧ e.message (a ++ b) =
        "Cannot switch from manual field specification to automatic field numbering") ∧
    ∀ x y, ∃ joined, parse (escape x ++ a ++ escape y) = .ok joined ∧
      ∀ name, joined.render name = x ++ first.render name ++ y := by
  obtain ⟨t, ht, rfl, rfl⟩ := exists_form_of_parse ha
  obtain ⟨u, hu, rfl, rfl⟩ := exists_form_of_parse hb
  refine ⟨⟨?_, ?_⟩, ?_, ?_, ?_, ?_, ?_⟩
  · rintro ⟨joined, h⟩
    exact Form.not_hasAutomatic_of_parse_append ht hu h
  · rintro ⟨hna, hnb⟩
    exact ⟨_, Form.parse_append_explicit_explicit ht hu hna hnb⟩
  · intro joined h name
    obtain ⟨hna, hnb⟩ := Form.not_hasAutomatic_of_parse_append ht hu h
    rw [Form.parse_append_explicit_explicit ht hu hna hnb] at h
    cases h
    rw [Form.render_template, Form.render_append]
    exact (congrArg₂ (· ++ ·) (t.render_template name) (u.render_template name)).symm
  · intro hha hhb
    exact ⟨_, Form.parse_append_automatic_automatic ht hu hha hhb, rfl⟩
  · intro hha hnb
    exact ⟨_, Form.parse_append_automatic_explicit ht hu hha hnb, rfl⟩
  · intro hna hhb
    exact ⟨_, Form.parse_append_explicit_automatic ht hu hna hhb, rfl⟩
  · intro x y
    refine ⟨_, Form.parse_around ht x y, fun name => ?_⟩
    rw [Form.render_template, Form.render_append, Form.render_append, Form.render_literals,
      Form.render_literals]
    exact congrArg (x ++ · ++ y) (t.render_template name).symm

/-- The braces at the seam belong to two literals; in front of the same template, one without a
number is refused. -/
theorem parse_append_meeting_braces :
    let a := "\x7b0\x7d\x7b\x7b".toList
    let b := "\x7d\x7d\x7b+00!r:>8\x7d".toList
    let c := "\x7b\x7d".toList
    ∃ first second third joined, parse a = .ok first ∧ parse b = .ok second ∧ parse c = .ok third ∧
      parse (a ++ b) = .ok joined ∧
      (∀ name, joined.render name = first.render name ++ second.render name) ∧
      ∃ e, parse (c ++ b) = .error e ∧ e.message (c ++ b) =
        "Cannot switch from automatic field numbering to manual field specification" := by
  intro a b c
  obtain ⟨first, ha⟩ : ∃ first, parse a = .ok first := ⟨_, rfl⟩
  obtain ⟨second, hb⟩ : ∃ second, parse b = .ok second := ⟨_, rfl⟩
  obtain ⟨third, hc⟩ : ∃ third, parse c = .ok third := ⟨_, rfl⟩
  obtain ⟨joined, hab⟩ : ∃ joined, parse (a ++ b) = .ok joined := ⟨_, rfl⟩
  obtain ⟨hiff, hrender, -⟩ := parse_append_iff ha hb
  have hauto : HasAutomatic c :=
    ⟨[.field {}], ⟨by simp [Form.fields, Field.Form.WellFormed], .inl rfl⟩, rfl, {}, by
      simp [Form.fields], rfl⟩
  obtain ⟨-, -, -, hswitch, -⟩ := parse_append_iff hc hb
  exact ⟨first, second, third, joined, ha, hb, hc, hab, hrender joined hab,
    hswitch hauto (hiff.mp ⟨joined, hab⟩).2⟩

end Template
end SyscallNames
