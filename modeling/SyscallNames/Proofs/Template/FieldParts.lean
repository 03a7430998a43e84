import SyscallNames.Proofs.Template.SpecReading

set_option autoImplicit false

namespace SyscallNames

namespace FieldName

def Form.name : Form → FieldName
  | automatic => .automatic
  | zeros _ _ => .index 0

@[simp]
theorem word?_zeros (more : Nat) : Decimal.word? (List.replicate (more + 1) '0') = some 0 := by
  have hv := Decimal.value_replicate_zero (more + 1)
  have hdigit : ∀ c ∈ List.replicate (more + 1) '0', c.isDigit = true := by
    intro c hc
    rw [List.eq_of_mem_replicate hc]
    decide
  have hw := Decimal.word?_of_value_lt (by simp) hdigit (by rw [hv]; decide)
  rwa [hv] at hw

@[simp]
theorem index?_zeros (plus : Bool) (more : Nat) : index? (Form.zeros plus more).text = some 0 := by
  cases plus with
  | true => exact word?_zeros more
  | false => exact word?_zeros more

theorem Form.eq_of_mem_text {f : Form} {c : Char} (hc : c ∈ f.text) : c = '+' ∨ c = '0' := by
  cases f with
  | automatic => cases hc
  | zeros plus more =>
    obtain hc | hc := List.mem_append.mp hc
    · cases plus with
      | true => exact .inl (List.mem_singleton.mp hc)
      | false => cases hc
    · exact .inr (List.eq_of_mem_replicate hc)

@[simp]
theorem read_text (f : Form) : FieldName.read f.text = .ok f.name := by
  cases f with
  | automatic => rfl
  | zeros plus more =>
    have hne : (Form.zeros plus more).text ≠ [] := by
      cases plus <;> simp [Form.text]
    have hlookup : ((Form.zeros plus more).text.any fun c => c = '.' || c = '[') = false := by
      rw [List.any_eq_false]
      intro c hc
      obtain rfl | rfl := Form.eq_of_mem_text hc <;> decide
    rw [FieldName.read, if_neg hne, if_neg (by simp [hlookup]), index?_zeros]
    rfl

theorem exists_of_word?_eq_zero {ds : Text} (h : Decimal.word? ds = some 0) :
    ∃ more, ds = List.replicate (more + 1) '0' := by
  obtain ⟨hne, hd, hv⟩ := Decimal.word?_eq_some h
  have hds := Decimal.eq_replicate_of_value_eq_zero hd hv.symm
  obtain ⟨c, tail, rfl⟩ := List.exists_cons_of_ne_nil hne
  exact ⟨tail.length, hds⟩

theorem exists_form_of_read {text : Text} {name : FieldName} (h : FieldName.read text = .ok name)
    (hname : name = .automatic ∨ name = .index 0) : ∃ f : Form, f.text = text ∧ f.name = name := by
  rw [FieldName.read] at h
  split at h
  · rename_i hnil
    cases h
    exact ⟨.automatic, hnil.symm, rfl⟩
  · split at h
    · cases h
    · split at h
      · rename_i n hindex
        cases h
        obtain hauto | hzero := hname
        · cases hauto
        · cases hzero
          unfold index? at hindex
          split at hindex
          · obtain ⟨more, rfl⟩ := exists_of_word?_eq_zero hindex
            exact ⟨.zeros true more, rfl, rfl⟩
          · obtain ⟨more, rfl⟩ := exists_of_word?_eq_zero hindex
            exact ⟨.zeros false more, rfl, rfl⟩
      · cases h

theorem Form.text_injective {f g : Form} (h : f.text = g.text) : f = g := by
  cases f with
  | automatic =>
    cases g with
    | automatic => rfl
    | zeros plus more => cases plus <;> simp [Form.text, List.replicate_succ] at h
  | zeros plus more =>
    cases g with
    | automatic => cases plus <;> simp [Form.text, List.replicate_succ] at h
    | zeros plus' more' =>
      have hlen := congrArg (List.countP (· = '0')) h
      cases plus <;> cases plus' <;>
        simp_all [Form.text, List.replicate_succ, List.countP_replicate]

end FieldName

namespace Conversion

theorem Form.text_injective {f g : Form} (h : f.text = g.text) : f = g := by
  cases f <;> cases g <;> simp_all [Form.text]

@[simp]
theorem read_text (f : Form) {rest : Text} (hrest : ∀ c ∈ rest.head?, c = ':') :
    Conversion.read (f.text ++ rest) = .ok (f.conversion, rest) := by
  cases rest with
  | nil => cases f <;> rfl
  | cons c rest =>
    obtain rfl : c = ':' := hrest c rfl
    cases f <;> rfl

theorem exists_form_of_ofCode {code : Char} {conversion : Conversion}
    (h : ofCode code = .ok conversion) :
    ∃ f : Form, f.text = ['!', code] ∧ f.conversion = conversion := by
  unfold ofCode at h
  split at h
  · cases h
    exact ⟨.s, rfl, rfl⟩
  · cases h
    exact ⟨.r, rfl, rfl⟩
  · cases h
    exact ⟨.a, rfl, rfl⟩
  · cases h

theorem eq_colon_of_checkEnd {rest : Text} (h : checkEnd rest = .ok ()) :
    ∀ c ∈ rest.head?, c = ':' := by
  unfold checkEnd at h
  split at h
  · simp
  · simp
  · cases h

theorem exists_form_of_read {text rest : Text} {conversion : Conversion}
    (htext : ∀ c ∈ text.head?, c = '!' ∨ c = ':')
    (h : Conversion.read text = .ok (conversion, rest)) :
    ∃ f : Form, text = f.text ++ rest ∧ f.conversion = conversion ∧ ∀ c ∈ rest.head?, c = ':' := by
  unfold Conversion.read at h
  split at h
  · cases h
  · simp only [bind_eq_ok] at h
    obtain ⟨found, hcode, _, hend, heq⟩ := h
    cases heq
    obtain ⟨f, hf, rfl⟩ := exists_form_of_ofCode hcode
    exact ⟨f, by simp [hf], rfl, eq_colon_of_checkEnd hend⟩
  · rename_i hnone hbang
    cases h
    refine ⟨.absent, rfl, rfl, fun c hc => (htext c hc).resolve_left ?_⟩
    rintro rfl
    obtain ⟨tail, rfl⟩ := List.head?_eq_some_iff.mp hc
    cases tail with
    | nil => exact hnone rfl
    | cons code tail => exact hbang code tail rfl

end Conversion

theorem Numbering.eq_of_add {n n' : Numbering} {name : FieldName} (h : n.add name = .ok n') :
    name = .automatic ∧ n = .undecided ∧ n' = .automatic ∨
      name = .index 0 ∧ n ≠ .automatic ∧ n' = .explicit := by
  unfold Numbering.add at h
  split at h <;> cases h <;> simp_all

end SyscallNames
