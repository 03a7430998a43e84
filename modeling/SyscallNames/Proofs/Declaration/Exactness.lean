import Mathlib.Data.Set.Defs
import SyscallNames.Proofs.Declaration.Scan

set_option autoImplicit false

namespace SyscallNames.Declaration

variable {text : Bytes} {p q : Nat} {d : Declaration}

/-- The places at which `extract` finds a declaration. -/
def foundIn (text : Bytes) : Set Nat := {p | ∃ d ∈ extract text, d.offset = p}

@[simp]
theorem mem_foundIn : p ∈ foundIn text ↔ ∃ d ∈ extract text, d.offset = p := Iff.rfl

theorem extract_eq (text : Bytes) : extract text = extractFrom 1 0 (text.drop 0) := rfl

theorem occursAt_of_mem_extract (h : d ∈ extract text) :
    OccursAt text d.offset ∧ d.name = nameText (nameBytes text d.offset) :=
  occursAt_of_mem (extract_eq text ▸ h)

theorem pairwise_extract (text : Bytes) :
    (extract text).Pairwise fun d e => nameEnd text d.offset ≤ e.offset :=
  extract_eq text ▸ pairwise_nameEnd_le text 1 0

theorem occursAt_of_foundIn (h : p ∈ foundIn text) : OccursAt text p := by
  obtain ⟨d, hd, rfl⟩ := h
  exact (occursAt_of_mem (extract_eq text ▸ hd)).1

theorem nameEnd_le_of_foundIn (hp : p ∈ foundIn text) (hq : q ∈ foundIn text) (h : p < q) :
    nameEnd text p ≤ q := by
  obtain ⟨d, hd, rfl⟩ := hp
  obtain ⟨e, he, rfl⟩ := hq
  have hpairs := pairwise_nameEnd_le text 1 0
  rw [← extract_eq] at hpairs
  obtain ⟨i, hi, rfl⟩ := List.getElem_of_mem hd
  obtain ⟨j, hj, rfl⟩ := List.getElem_of_mem he
  rcases Nat.lt_trichotomy i j with hij | rfl | hij
  · exact List.pairwise_iff_getElem.mp hpairs i j hi hj hij
  · exact absurd h (Nat.lt_irrefl _)
  · have hle := List.pairwise_iff_getElem.mp hpairs j i hj hi hij
    have := le_nameEnd text (extract text)[j].offset
    omega

theorem mem_foundIn_iff :
    p ∈ foundIn text ↔
      OccursAt text p ∧ ¬ ∃ s ∈ foundIn text, s < p ∧ p < nameEnd text s := by
  constructor
  · intro h
    refine ⟨occursAt_of_foundIn h, ?_⟩
    rintro ⟨s, hs, hsp, hlt⟩
    have := nameEnd_le_of_foundIn hs h hsp
    omega
  · rintro ⟨ho, hno⟩
    obtain ⟨d, hd, h⟩ := exists_mem_of_occursAt ho (Nat.zero_le p) 1
    rcases h with rfl | ⟨hlt, hend⟩
    · exact ⟨d, hd, rfl⟩
    · exact absurd ⟨d.offset, ⟨d, hd, rfl⟩, hlt, hend⟩ hno

theorem eq_foundIn {S : Set Nat}
    (h : ∀ p, p ∈ S ↔ OccursAt text p ∧ ¬ ∃ s ∈ S, s < p ∧ p < nameEnd text s) :
    S = foundIn text := by
  -- Whether `p` is in `S` depends on smaller places alone, where the two sets agree already.
  have hmem : ∀ p, p ∈ S ↔ p ∈ foundIn text := by
    intro p
    induction p using Nat.strongRecOn with
    | ind p ih =>
      rw [h, mem_foundIn_iff]
      refine and_congr_right fun _ => not_congr (exists_congr fun s => ?_)
      constructor
      · rintro ⟨hs, hsp, hlt⟩
        exact ⟨(ih s hsp).mp hs, hsp, hlt⟩
      · rintro ⟨hs, hsp, hlt⟩
        exact ⟨(ih s hsp).mpr hs, hsp, hlt⟩
  exact Set.ext hmem

/-- An occurrence is missed if a name in front of it takes in the first word of its keyword. -/
theorem not_mem_foundIn_iff (h : OccursAt text p) :
    p ∉ foundIn text ↔ ∃ s ∈ foundIn text, nameEnd text s = p + 10 := by
  constructor
  · intro hp
    rw [mem_foundIn_iff] at hp
    obtain ⟨s, hs, hsp, hlt⟩ := Classical.not_not.mp fun hno => hp ⟨h, hno⟩
    exact ⟨s, hs, (occursAt_of_foundIn hs).nameEnd_eq h hsp hlt⟩
  · rintro ⟨s, hs, hend⟩ hp
    have hlt := (occursAt_of_foundIn hs).lt_of_nameEnd_eq hend
    have := nameEnd_le_of_foundIn hs hp hlt
    omega

theorem OccursAt.eq_of_nameEnd_eq (hp : OccursAt text p) (hq : OccursAt text q)
    (h : nameEnd text p = nameEnd text q) : p = q := by
  rcases Nat.lt_trichotomy p q with hlt | heq | hlt
  · have := hp.nameEnd_eq hq hlt (by have := hq.lt_nameEnd; omega)
    have := hq.lt_nameEnd
    omega
  · exact heq
  · have := hq.nameEnd_eq hp hlt (by have := hp.lt_nameEnd; omega)
    have := hp.lt_nameEnd
    omega

theorem mem_foundIn_of_missed (hp : OccursAt text p) (hq : OccursAt text q)
    (hmissed : p ∉ foundIn text) (hend : nameEnd text p = q + 10) : q ∈ foundIn text := by
  refine Classical.not_not.mp fun hno => ?_
  obtain ⟨s, hs, hsend⟩ := (not_mem_foundIn_iff hq).mp hno
  have heq := (occursAt_of_foundIn hs).eq_of_nameEnd_eq hp (hsend.trans hend.symm)
  exact hmissed (heq ▸ hs)

def keywordHead : Text := "asmlinkage".toList

theorem nameText_take_keyword : nameText (keyword.take 10) = keywordHead := by decide

theorem keywordHead_suffix (hp : OccursAt text p) (hq : OccursAt text q)
    (hend : nameEnd text p = q + 10) : keywordHead <:+ nameText (nameBytes text p) := by
  have hge := hp.add_le hq (hp.lt_of_nameEnd_eq hend)
  have hlen : nameEnd text p - (p + 20) = q - (p + 20) + 10 := by omega
  have hword : ((text.drop (p + 20)).drop (q - (p + 20))).take 10 = keyword.take 10 := by
    rw [List.drop_drop, Nat.add_sub_cancel' hge, ← hq.1, List.take_take]
    rfl
  rw [nameBytes_eq_take, hlen, List.take_add, hword, nameText, List.map_append]
  exact ⟨_, congrArg _ nameText_take_keyword.symm⟩

theorem name_of_mem_extract (h : d ∈ extract text) :
    Utf8.encode d.name =
        (text.drop (d.offset + 20)).take (nameEnd text d.offset - (d.offset + 20)) ∧
      d.name ≠ [] ∧ ∀ c ∈ d.name, IsNameChar c := by
  obtain ⟨ho, hname⟩ := occursAt_of_mem (extract_eq text ▸ h)
  rw [hname]
  refine ⟨?_, ?_, ?_⟩
  · rw [encode_nameText fun b hb => isNameByte_of_mem_nameBytes hb]
    exact nameBytes_eq_take text d.offset
  · simpa [nameText] using nameBytes_ne_nil ho.2
  · intro c hc
    obtain ⟨b, hb, rfl⟩ := List.mem_map.mp hc
    exact isNameChar_ofNat (isNameByte_of_mem_nameBytes hb)

/-- The declarations of a text come in the order of their places, which are the one set of
occurrences that holds just those into which no other one in the set reaches. Each has the longest
name there is behind its keyword. An occurrence is missed exactly if a name that is listed takes in
the first word of its keyword, and the one that the missed name would have taken in is listed. -/
theorem extract_lists_exactly (text : Bytes) :
    (extract text).Pairwise (fun d e => d.offset < e.offset) ∧
    (∀ S : Set Nat,
      (∀ p, p ∈ S ↔ OccursAt text p ∧ ¬ ∃ s ∈ S, s < p ∧ p < nameEnd text s) ↔
        S = {p | ∃ d ∈ extract text, d.offset = p}) ∧
    (∀ d ∈ extract text,
      Utf8.encode d.name =
          (text.drop (d.offset + 20)).take (nameEnd text d.offset - (d.offset + 20)) ∧
        d.name ≠ [] ∧ (∀ c ∈ d.name, IsNameChar c) ∧ '\uFFFD' ∉ d.name ∧
        ¬ NameByteAt text (nameEnd text d.offset)) ∧
    (∀ p, OccursAt text p →
      ((∀ d ∈ extract text, d.offset ≠ p) ↔ ∃ d ∈ extract text, nameEnd text d.offset = p + 10) ∧
      ∀ d ∈ extract text, nameEnd text d.offset = p + 10 → keywordHead <:+ d.name) ∧
    ∀ p q, OccursAt text p → OccursAt text q → (∀ d ∈ extract text, d.offset ≠ p) →
      nameEnd text p = q + 10 → ∃ d ∈ extract text, d.offset = q := by
  have hmissed : ∀ p, (∀ d ∈ extract text, d.offset ≠ p) ↔ p ∉ foundIn text := by
    intro p
    simp
  refine ⟨?_, ?_, ?_, ?_, ?_⟩
  · refine List.Pairwise.imp ?_ (extract_eq text ▸ pairwise_nameEnd_le text 1 0)
    intro d e h
    have := le_nameEnd text d.offset
    omega
  · intro S
    constructor
    · exact eq_foundIn
    · rintro rfl p
      exact mem_foundIn_iff
  · intro d hd
    obtain ⟨hbytes, hne, hchars⟩ := name_of_mem_extract hd
    refine ⟨hbytes, hne, hchars, fun hc => ?_, not_nameByteAt_nameEnd text d.offset⟩
    exact absurd (hchars _ hc) (by simp [IsNameChar])
  · intro p hp
    constructor
    · rw [hmissed, not_mem_foundIn_iff hp]
      constructor
      · rintro ⟨_, ⟨d, hd, rfl⟩, hend⟩
        exact ⟨d, hd, hend⟩
      · rintro ⟨d, hd, hend⟩
        exact ⟨_, ⟨d, hd, rfl⟩, hend⟩
    · intro d hd hend
      obtain ⟨ho, hname⟩ := occursAt_of_mem (extract_eq text ▸ hd)
      rw [hname]
      exact keywordHead_suffix ho hp hend
  · intro p q hp hq hno hend
    exact mem_foundIn_of_missed hp hq ((hmissed p).mp hno) hend

/-- The second keyword is swallowed by the name in front of it, and the third is not. -/
example :
    let text := "asmlinkage long sys_asmlinkage long sys_asmlinkage long sys_read"
    (extract (Utf8.encode text.toList)).map offset = [0, 40] := by
  decide +kernel

end SyscallNames.Declaration
