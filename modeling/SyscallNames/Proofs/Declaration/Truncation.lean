import Mathlib.Data.List.Infix
import Mathlib.Data.List.TakeDrop
import SyscallNames.Proofs.Declaration.Exactness

set_option autoImplicit false

namespace SyscallNames.Declaration

variable {text : Bytes} {k line p : Nat} {d : Declaration}

/-- The declaration as it stands in a text that ends in front of the byte `k`. -/
def cutAt (k : Nat) (d : Declaration) : Declaration :=
  { d with name := d.name.take (k - (d.offset + 20)) }

theorem nameByteAt_take_iff {i : Nat} : NameByteAt (text.take k) i ↔ NameByteAt text i ∧ i < k := by
  by_cases hi : i < k
  · simp [NameByteAt, hi]
  · have hnone : (text.take k)[i]? = none := List.getElem?_take_eq_none (Nat.le_of_not_lt hi)
    rw [NameByteAt, hnone]
    simp [hi]

theorem occursAt_take_iff : OccursAt (text.take k) p ↔ OccursAt text p ∧ p + 21 ≤ k := by
  have hkeyword : p + 21 ≤ k → ((text.take k).drop p).take 20 = (text.drop p).take 20 := by
    intro hk
    rw [List.drop_take, List.take_take, Nat.min_eq_left (by omega)]
  constructor
  · rintro ⟨hword, hname⟩
    obtain ⟨hname, hlt⟩ := nameByteAt_take_iff.mp hname
    exact ⟨⟨(hkeyword hlt).symm.trans hword, hname⟩, hlt⟩
  · rintro ⟨⟨hword, hname⟩, hk⟩
    exact ⟨(hkeyword hk).trans hword, nameByteAt_take_iff.mpr ⟨hname, hk⟩⟩

theorem nameBytes_take (text : Bytes) (k p : Nat) :
    nameBytes (text.take k) p = (nameBytes text p).take (k - (p + 20)) := by
  rw [nameBytes, List.drop_take, ← List.take_takeWhile]
  rfl

theorem nameEnd_take_of_le (h : nameEnd text p ≤ k) : nameEnd (text.take k) p = nameEnd text p := by
  rw [nameEnd] at h
  rw [nameEnd, nameEnd, nameBytes_take, List.take_of_length_le (by omega)]

theorem nameEnd_take_of_lt (hp : p + 20 ≤ k) (h : k < nameEnd text p) :
    nameEnd (text.take k) p = k := by
  rw [nameEnd] at h
  rw [nameEnd, nameBytes_take, List.length_take_of_le (by omega), Nat.add_sub_cancel' hp]

theorem extractFrom_of_length_lt (line : Nat) (h : text.length < p + 21) :
    extractFrom line p (text.drop p) = [] := by
  refine List.eq_nil_iff_forall_not_mem.mpr fun d hd => ?_
  have hle := le_offset_of_mem hd
  have hlt := (occursAt_of_mem hd).1.lt_length
  omega

theorem filter_extractFrom_of_lt (line : Nat) (h : k < p + 21) :
    (extractFrom line p (text.drop p)).filter (·.offset + 21 ≤ k) = [] := by
  refine List.filter_eq_nil_iff.mpr fun d hd => ?_
  have hle := le_offset_of_mem hd
  simp only [decide_eq_true_eq]
  omega

theorem extractFrom_take_of_lt (line : Nat) (h : k < p + 21) :
    extractFrom line p ((text.take k).drop p) =
      ((extractFrom line p (text.drop p)).filter (·.offset + 21 ≤ k)).map (cutAt k) := by
  have hlen := List.length_take_le k text
  rw [extractFrom_of_length_lt line (by omega), filter_extractFrom_of_lt line h, List.map_nil]

/-- The scan of the front goes through the same places as the scan of the whole text, up to the end
of the front. -/
theorem extractFrom_take (text : Bytes) (k line p : Nat) :
    extractFrom line p ((text.take k).drop p) =
      ((extractFrom line p (text.drop p)).filter (·.offset + 21 ≤ k)).map (cutAt k) := by
  induction p using scan_induction text generalizing line with
  | past p hp =>
    rw [extractFrom_of_length_le line hp,
      extractFrom_of_length_le line (Nat.le_trans (List.length_take_le' k text) hp)]
    rfl
  | step p hp hno ih =>
    rcases Nat.lt_or_ge k (p + 21) with hk | hk
    · exact extractFrom_take_of_lt line hk
    · have hpk : p < (text.take k).length := by
        rw [List.length_take]
        omega
      rw [extractFrom_of_not_occursAt line hpk fun h => hno (occursAt_take_iff.mp h).1,
        extractFrom_of_not_occursAt line hp hno, List.getElem_take, ih]
  | found p ho ih =>
    rcases Nat.lt_or_ge k (p + 21) with hk | hk
    · exact extractFrom_take_of_lt line hk
    · rw [extractFrom_of_occursAt line (occursAt_take_iff.mpr ⟨ho, hk⟩),
        extractFrom_of_occursAt line ho, List.filter_cons_of_pos (by simpa using hk), List.map_cons,
        nameBytes_take]
      congr 1
      · simp [cutAt, nameText]
      · rcases Nat.lt_or_ge k (nameEnd text p) with hend | hend
        · -- The front ends inside this name, and nothing of it is left to scan.
          rw [nameEnd_take_of_lt (by omega) hend,
            List.drop_of_length_le (List.length_take_le k text),
            filter_extractFrom_of_lt line (by omega), extractFrom, List.map_nil]
        · rw [nameEnd_take_of_le hend, ih]

section Cut

theorem nameEnd_of_mem (h : d ∈ extract text) :
    nameEnd text d.offset = d.offset + 20 + d.name.length := by
  rw [(occursAt_of_mem_extract h).2, nameText, List.length_map]
  rfl

theorem cutAt_eq_self_iff (h : d.offset + 20 ≤ k) :
    cutAt k d = d ↔ d.offset + 20 + d.name.length ≤ k := by
  obtain ⟨name, line, offset⟩ := d
  simp only [cutAt, Declaration.mk.injEq, and_true, List.take_eq_self_iff] at h ⊢
  omega

theorem encode_name_cutAt (h : d ∈ extract text) :
    Utf8.encode (cutAt k d).name =
      (text.take (min (nameEnd text d.offset) k)).drop (d.offset + 20) := by
  have hname := (occursAt_of_mem_extract h).2
  have hcut : (cutAt k d).name =
      nameText ((nameBytes text d.offset).take (k - (d.offset + 20))) := by
    rw [cutAt, hname, nameText, nameText, List.map_take]
  rw [hcut, encode_nameText fun b hb => isNameByte_of_mem_nameBytes (List.mem_of_mem_take hb),
    nameBytes_eq_take, List.take_take, List.drop_take]
  congr 1
  omega

theorem cutAt_eq_self_of_mem_dropLast
    (h : d ∈ ((extract text).filter (·.offset + 21 ≤ k)).dropLast) : cutAt k d = d := by
  have hne : (extract text).filter (·.offset + 21 ≤ k) ≠ [] := by
    intro hnil
    rw [hnil] at h
    cases h
  -- The last one begins in front of `k`, and so all others end there.
  have hlast := List.mem_filter.mp (List.getLast_mem hne)
  have hmem := (List.mem_filter.mp (List.mem_of_mem_dropLast h)).1
  have hpairs := (pairwise_extract text).filter (·.offset + 21 ≤ k)
  rw [← List.dropLast_concat_getLast hne] at hpairs
  have hend := (List.pairwise_append.mp hpairs).2.2 d h _ List.mem_cons_self
  have hk := of_decide_eq_true hlast.2
  rw [nameEnd_of_mem hmem] at hend
  exact (cutAt_eq_self_iff (by omega)).mpr (by omega)

end Cut

theorem extract_take_eq (text : Bytes) (k : Nat) :
    extract (text.take k) = ((extract text).filter (·.offset + 21 ≤ k)).map (cutAt k) :=
  extractFrom_take text k 1 0

theorem mem_extract_take_iff (h : d.offset + 20 + d.name.length < k) :
    d ∈ extract (text.take k) ↔ d ∈ extract text := by
  rw [extract_take_eq]
  constructor
  · intro hd
    obtain ⟨e, he, rfl⟩ := List.mem_map.mp hd
    have hlen : (cutAt k e).name.length = min (k - (e.offset + 20)) e.name.length :=
      List.length_take
    have hoffset : (cutAt k e).offset = e.offset := rfl
    rw [(cutAt_eq_self_iff (by omega)).mpr (by omega)]
    exact (List.mem_filter.mp he).1
  · intro hd
    refine List.mem_map.mpr ⟨d, List.mem_filter.mpr ⟨hd, decide_eq_true ?_⟩, ?_⟩
    · omega
    · exact (cutAt_eq_self_iff (by omega)).mpr (by omega)

/-- The first `k` bytes of a text list what the text lists with a byte of its name among them, on
the same lines and at the same places. A name that goes on behind them is cut to its bytes among
them, which can only be the last one. What is listed with its end among them is listed whatever
stands behind them. -/
theorem extract_take (text : Bytes) (k : Nat) :
    extract (text.take k) = ((extract text).filter (·.offset + 21 ≤ k)).map (cutAt k) ∧
    (∀ d ∈ extract text, d.offset + 21 ≤ k →
      Utf8.encode (cutAt k d).name =
          (text.take (min (nameEnd text d.offset) k)).drop (d.offset + 20) ∧
        (cutAt k d = d ↔ nameEnd text d.offset ≤ k)) ∧
    (∀ d ∈ ((extract text).filter (·.offset + 21 ≤ k)).dropLast, cutAt k d = d) ∧
    (∀ d ∈ extract (text.take k),
      ∃ e ∈ extract text, d.line = e.line ∧ d.offset = e.offset ∧ d.name <+: e.name) ∧
    ∀ other : Bytes, other.take k = text.take k →
      ∀ d : Declaration, d.offset + 20 + d.name.length < k →
        (d ∈ extract other ↔ d ∈ extract text) := by
  refine ⟨extract_take_eq text k, fun d hd hk => ⟨encode_name_cutAt hd, ?_⟩,
    fun d => cutAt_eq_self_of_mem_dropLast, ?_, ?_⟩
  · rw [nameEnd_of_mem hd]
    exact cutAt_eq_self_iff (by omega)
  · intro d hd
    rw [extract_take_eq] at hd
    obtain ⟨e, he, rfl⟩ := List.mem_map.mp hd
    exact ⟨e, (List.mem_filter.mp he).1, rfl, rfl, List.take_prefix _ _⟩
  · intro other hother d hend
    rw [← mem_extract_take_iff hend, hother, mem_extract_take_iff hend]

example :
    let text := Utf8.encode "\nasmlinkage long sys_asmlinkage long sys_read".toList
    extract (text.take 28) = [{ name := "asmlink".toList, line := 2, offset := 1 }] := by
  decide +kernel

end SyscallNames.Declaration
