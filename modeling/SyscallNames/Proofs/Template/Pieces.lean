import SyscallNames.Proofs.Template.SpecForm
import SyscallNames.Template.Piece

set_option autoImplicit false

namespace SyscallNames.Piece

variable {done pieces : List (Piece Text)} {rest body : Text}

def Plain (pieces : List (Piece Text)) : Prop := ∀ body, field body ∈ pieces → Braceless body

theorem plain_cons {p : Piece Text} {pieces : List (Piece Text)} :
    Plain (p :: pieces) ↔ (∀ body, p = field body → Braceless body) ∧ Plain pieces := by
  constructor
  · intro h
    exact ⟨fun body heq => h body (by simp [heq]), fun body hm => h body (by simp [hm])⟩
  · rintro ⟨hp, hpieces⟩ body hm
    obtain heq | hm := List.mem_cons.mp hm
    · exact hp body heq.symm
    · exact hpieces body hm

theorem cutOnto_char {c : Char} (ho : c ≠ '{') (hc : c ≠ '}') :
    cutOnto done none (c :: rest) = cutOnto (literal c :: done) none rest := by
  rw [cutOnto] <;> simp_all

theorem cutOnto_open (h : rest.head? ≠ some '{') :
    cutOnto done none ('{' :: rest) = cutOnto done (some []) rest := by
  rw [cutOnto]
  rintro tail rfl
  exact h rfl

theorem cutOnto_inner {c : Char} (ho : c ≠ '{') (hc : c ≠ '}') :
    cutOnto done (some body) (c :: rest) = cutOnto done (some (c :: body)) rest := by
  rw [cutOnto] <;> simp_all

theorem cutOnto_braceless {inner : Text} (h : Braceless body) :
    cutOnto done (some inner) (body ++ rest) =
      cutOnto done (some (body.reverse ++ inner)) rest := by
  induction body generalizing inner with
  | nil => rfl
  | cons c body ih =>
    obtain ⟨⟨ho, hc⟩, hbody⟩ := List.forall_mem_cons.mp h
    rw [List.cons_append, cutOnto_inner ho hc, ih hbody, List.reverse_cons, List.append_assoc]
    rfl

theorem cutOnto_open_braceless (h : Braceless body) (hhead : body = [] → rest.head? ≠ some '{') :
    cutOnto done none ('{' :: (body ++ rest)) = cutOnto done (some body.reverse) rest := by
  have hhead : (body ++ rest).head? ≠ some '{' := by
    cases body with
    | nil => exact hhead rfl
    | cons c body => simpa using (h c List.mem_cons_self).1
  rw [cutOnto_open hhead, cutOnto_braceless h, List.append_nil]

theorem cutOnto_text {p : Piece Text} (h : ∀ body, p = field body → Braceless body) :
    cutOnto done none (p.text ++ rest) = cutOnto (p :: done) none rest := by
  cases p with
  | literal c =>
    by_cases ho : c = '{'
    · subst ho
      simp [text, cutOnto]
    · by_cases hc : c = '}'
      · subst hc
        simp [text, cutOnto]
      · simp only [text, ho, hc, or_self, if_false, List.singleton_append]
        exact cutOnto_char ho hc
  | field body =>
    simp only [text, List.cons_append, List.append_assoc, List.nil_append]
    rw [cutOnto_open_braceless (h body rfl) (by simp), cutOnto, List.reverse_reverse]

theorem cutOnto_flatMap_text_append (h : Plain pieces) :
    cutOnto done none (pieces.flatMap text ++ rest) =
      cutOnto (pieces.reverse ++ done) none rest := by
  induction pieces generalizing done with
  | nil => rfl
  | cons p pieces ih =>
    obtain ⟨hp, hpieces⟩ := plain_cons.mp h
    rw [List.flatMap_cons, List.append_assoc, cutOnto_text hp, ih hpieces, List.reverse_cons,
      List.append_assoc]
    rfl

/-- What stands behind whole pieces is cut as if it stood alone. -/
theorem cut_flatMap_text_append (h : Plain pieces) (rest : Text) :
    cut (pieces.flatMap text ++ rest) = (pieces ++ (cut rest).1, (cut rest).2) := by
  have hfront := cutOnto_append [] pieces.reverse none rest
  rw [List.nil_append, List.reverse_reverse] at hfront
  rw [cut, cutOnto_flatMap_text_append h, List.append_nil, hfront]
  rfl

theorem cut_flatMap_text (h : Plain pieces) : cut (pieces.flatMap text) = (pieces, none) := by
  simpa [cut, cutOnto] using cut_flatMap_text_append h []

theorem flatMap_text_injective {others : List (Piece Text)} (hp : Plain pieces)
    (ho : Plain others) (h : pieces.flatMap text = others.flatMap text) : pieces = others := by
  have hcut := (cut_flatMap_text hp).symm.trans ((congrArg cut h).trans (cut_flatMap_text ho))
  exact congrArg Prod.fst hcut

theorem plain_cutOnto {inner : Option Text} (hdone : Plain done)
    (hinner : ∀ body ∈ inner, Braceless body) : Plain (cutOnto done inner rest).1 := by
  have hrev : ∀ {l : List (Piece Text)}, Plain l → Plain l.reverse :=
    fun h body hm => h body (List.mem_reverse.mp hm)
  fun_induction cutOnto done inner rest with
  | case1 done => exact hrev hdone
  | case2 done rest ih => exact ih (plain_cons.mpr ⟨by simp, hdone⟩) hinner
  | case3 done rest ih => exact ih (plain_cons.mpr ⟨by simp, hdone⟩) hinner
  | case4 done rest hne ih => exact ih hdone (by simp [Braceless])
  | case5 done rest hne => exact hrev hdone
  | case6 done c rest _ _ _ _ ih => exact ih (plain_cons.mpr ⟨by simp, hdone⟩) hinner
  | case7 done => exact hrev hdone
  | case8 done c body => exact hrev hdone
  | case9 done body rest ih =>
    refine ih (plain_cons.mpr ⟨?_, hdone⟩) (by simp)
    rintro b heq
    cases heq
    exact fun c hc => hinner body rfl c (List.mem_reverse.mp hc)
  | case10 done body rest => exact hrev hdone
  | case11 done body c rest hc ho ih =>
    refine ih hdone ?_
    rintro b heq
    cases heq
    intro d hd
    obtain rfl | hd := List.mem_cons.mp hd
    · exact ⟨ho, hc⟩
    · exact hinner body rfl d hd

theorem plain_cut (t : Text) : Plain (cut t).1 :=
  plain_cutOnto (by simp [Plain]) (by simp)

end SyscallNames.Piece
