import Mathlib.Data.List.Forall2
import SyscallNames.Decimal
import SyscallNames.Proofs.Json.Document

set_option autoImplicit false

namespace SyscallNames.Json

def valuesOf (key : Text) (members : List (Option Text × Value)) : List Value :=
  (members.filter fun m => m.1 = some key).map Prod.snd

section Members

variable {key key' : Text}

@[simp]
theorem valuesOf_cons_self (key : Text) (v : Value) (members : List (Option Text × Value)) :
    valuesOf key ((some key, v) :: members) = v :: valuesOf key members := by
  simp [valuesOf]

theorem valuesOf_cons_ne (h : key' ≠ key) (v : Value) (members : List (Option Text × Value)) :
    valuesOf key ((some key', v) :: members) = valuesOf key members := by
  simp [valuesOf, h]

theorem exists_zip_of_mem {α β : Type} {R : α → β → Prop} {as : List α} {bs : List β} {a : α}
    (h : List.Forall₂ R as bs) (ha : a ∈ as) : ∃ b, (a, b) ∈ as.zip bs ∧ R a b := by
  induction h with
  | nil => cases ha
  | cons hhead _ ih =>
    obtain rfl | ha := List.mem_cons.mp ha
    · exact ⟨_, List.mem_cons_self, hhead⟩
    · obtain ⟨b, hb, hR⟩ := ih ha
      exact ⟨b, List.mem_cons_of_mem _ hb, hR⟩

end Members

namespace Value

def word (n : Nat) : Value := .number { integer := n }

/-- A value has these items for the keys. An array has them in the order of the keys and has nothing
else. An object has each key once, and any members beside them whose keys are texts. -/
inductive Fills (keys : List Text) (items : List Value) : Value → Prop
  | array : items.length = keys.length → Fills keys items (.array items)
  | object {members : List (Option Text × Value)} : (∀ m ∈ members, m.1.isSome = true) →
    List.Forall₂ (fun key item => valuesOf key members = [item]) keys items →
    Fills keys items (.object members)

/-- An array that is too short or too long for the keys, or an object that has one of them not at
all or more than once. -/
inductive Misfilled (keys : List Text) : Value → Prop
  | array {items : List Value} : items.length ≠ keys.length → Misfilled keys (.array items)
  | object {key : Text} {members : List (Option Text × Value)} : key ∈ keys →
    (valuesOf key members).length ≠ 1 → Misfilled keys (.object members)

/-- A value has an item in the place of one of the keys, and perhaps others as well. -/
inductive Holds (keys : List Text) (key : Text) : Value → Value → Prop
  | array {items : List Value} {item : Value} : (key, item) ∈ keys.zip items →
    Holds keys key (.array items) item
  | object {members : List (Option Text × Value)} {item : Value} : key ∈ keys →
    item ∈ valuesOf key members → Holds keys key (.object members) item

/-- A number with a sign, a fraction or an exponent, or one that is too large for a word. -/
inductive NoWord : Value → Prop
  | number {n : Numeral} : n.negative = true ∨ n.fraction.isSome = true ∨
    n.exponent.isSome = true ∨ Decimal.wordLimit ≤ n.integer → NoWord (.number n)

variable {keys : List Text} {key : Text} {items : List Value} {item v : Value}

theorem not_noWord_word {n : Nat} (h : n < Decimal.wordLimit) : ¬ (word n).NoWord := by
  rintro (⟨hsign | hfraction | hexponent | hlarge⟩)
  · cases hsign
  · cases hfraction
  · cases hexponent
  · exact Nat.not_le.mpr h hlarge

theorem Fills.not_misfilled (h : v.Fills keys items) : ¬ v.Misfilled keys := by
  rintro (hlength | ⟨hkey, hvalues⟩)
  · cases h with
    | array heq => exact hlength heq
  · cases h with
    | object _ hmembers =>
      obtain ⟨item, -, hitem⟩ := exists_zip_of_mem hmembers hkey
      exact hvalues (by rw [hitem]; rfl)

theorem eq_of_mem_zip {item' : Value} (hkeys : keys.Nodup) (h : (key, item) ∈ keys.zip items)
    (h' : (key, item') ∈ keys.zip items) : item = item' := by
  induction keys generalizing items with
  | nil => cases h
  | cons first keys ih =>
    cases items with
    | nil => cases h
    | cons next items =>
      obtain ⟨hfirst, hkeys⟩ := List.nodup_cons.mp hkeys
      rw [List.zip_cons_cons] at h h'
      obtain heq | h := List.mem_cons.mp h
      · obtain heq' | h' := List.mem_cons.mp h'
        · exact (Prod.mk.inj heq).2.trans (Prod.mk.inj heq').2.symm
        · exact absurd ((Prod.mk.inj heq).1 ▸ (List.of_mem_zip h').1) hfirst
      · obtain heq' | h' := List.mem_cons.mp h'
        · exact absurd ((Prod.mk.inj heq').1 ▸ (List.of_mem_zip h).1) hfirst
        · exact ih hkeys h h'

theorem Fills.item_eq {item' : Value} (h : v.Fills keys items) (hkeys : keys.Nodup)
    (hholds : v.Holds keys key item) (hitem : (key, item') ∈ keys.zip items) : item = item' := by
  cases hholds with
  | array hmem =>
    cases h with
    | array => exact eq_of_mem_zip hkeys hmem hitem
  | object hkey hmem =>
    cases h with
    | object _ hmembers =>
      obtain ⟨item, hzip, hvalues⟩ := exists_zip_of_mem hmembers hkey
      rw [hvalues, List.mem_singleton] at hmem
      rw [hmem]
      exact eq_of_mem_zip hkeys hzip hitem

end Value
end SyscallNames.Json
