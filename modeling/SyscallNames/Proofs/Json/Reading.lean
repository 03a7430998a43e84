import SyscallNames.Json.Record
import SyscallNames.Proofs.Json.Typed

set_option autoImplicit false

namespace SyscallNames.Json

/-- What has been seen for a key and the values that are still to come for it make up one value. -/
def Slot {δ : Type} (shown : δ → Value → Prop) (seen : Option δ) (values : List Value) (d : δ) :
    Prop :=
  (seen = some d ∧ values = []) ∨ (seen = none ∧ ∃ v, values = [v] ∧ shown d v)

def Assigned (text : Text) (v : Value) (rest : Text) : Prop :=
  ∃ before start, Blanks text (':' :: before) ∧ Blanks before start ∧ Starts start v rest

section Slot

variable {δ : Type} {shown : δ → Value → Prop} {seen : Option δ} {d : δ} {v : Value}
  {key : Text} {members : List (Option Text × Value)}

theorem slot_nil_iff : Slot shown seen (valuesOf key []) d ↔ seen = some d := by
  simp [Slot, valuesOf]

theorem slot_cons_self_iff :
    Slot shown seen (valuesOf key ((some key, v) :: members)) d ↔
      seen = none ∧ shown d v ∧ Slot shown (some d) (valuesOf key members) d := by
  rw [valuesOf_cons_self]
  simp [Slot, and_comm]

theorem slot_cons_ne_iff {key' : Text} (h : key' ≠ key) :
    Slot shown seen (valuesOf key ((some key', v) :: members)) d ↔
      Slot shown seen (valuesOf key members) d := by
  rw [valuesOf_cons_ne h]

theorem Slot.eq_of_some {d' : δ} {values : List Value} (h : Slot shown (some d') values d) :
    d = d' := by
  simp only [Slot, Option.some.injEq, reduceCtorEq, false_and, or_false] at h
  exact h.1.symm

theorem slot_none_iff {values : List Value} :
    Slot shown none values d ↔ ∃ v, values = [v] ∧ shown d v := by
  simp [Slot]

end Slot

namespace Record

variable {α β γ δ : Type} {r : Record α β γ} {shownFirst : α → Value → Prop}
  {shownSecond : β → Value → Prop} {shownThird : γ → Value → Prop} {seen next : Seen α β γ}
  {value : α × β × γ} {text behind rest : Text} {key : Text} {v : Value}
  {members : List (Option Text × Value)}

def keys (r : Record α β γ) : List Text := [r.firstKey, r.secondKey, r.thirdKey]

structure Distinct (r : Record α β γ) : Prop where
  second_ne_first : r.secondKey ≠ r.firstKey
  third_ne_first : r.thirdKey ≠ r.firstKey
  third_ne_second : r.thirdKey ≠ r.secondKey

/-- The keys are distinct, and for each of them there is a reader of what its value shows. -/
structure Readable (r : Record α β γ) (shownFirst : α → Value → Prop)
    (shownSecond : β → Value → Prop) (shownThird : γ → Value → Prop) : Prop where
  distinct : r.Distinct
  first : Reads r.first shownFirst
  second : Reads r.second shownSecond
  third : Reads r.third shownThird

structure Slots (r : Record α β γ) (shownFirst : α → Value → Prop) (shownSecond : β → Value → Prop)
    (shownThird : γ → Value → Prop) (seen : Seen α β γ) (members : List (Option Text × Value))
    (value : α × β × γ) : Prop where
  first : Slot shownFirst seen.first (valuesOf r.firstKey members) value.1
  second : Slot shownSecond seen.second (valuesOf r.secondKey members) value.2.1
  third : Slot shownThird seen.third (valuesOf r.thirdKey members) value.2.2

section Steps

variable {reader : Reader δ} {shown : δ → Value → Prop} {once : Option δ} {d d' : δ}

theorem readOnce_of_slot (hreader : Reads reader shown) (hassigned : Assigned text v rest)
    (hrest : Delimited rest) (h : Slot shown once (valuesOf key ((some key, v) :: members)) d) :
    readOnce once reader text = .ok (d, rest) ∧ Slot shown (some d) (valuesOf key members) d := by
  obtain ⟨rfl, hd, hslot⟩ := slot_cons_self_iff.mp h
  obtain ⟨before, start, hcolon, hblanks, hstart⟩ := hassigned
  rw [readOnce, if_neg (by simp), hcolon.expect_eq (by decide)]
  exact ⟨hreader.complete hblanks hstart hrest hd, hslot⟩

theorem slot_of_readOnce (hreader : Reads reader shown)
    (hread : readOnce once reader text = .ok (d, rest))
    (h : Slot shown (some d) (valuesOf key members) d') :
    ∃ v, Assigned text v rest ∧ Slot shown once (valuesOf key ((some key, v) :: members)) d' := by
  obtain rfl := h.eq_of_some
  rw [readOnce] at hread
  split at hread
  · cases hread
  · rename_i hseen
    obtain ⟨before, hcolon, hread⟩ := bind_eq_ok.mp hread
    obtain ⟨start, v, hblanks, hstart, hd⟩ := hreader.sound hread
    exact ⟨v, ⟨before, start, blanks_of_expect hcolon, hblanks, hstart⟩,
      slot_cons_self_iff.mpr ⟨by simpa using hseen, hd, h⟩⟩

theorem readMember_of_slots (hr : r.Readable shownFirst shownSecond shownThird)
    (hassigned : Assigned text v rest) (hrest : Delimited rest)
    (h : r.Slots shownFirst shownSecond shownThird seen ((some key, v) :: members) value) :
    ∃ next, r.readMember seen key text = .ok (next, rest) ∧
      r.Slots shownFirst shownSecond shownThird next members value := by
  obtain ⟨hfirst, hsecond, hthird⟩ := h
  have hdistinct := hr.distinct
  rw [readMember]
  split
  · rename_i hkey
    subst hkey
    obtain ⟨honce, hslot⟩ := readOnce_of_slot hr.first hassigned hrest hfirst
    rw [honce]
    exact ⟨{ seen with first := some value.1 }, rfl, hslot,
      (slot_cons_ne_iff hdistinct.second_ne_first.symm).mp hsecond,
      (slot_cons_ne_iff hdistinct.third_ne_first.symm).mp hthird⟩
  rename_i hneFirst
  split
  · rename_i hkey
    subst hkey
    obtain ⟨honce, hslot⟩ := readOnce_of_slot hr.second hassigned hrest hsecond
    rw [honce]
    exact ⟨{ seen with second := some value.2.1 }, rfl, (slot_cons_ne_iff hneFirst).mp hfirst,
      hslot, (slot_cons_ne_iff hdistinct.third_ne_second.symm).mp hthird⟩
  rename_i hneSecond
  split
  · rename_i hkey
    subst hkey
    obtain ⟨honce, hslot⟩ := readOnce_of_slot hr.third hassigned hrest hthird
    rw [honce]
    exact ⟨{ seen with third := some value.2.2 }, rfl, (slot_cons_ne_iff hneFirst).mp hfirst,
      (slot_cons_ne_iff hneSecond).mp hsecond, hslot⟩
  · rename_i hneThird
    obtain ⟨before, start, hcolon, hblanks, hstart⟩ := hassigned
    rw [hcolon.expect_eq (by decide)]
    simp only [bind, Except.bind, skipValue_of_starts hblanks hstart hrest]
    exact ⟨seen, rfl, (slot_cons_ne_iff hneFirst).mp hfirst,
      (slot_cons_ne_iff hneSecond).mp hsecond, (slot_cons_ne_iff hneThird).mp hthird⟩

theorem slots_of_readMember (hr : r.Readable shownFirst shownSecond shownThird)
    (hread : r.readMember seen key text = .ok (next, rest))
    (h : r.Slots shownFirst shownSecond shownThird next members value) :
    ∃ v, Assigned text v rest ∧
      r.Slots shownFirst shownSecond shownThird seen ((some key, v) :: members) value := by
  obtain ⟨hfirst, hsecond, hthird⟩ := h
  have hdistinct := hr.distinct
  rw [readMember] at hread
  split at hread
  · rename_i hkey
    subst hkey
    obtain ⟨⟨a, rest'⟩, honce, heq⟩ := map_eq_ok.mp hread
    obtain ⟨rfl, rfl⟩ := Prod.mk.inj heq
    obtain ⟨v, hassigned, hslot⟩ := slot_of_readOnce hr.first honce hfirst
    exact ⟨v, hassigned, hslot, (slot_cons_ne_iff hdistinct.second_ne_first.symm).mpr hsecond,
      (slot_cons_ne_iff hdistinct.third_ne_first.symm).mpr hthird⟩
  rename_i hneFirst
  split at hread
  · rename_i hkey
    subst hkey
    obtain ⟨⟨b, rest'⟩, honce, heq⟩ := map_eq_ok.mp hread
    obtain ⟨rfl, rfl⟩ := Prod.mk.inj heq
    obtain ⟨v, hassigned, hslot⟩ := slot_of_readOnce hr.second honce hsecond
    exact ⟨v, hassigned, (slot_cons_ne_iff hneFirst).mpr hfirst, hslot,
      (slot_cons_ne_iff hdistinct.third_ne_second.symm).mpr hthird⟩
  rename_i hneSecond
  split at hread
  · rename_i hkey
    subst hkey
    obtain ⟨⟨c, rest'⟩, honce, heq⟩ := map_eq_ok.mp hread
    obtain ⟨rfl, rfl⟩ := Prod.mk.inj heq
    obtain ⟨v, hassigned, hslot⟩ := slot_of_readOnce hr.third honce hthird
    exact ⟨v, hassigned, (slot_cons_ne_iff hneFirst).mpr hfirst,
      (slot_cons_ne_iff hneSecond).mpr hsecond, hslot⟩
  · -- The value of any other key is passed over, and fills no slot.
    rename_i hneThird
    obtain ⟨before, hcolon, hskip⟩ := bind_eq_ok.mp hread
    obtain ⟨rest', hvalue, heq⟩ := bind_eq_ok.mp hskip
    cases heq
    obtain ⟨start, v, hblanks, hstart⟩ := exists_of_skipValue hvalue
    exact ⟨v, ⟨before, start, blanks_of_expect hcolon, hblanks, hstart⟩,
      (slot_cons_ne_iff hneFirst).mpr hfirst, (slot_cons_ne_iff hneSecond).mpr hsecond,
      (slot_cons_ne_iff hneThird).mpr hthird⟩

end Steps

section Objects

variable {counter : Text}

theorem complete_eq_ok_iff :
    seen.complete = .ok value ↔ r.Slots shownFirst shownSecond shownThird seen [] value := by
  obtain ⟨first, second, third⟩ := seen
  obtain ⟨a, b, c⟩ := value
  constructor
  · intro h
    cases first <;> cases second <;> cases third <;> cases h
    exact ⟨slot_nil_iff.mpr rfl, slot_nil_iff.mpr rfl, slot_nil_iff.mpr rfl⟩
  · rintro ⟨hfirst, hsecond, hthird⟩
    obtain rfl := slot_nil_iff.mp hfirst
    obtain rfl := slot_nil_iff.mp hsecond
    obtain rfl := slot_nil_iff.mp hthird
    rfl

theorem exists_name_of_front {key : Option Text} {start : Text}
    (h : Container.Front .object text key start) (hstart : Starts start v rest)
    (hkey : key.isSome = true) :
    ∃ inside name behind, expect '"' text = .ok inside ∧ readString inside = .ok (name, behind) ∧
      key = some name ∧ Assigned behind v rest := by
  obtain ⟨name, rfl⟩ := Option.isSome_iff_exists.mp hkey
  cases h with
  | object hquote hname hcolon hblanks =>
    cases hname with
    | text hname =>
      exact ⟨_, name, _, hquote.expect_eq (by decide), readString_eq_ok_iff.mpr hname, rfl,
        _, _, hcolon, hblanks, hstart⟩

theorem readMembers_of_entries (hr : r.Readable shownFirst shownSecond shownThird)
    {text rest counter : Text} {members : List (Option Text × Value)} {seen : Seen α β γ} :
    Entries .object text members rest → (∀ m ∈ members, m.1.isSome = true) →
      r.Slots shownFirst shownSecond shownThird seen members value →
        members.length ≤ counter.length → r.readMembers counter seen text = .ok (value, rest)
  | .last hfront hstart hclosing, htexts, hslots, hcounter => by
    obtain ⟨c, counter, rfl⟩ := List.exists_cons_of_length_pos hcounter
    obtain ⟨inside, name, behind, hquote, hname, rfl, hassigned⟩ :=
      exists_name_of_front hfront hstart (htexts _ List.mem_cons_self)
    obtain ⟨next, hmember, hslots⟩ :=
      readMember_of_slots hr hassigned (delimited_of_closing hclosing) hslots
    have hskip := hclosing.skipBlank_eq (isBlank_closing .object)
    simp only [Container.closing] at hskip
    have hcomplete := complete_eq_ok_iff.mpr hslots
    simp only [readMembers, bind, Except.bind, hquote, hname, hmember, hskip, hcomplete]
    rfl
  | .more hfront hstart hcomma hentries, htexts, hslots, hcounter => by
    obtain ⟨c, counter, rfl⟩ := List.exists_cons_of_length_pos (Nat.zero_lt_of_lt hcounter)
    obtain ⟨hkey, hothers⟩ := List.forall_mem_cons.mp htexts
    obtain ⟨inside, name, behind, hquote, hname, rfl, hassigned⟩ :=
      exists_name_of_front hfront hstart hkey
    obtain ⟨next, hmember, hslots⟩ :=
      readMember_of_slots hr hassigned (delimited_of_comma hcomma) hslots
    have hskip := hcomma.skipBlank_eq (by decide)
    simp only [readMembers, bind, Except.bind, hquote, hname, hmember, hskip]
    exact readMembers_of_entries hr hentries hothers hslots (Nat.le_of_succ_le_succ hcounter)

theorem exists_of_readMembers (hr : r.Readable shownFirst shownSecond shownThird)
    (hread : r.readMembers counter seen text = .ok (value, rest)) :
    ∃ members, Entries .object text members rest ∧ (∀ m ∈ members, m.1.isSome = true) ∧
      r.Slots shownFirst shownSecond shownThird seen members value := by
  induction counter generalizing seen text with
  | nil => cases hread
  | cons c counter ih =>
    simp only [readMembers, bind_eq_ok] at hread
    obtain ⟨inside, hquote, ⟨key, behind⟩, hkey, ⟨next, behind'⟩, hmember, hread⟩ := hread
    simp only at hread hmember
    have hfront : ∀ {before start}, Blanks behind (':' :: before) → Blanks before start →
        Container.Front .object text (some key) start :=
      .object (blanks_of_expect hquote) (.text (readString_eq_ok_iff.mp hkey))
    split at hread
    · cases hread
    · rename_i rest' hskip
      obtain ⟨value', hcomplete, heq⟩ := bind_eq_ok.mp hread
      cases heq
      obtain ⟨v, ⟨before, start, hcolon, hblanks, hstart⟩, hslots⟩ :=
        slots_of_readMember hr hmember (complete_eq_ok_iff.mp hcomplete)
      exact ⟨_, .last (hfront hcolon hblanks) hstart (.of_skipBlank_eq hskip), by simp, hslots⟩
    · rename_i rest' hskip
      obtain ⟨members, hentries, htexts, hslots⟩ := ih hread
      obtain ⟨v, ⟨before, start, hcolon, hblanks, hstart⟩, hslots⟩ :=
        slots_of_readMember hr hmember hslots
      refine ⟨_, .more (hfront hcolon hblanks) hstart (.of_skipBlank_eq hskip) hentries, ?_, hslots⟩
      exact List.forall_mem_cons.mpr ⟨rfl, htexts⟩
    · cases hread

end Objects

section Arrays

variable {a : α} {b : β} {c : γ} {entry other : Option Text × Value}
  {entries : List (Option Text × Value)}

theorem nextItem_eq (h : Blanks text (',' :: rest)) : nextItem text = .ok rest := by
  simp only [nextItem, h.skipBlank_eq (by decide)]

theorem blanks_of_nextItem (h : nextItem text = .ok rest) : Blanks text (',' :: rest) := by
  rw [nextItem] at h
  split at h
  case h_2 hskip =>
    cases h
    exact .of_skipBlank_eq hskip
  all_goals cases h

theorem exists_comma_of_entries (h : Entries .array text (entry :: other :: entries) rest) :
    ∃ start behind next, Blanks text start ∧ Starts start entry.2 behind ∧
      Blanks behind (',' :: next) ∧ Entries .array next (other :: entries) rest := by
  cases h with
  | more hfront hstart hcomma hentries =>
    cases hfront with
    | array hblanks => exact ⟨_, _, _, hblanks, hstart, hcomma, hentries⟩

theorem exists_closing_of_entries (h : Entries .array text [entry] rest) :
    ∃ start behind, Blanks text start ∧ Starts start entry.2 behind ∧
      Blanks behind (Container.array.closing :: rest) := by
  cases h with
  | last hfront hstart hclosing =>
    cases hfront with
    | array hblanks => exact ⟨_, _, hblanks, hstart, hclosing⟩
  | more _ _ _ hentries => cases hentries

theorem readArray_of_entries (hr : r.Readable shownFirst shownSecond shownThird)
    {x y z : Option Text × Value} (h : Entries .array text [x, y, z] rest)
    (ha : shownFirst a x.2) (hb : shownSecond b y.2) (hc : shownThird c z.2) :
    r.readArray text = .ok ((a, b, c), rest) := by
  obtain ⟨d, tail, hskip, -, hne⟩ := h.head
  obtain ⟨_, _, second, hblanks, hstart, hcomma, h⟩ := exists_comma_of_entries h
  have hfirst := hr.first.complete hblanks hstart (delimited_of_comma hcomma) ha
  obtain ⟨_, _, third, hblanks, hstart, hcomma', h⟩ := exists_comma_of_entries h
  have hsecond := hr.second.complete hblanks hstart (delimited_of_comma hcomma') hb
  obtain ⟨_, _, hblanks, hstart, hclosing⟩ := exists_closing_of_entries h
  have hthird := hr.third.complete hblanks hstart (delimited_of_closing hclosing) hc
  have hexpect : expect ']' _ = .ok rest := hclosing.expect_eq (isBlank_closing .array)
  rw [readArray, if_neg ?_]
  · simp only [bind, Except.bind, hfirst, nextItem_eq hcomma, hsecond, nextItem_eq hcomma', hthird,
      hexpect]
    rfl
  · rw [hskip]
    exact fun heq => hne (Option.some.inj heq)

theorem exists_of_readArray (hr : r.Readable shownFirst shownSecond shownThird)
    (hread : r.readArray text = .ok ((a, b, c), rest)) :
    ∃ x y z : Value, Entries .array text [(none, x), (none, y), (none, z)] rest ∧
      shownFirst a x ∧ shownSecond b y ∧ shownThird c z := by
  rw [readArray] at hread
  split at hread
  · cases hread
  · simp only [bind_eq_ok] at hread
    obtain ⟨⟨_, _⟩, hfirst, _, hcomma, ⟨_, _⟩, hsecond, _, hcomma', ⟨_, _⟩, hthird, _, hclosing,
      heq⟩ := hread
    cases heq
    obtain ⟨_, x, hblanks, hx, ha⟩ := hr.first.sound hfirst
    obtain ⟨_, y, hblanks', hy, hb⟩ := hr.second.sound hsecond
    obtain ⟨_, z, hblanks'', hz, hc⟩ := hr.third.sound hthird
    exact ⟨x, y, z, .more (.array hblanks) hx (blanks_of_nextItem hcomma)
      (.more (.array hblanks') hy (blanks_of_nextItem hcomma')
        (.last (.array hblanks'') hz (blanks_of_expect hclosing))), ha, hb, hc⟩

end Arrays

section Values

/-- A value has one item for each key, and the items show the members. -/
def Shown (r : Record α β γ) (shownFirst : α → Value → Prop) (shownSecond : β → Value → Prop)
    (shownThird : γ → Value → Prop) (value : α × β × γ) (v : Value) : Prop :=
  ∃ x y z, v.Fills r.keys [x, y, z] ∧
    shownFirst value.1 x ∧ shownSecond value.2.1 y ∧ shownThird value.2.2 z

theorem slots_iff_shown (htexts : ∀ m ∈ members, m.1.isSome = true) :
    r.Slots shownFirst shownSecond shownThird {} members value ↔
      r.Shown shownFirst shownSecond shownThird value (.object members) := by
  constructor
  · rintro ⟨hfirst, hsecond, hthird⟩
    obtain ⟨x, hx, ha⟩ := slot_none_iff.mp hfirst
    obtain ⟨y, hy, hb⟩ := slot_none_iff.mp hsecond
    obtain ⟨z, hz, hc⟩ := slot_none_iff.mp hthird
    exact ⟨x, y, z, .object htexts (.cons hx (.cons hy (.cons hz .nil))), ha, hb, hc⟩
  · rintro ⟨x, y, z, hfills, ha, hb, hc⟩
    cases hfills with
    | object _ hmembers =>
      obtain ⟨hx, hmembers⟩ := List.forall₂_cons.mp hmembers
      obtain ⟨hy, hmembers⟩ := List.forall₂_cons.mp hmembers
      obtain ⟨hz, -⟩ := List.forall₂_cons.mp hmembers
      exact ⟨slot_none_iff.mpr ⟨x, hx, ha⟩, slot_none_iff.mpr ⟨y, hy, hb⟩,
        slot_none_iff.mpr ⟨z, hz, hc⟩⟩

theorem readObject_of_entries (hr : r.Readable shownFirst shownSecond shownThird)
    (h : Entries .object text members rest) (htexts : ∀ m ∈ members, m.1.isSome = true)
    (hshown : r.Shown shownFirst shownSecond shownThird value (.object members)) :
    r.readObject text = .ok (value, rest) := by
  obtain ⟨c, tail, hskip, -, hne⟩ := h.head
  have hentries := h.skipBlank
  rw [readObject]
  split
  · rename_i hclosing
    rw [hskip] at hclosing
    exact absurd (List.cons.inj hclosing).1 hne
  · exact readMembers_of_entries hr hentries htexts ((slots_iff_shown htexts).mpr hshown)
      hentries.length_le

theorem exists_of_readObject (hr : r.Readable shownFirst shownSecond shownThird)
    (hread : r.readObject text = .ok (value, rest)) :
    ∃ members, Entries .object text members rest ∧
      r.Shown shownFirst shownSecond shownThird value (.object members) := by
  rw [readObject] at hread
  split at hread
  · cases hread
  · obtain ⟨members, hentries, htexts, hslots⟩ := exists_of_readMembers hr hread
    exact ⟨members, hentries.of_blanks (blanks_skipBlank text), (slots_iff_shown htexts).mp hslots⟩

/-- A record is read from exactly the values that show it. -/
theorem reads_read (hr : r.Readable shownFirst shownSecond shownThird) :
    Reads r.read (r.Shown shownFirst shownSecond shownThird) where
  complete := by
    intro text start rest v value hblanks hstart _ hshown
    obtain ⟨x, y, z, hfills, ha, hb, hc⟩ := hshown
    cases hfills with
    | array =>
      obtain ⟨inside, entries, rfl, hitems, hbody⟩ := hstart.array_inversion
      obtain ⟨p, q, s, rfl⟩ := List.length_eq_three.mp
        ((List.length_map Prod.snd).symm.trans (congrArg List.length hitems.symm))
      simp only [List.map_cons, List.map_nil, List.cons.injEq, and_true] at hitems
      obtain ⟨rfl, rfl, rfl⟩ := hitems
      obtain ⟨hnil, -⟩ | hentries := hbody
      · cases hnil
      · simp only [read, hblanks.skipBlank_eq (by decide)]
        exact readArray_of_entries hr hentries ha hb hc
    | object htexts hmembers =>
      obtain ⟨inside, rfl, ⟨rfl, -⟩ | hentries⟩ := hstart.object_inversion
      · cases (List.forall₂_cons.mp hmembers).1
      · simp only [read, hblanks.skipBlank_eq (by decide)]
        exact readObject_of_entries hr hentries htexts
          ⟨x, y, z, .object htexts hmembers, ha, hb, hc⟩
  sound := by
    intro text rest value hread
    rw [read] at hread
    split at hread
    · rename_i inside hskip
      obtain ⟨members, hentries, hshown⟩ := exists_of_readObject hr hread
      exact ⟨_, _, .of_skipBlank_eq hskip, .entries hentries, hshown⟩
    · rename_i inside hskip
      obtain ⟨a, b, c⟩ := value
      obtain ⟨x, y, z, hentries, ha, hb, hc⟩ := exists_of_readArray hr hread
      exact ⟨_, _, .of_skipBlank_eq hskip, .entries hentries, x, y, z, .array rfl, ha, hb, hc⟩
    · cases hread

end Values

end Record
end SyscallNames.Json
