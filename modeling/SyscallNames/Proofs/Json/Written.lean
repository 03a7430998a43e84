import SyscallNames.Json.Layout
import SyscallNames.Proofs.Json.Typed

set_option autoImplicit false

namespace SyscallNames.Json

/-- A text is the value, whatever comes behind it. -/
def Writes (text : Text) (v : Value) : Prop := ∀ rest, Starts (text ++ rest) v rest

def WritesEntry (container : Container) (text : Text) (entry : Option Text × Value) : Prop :=
  ∀ rest, ∃ start, container.Front (text ++ rest) entry.1 start ∧ Starts start entry.2 rest

theorem Writes.presents {α : Type} {reader : Reader α} {shown : α → Value → Prop} {text : Text}
    {v : Value} {a : α} (h : Writes text v) (hreader : Reads reader shown) (ha : shown a v) :
    Presents reader text a :=
  fun blank rest hblank hrest => hreader.complete ⟨blank, hblank, rfl⟩ (h rest) hrest ha

theorem spells_flatMap_escape (s rest : Text) :
    Spells (s.flatMap escape ++ '"' :: rest) s rest :=
  readString_eq_ok_iff.mp (readString_flatMap_escape s rest)

theorem writes_quote (s : Text) : Writes (quote s) (.string (some s)) := fun rest => by
  rw [quote, List.cons_append, List.append_assoc]
  exact .string (.text (spells_flatMap_escape s rest))

section Brackets

variable {container : Container} {layout : Layout} {text before rest : Text} {texts : List Text}
  {entry : Option Text × Value} {entries : List (Option Text × Value)}

theorem blanks_newline_append (layout : Layout) (depth : Nat) (rest : Text) :
    Blanks (layout.newline depth ++ rest) rest := by
  refine ⟨_, fun c hc => ?_, rfl⟩
  cases layout with
  | compact => simp [Layout.newline] at hc
  | indented =>
    obtain rfl | hc := List.mem_cons.mp hc
    · decide
    · rw [List.eq_of_mem_replicate hc]
      decide

theorem entries_more (layout : Layout) (depth outer : Nat)
    (h : WritesEntry container text entry)
    (hmore : List.Forall₂ (WritesEntry container) texts entries)
    (hblanks : Blanks before (text ++ (layout.more depth texts ++
      (layout.newline outer ++ container.closing :: rest)))) :
    Entries container before (entry :: entries) rest := by
  induction hmore generalizing text entry before with
  | nil =>
    obtain ⟨start, hfront, hstart⟩ := h (layout.newline outer ++ container.closing :: rest)
    exact .last (hfront.of_blanks hblanks) hstart (blanks_newline_append layout outer _)
  | @cons next other texts entries hnext _ ih =>
    have htail : layout.more depth (next :: texts) =
        ',' :: (layout.newline depth ++ (next ++ layout.more depth texts)) := by
      simp [Layout.more]
    simp only [htail, List.cons_append, List.append_assoc] at hblanks
    obtain ⟨start, hfront, hstart⟩ := h _
    exact .more (hfront.of_blanks hblanks) hstart (.refl _)
      (ih hnext (blanks_newline_append layout depth _))

theorem writes_bracket (layout : Layout) (depth : Nat)
    (h : List.Forall₂ (WritesEntry container) texts entries) :
    Writes (layout.bracket depth container.opening container.closing texts)
      (container.value entries) := by
  intro rest
  cases h with
  | nil => exact .empty (.refl _)
  | cons hentry hentries =>
    simp only [Layout.bracket, List.cons_append, List.append_assoc, List.nil_append]
    exact .entries (entries_more layout (depth + 1) depth hentry hentries
      (blanks_newline_append layout (depth + 1) _))

theorem writes_array {items : List Value} (layout : Layout) (depth : Nat)
    (h : List.Forall₂ Writes texts items) : Writes (layout.array depth texts) (.array items) := by
  have hentries : List.Forall₂ (WritesEntry .array) texts (items.map fun v => (none, v)) := by
    rw [List.forall₂_map_right_iff]
    exact h.imp fun text v hv rest => ⟨text ++ rest, .array (.refl _), hv rest⟩
  have hitems : (items.map fun v => ((none : Option Text), v)).map Prod.snd = items := by
    rw [List.map_map]
    exact List.map_id items
  have hbracket := writes_bracket layout depth hentries
  rwa [Container.value, hitems] at hbracket

theorem writesEntry_member {key value : Text} {v : Value} (layout : Layout) (h : Writes value v) :
    WritesEntry .object (layout.member key value) (some key, v) := by
  intro rest
  refine ⟨value ++ rest, ?_, h rest⟩
  have hcolon : ∃ before, Blanks (layout.colon ++ (value ++ rest)) (':' :: before) ∧
      Blanks before (value ++ rest) := by
    cases layout with
    | compact => exact ⟨_, .refl _, .refl _⟩
    | indented => exact ⟨_, .refl _, [' '], by simp [Blank, isBlank], rfl⟩
  obtain ⟨before, hcolon, hbefore⟩ := hcolon
  simp only [Layout.member, quote, List.cons_append, List.append_assoc, List.nil_append]
  exact .object (.refl _) (.text (spells_flatMap_escape key _)) hcolon hbefore

theorem writes_object {members : List (Text × Text)} (layout : Layout) (depth : Nat)
    (h : List.Forall₂ (fun m entry => entry.1 = some m.1 ∧ Writes m.2 entry.2) members entries) :
    Writes (layout.object depth members) (.object entries) := by
  have hentries : List.Forall₂ (WritesEntry .object)
      (members.map fun m => layout.member m.1 m.2) entries := by
    rw [List.forall₂_map_left_iff]
    refine h.imp fun m entry hentry => ?_
    obtain ⟨key, v⟩ := entry
    obtain ⟨rfl, hv⟩ := hentry
    exact writesEntry_member layout hv
  exact writes_bracket layout depth hentries

end Brackets

end SyscallNames.Json
