import SyscallNames.Proofs.Json.Reading
import SyscallNames.Report.Json

set_option autoImplicit false

namespace SyscallNames

open Json (Reads reads_readText reads_readWord reads_readList)

namespace Declaration

structure Sized (d : Declaration) : Prop where
  line : d.line < Decimal.wordLimit
  offset : d.offset < Decimal.wordLimit

def keys : List Text := [nameKey, lineKey, offsetKey]

/-- A value shows a declaration when it has the name, the line and the offset for the keys, and
words hold both numbers. -/
def ShownBy (d : Declaration) (v : Json.Value) : Prop :=
  d.Sized ∧ v.Fills keys [.string (some d.name), .word d.line, .word d.offset]

/-- A key is missing or repeated, an array is too short or too long, or a number is no word. -/
def Flawed (v : Json.Value) : Prop :=
  v.Misfilled keys ∨ ∃ key ∈ [lineKey, offsetKey], ∃ item, v.Holds keys key item ∧ item.NoWord

theorem record_distinct : record.Distinct where
  second_ne_first := by decide
  third_ne_first := by decide
  third_ne_second := by decide

theorem reads_readJson : Reads readJson ShownBy := by
  let ofMembers (m : Text × Nat × Nat) : Declaration := ⟨m.1, m.2.1, m.2.2⟩
  refine (Json.Record.reads_read
    ⟨record_distinct, reads_readText, reads_readWord, reads_readWord⟩).map ofMembers fun d v => ?_
  constructor
  · rintro ⟨⟨hline, hoffset⟩, hfills⟩
    exact ⟨(d.name, d.line, d.offset), rfl, _, _, _, hfills, rfl, ⟨hline, rfl⟩, hoffset, rfl⟩
  · rintro ⟨⟨name, line, offset⟩, rfl, _, _, _, hfills, rfl, ⟨hline, rfl⟩, hoffset, rfl⟩
    exact ⟨⟨hline, hoffset⟩, hfills⟩

theorem nodup_keys : keys.Nodup := by decide

theorem Flawed.not_shownBy {d : Declaration} {v : Json.Value} (h : Flawed v) : ¬ d.ShownBy v := by
  rintro ⟨⟨hline, hoffset⟩, hfills⟩
  obtain hmisfilled | ⟨key, hkey, item, hholds, hno⟩ := h
  · exact hfills.not_misfilled hmisfilled
  · have hitem : ∀ {item'}, (key, item') ∈ keys.zip _ → item = item' :=
      hfills.item_eq nodup_keys hholds
    simp only [List.mem_cons, List.not_mem_nil, or_false] at hkey
    obtain rfl | rfl := hkey
    · obtain rfl := hitem (List.mem_cons_of_mem _ List.mem_cons_self)
      exact Json.Value.not_noWord_word hline hno
    · obtain rfl := hitem (List.mem_cons_of_mem _ (List.mem_cons_of_mem _ List.mem_cons_self))
      exact Json.Value.not_noWord_word hoffset hno

end Declaration

namespace Report

def keys : List Text := [sourceKey, countKey, declarationsKey]

/-- A value shows a report when it has the source, the count and an array for the keys, a word holds
the count, and the items of the array show the declarations. -/
def ShownBy (r : Report) (v : Json.Value) : Prop :=
  r.count < Decimal.wordLimit ∧ ∃ items : List Json.Value,
    v.Fills keys [.string (some r.source), .word r.count, .array items] ∧
      List.Forall₂ Declaration.ShownBy r.declarations items

/-- A key is missing or repeated, an array is too short or too long, or a number is no word, in the
report or in one of the declarations. -/
def Flawed (v : Json.Value) : Prop :=
  v.Misfilled keys ∨ (∃ item, v.Holds keys countKey item ∧ item.NoWord) ∨
    ∃ items, v.Holds keys declarationsKey (.array items) ∧ ∃ item ∈ items, Declaration.Flawed item

theorem record_distinct : record.Distinct where
  second_ne_first := by decide
  third_ne_first := by decide
  third_ne_second := by decide

theorem reads_readJson : Reads readJson ShownBy := by
  have hlist := reads_readList Declaration.reads_readJson
  let ofMembers (m : Text × Nat × List Declaration) : Report := ⟨m.1, m.2.1, m.2.2⟩
  refine (Json.Record.reads_read
    ⟨record_distinct, reads_readText, reads_readWord, hlist⟩).map ofMembers fun r v => ?_
  constructor
  · rintro ⟨hcount, items, hfills, hitems⟩
    exact ⟨(r.source, r.count, r.declarations), rfl, _, _, _, hfills, rfl, ⟨hcount, rfl⟩, items,
      rfl, hitems⟩
  · rintro ⟨⟨source, count, ds⟩, rfl, _, _, _, hfills, rfl, ⟨hcount, rfl⟩, items, rfl, hitems⟩
    exact ⟨hcount, items, hfills, hitems⟩

theorem nodup_keys : keys.Nodup := by decide

theorem Flawed.not_shownBy {r : Report} {v : Json.Value} (h : Flawed v) : ¬ r.ShownBy v := by
  rintro ⟨hcount, items, hfills, hitems⟩
  obtain hmisfilled | ⟨item, hholds, hno⟩ | ⟨items', hholds, item, hitem, hflawed⟩ := h
  · exact hfills.not_misfilled hmisfilled
  · obtain rfl := hfills.item_eq nodup_keys hholds (List.mem_cons_of_mem _ List.mem_cons_self)
    exact Json.Value.not_noWord_word hcount hno
  · obtain rfl := Json.Value.array.inj (hfills.item_eq nodup_keys hholds
      (List.mem_cons_of_mem _ (List.mem_cons_of_mem _ List.mem_cons_self)))
    have hflip : List.Forall₂ (flip Declaration.ShownBy) _ r.declarations := .flip hitems
    obtain ⟨d, -, hd⟩ := Json.exists_zip_of_mem hflip hitem
    exact hflawed.not_shownBy hd

/-- A report or a declaration is read from a text exactly when the text is a JSON document that
shows it, whatever the blanks between the tokens, the escapes in the strings, the order of the
members and the members with other keys. No document is accepted in which a key of the report, or
of one of its declarations, is missing or repeated, an array that stands for one of them is too
short or too long, or one of their numbers has a sign, a fraction or an exponent or exceeds a
word. -/
theorem ofJson_eq_ok_iff :
    (∀ (text : Text) (r : Report),
      ofJson text = .ok r ↔ ∃ v, Json.Document text v ∧ r.ShownBy v) ∧
    (∀ (text : Text) (d : Declaration),
      Declaration.ofJson text = .ok d ↔ ∃ v, Json.Document text v ∧ d.ShownBy v) ∧
    (∀ (text : Text) (v : Json.Value), Json.Document text v → Flawed v →
      ∃ e, ofJson text = .error e) ∧
    ∀ (text : Text) (v : Json.Value), Json.Document text v → Declaration.Flawed v →
      ∃ e, Declaration.ofJson text = .error e := by
  refine ⟨fun text r => reads_readJson.readDocument_eq_ok_iff,
    fun text d => Declaration.reads_readJson.readDocument_eq_ok_iff, ?_, ?_⟩
  · intro text v hv hflawed
    cases h : ofJson text with
    | error e => exact ⟨e, rfl⟩
    | ok r =>
      obtain ⟨v', hv', hshown⟩ := reads_readJson.readDocument_eq_ok_iff.mp h
      exact absurd (hv.unique hv' ▸ hshown) hflawed.not_shownBy
  · intro text v hv hflawed
    cases h : Declaration.ofJson text with
    | error e => exact ⟨e, rfl⟩
    | ok d =>
      obtain ⟨v', hv', hshown⟩ := Declaration.reads_readJson.readDocument_eq_ok_iff.mp h
      exact absurd (hv.unique hv' ▸ hshown) hflawed.not_shownBy

/-- Members in another order, with blanks, escapes and members that nobody asked for; and a
declaration whose line has a sign, by itself and in a report. -/
theorem ofJson_of_presentations :
    let name := ['a', Char.ofNat 0x1F600]
    let r : Report := {
      source := name, count := 1, declarations := [{ name, line := 1, offset := 0 }] }
    let text := ("\x7b\"x\":[\x7b\"count\":7\x7d,\"\\ud800\"], " ++
      "\"syscalls\":[[\"a\\uD83D\\uDE00\",1 ,0]],\"x\":null,\"c\\u006funt\":1 ,\n" ++
      "\"source\" : \"\\u0061\\ud83d\\ude00\"\x7d").toList
    let flawed := "[\"\",-1,0]".toList
    let flawedReport := "[\"\",1,[[\"\",-1,0]]]".toList
    ofJson text = .ok r ∧ (∃ v, Json.Document text v ∧ r.ShownBy v) ∧
      (∃ e, Declaration.ofJson flawed = .error e) ∧ ∃ e, ofJson flawedReport = .error e := by
  intro name r text flawed flawedReport
  have hread : ofJson text = .ok r := by decide +kernel
  let item : Json.Value :=
    .array [.string (some []), .number { negative := true, integer := 1 }, .word 0]
  have hitem (rest : Text) : Json.Starts
      ('[' :: '"' :: '"' :: ',' :: '-' :: '1' :: ',' :: '0' :: ']' :: rest) item rest := by
    have hnumber : Json.Numeral.WellFormed { negative := true, integer := 1 } := ⟨by simp, by simp⟩
    exact .entries (.more (.array (.refl _)) (.string (.text .quote)) (.refl _)
      (.more (.array (.refl _)) (.number hnumber) (.refl _)
        (.last (.array (.refl _)) (Json.starts_word 0 _) (.refl _))))
  have hdocument : Json.Document flawed item := ⟨_, _, .refl _, hitem [], .refl _⟩
  have hreport : Json.Document flawedReport
      (.array [.string (some []), .word 1, .array [item]]) := by
    refine ⟨_, [], .refl _, ?_, .refl _⟩
    exact .entries (.more (.array (.refl _)) (.string (.text .quote)) (.refl _)
      (.more (.array (.refl _)) (Json.starts_word 1 _) (.refl _)
        (.last (.array (.refl _)) (.entries (.last (.array (.refl _)) (hitem _) (.refl _)))
          (.refl _))))
  have hflawed : Declaration.Flawed item :=
    .inr ⟨Declaration.lineKey, List.mem_cons_self, _,
      .array (List.mem_cons_of_mem _ List.mem_cons_self), .number (.inl rfl)⟩
  have hflawedReport : Flawed (.array [.string (some []), .word 1, .array [item]]) :=
    .inr (.inr ⟨[item], .array (List.mem_cons_of_mem _ (List.mem_cons_of_mem _ List.mem_cons_self)),
      item, List.mem_cons_self, hflawed⟩)
  exact ⟨hread, (ofJson_eq_ok_iff.1 text r).mp hread,
    ofJson_eq_ok_iff.2.2.2 flawed item hdocument hflawed,
    ofJson_eq_ok_iff.2.2.1 flawedReport _ hreport hflawedReport⟩

end Report
end SyscallNames
