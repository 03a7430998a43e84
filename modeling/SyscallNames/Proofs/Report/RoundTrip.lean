import SyscallNames.Proofs.Declaration.Scan
import SyscallNames.Proofs.Json.Written
import SyscallNames.Proofs.Report.Presentation

set_option autoImplicit false

namespace SyscallNames

namespace Declaration

def toValue (d : Declaration) : Json.Value :=
  .object [(some nameKey, .string (some d.name)), (some lineKey, .word d.line),
    (some offsetKey, .word d.offset)]

theorem writes_toJsonAt (d : Declaration) (layout : Json.Layout) (depth : Nat) :
    Json.Writes (d.toJsonAt layout depth) d.toValue :=
  Json.writes_object layout depth (.cons ⟨rfl, Json.writes_quote d.name⟩
    (.cons ⟨rfl, Json.starts_word d.line⟩ (.cons ⟨rfl, Json.starts_word d.offset⟩ .nil)))

theorem Sized.shownBy_toValue {d : Declaration} (h : d.Sized) : d.ShownBy d.toValue :=
  ⟨h, .object (by simp) (.cons rfl (.cons rfl (.cons rfl .nil)))⟩

theorem presents_toJsonAt {d : Declaration} (h : d.Sized) (layout : Json.Layout) (depth : Nat) :
    Json.Presents readJson (d.toJsonAt layout depth) d :=
  (d.writes_toJsonAt layout depth).presents reads_readJson h.shownBy_toValue

theorem sized_of_mem_extract {text : Bytes} {d : Declaration} (h : d ∈ extract text)
    (hlen : text.length < Decimal.wordLimit) : d.Sized := by
  have hplace := (occursAt_of_mem (p := 0) h).1.lt_length
  have hline := line_add_le_of_mem (p := 0) h
  constructor <;> omega

end Declaration

namespace Report

structure Sized (r : Report) : Prop where
  count : r.count < Decimal.wordLimit
  declarations : ∀ d ∈ r.declarations, d.Sized

def toValue (r : Report) : Json.Value :=
  .object [(some sourceKey, .string (some r.source)), (some countKey, .word r.count),
    (some declarationsKey, .array (r.declarations.map Declaration.toValue))]

theorem writes_toJson (r : Report) (layout : Json.Layout) :
    Json.Writes (r.toJson layout) r.toValue := by
  have hdeclarations : List.Forall₂ Json.Writes
      (r.declarations.map (Declaration.toJsonAt layout 2))
      (r.declarations.map Declaration.toValue) := by
    rw [List.forall₂_map_left_iff, List.forall₂_map_right_iff, List.forall₂_same]
    exact fun d _ => d.writes_toJsonAt layout 2
  exact Json.writes_object layout 0 (.cons ⟨rfl, Json.writes_quote r.source⟩
    (.cons ⟨rfl, Json.starts_word r.count⟩
      (.cons ⟨rfl, Json.writes_array layout 1 hdeclarations⟩ .nil)))

theorem Sized.shownBy_toValue {r : Report} (h : r.Sized) : r.ShownBy r.toValue := by
  refine ⟨h.count, _, .object (by simp) (.cons rfl (.cons rfl (.cons rfl .nil))), ?_⟩
  rw [List.forall₂_map_right_iff, List.forall₂_same]
  exact fun d hd => (h.declarations d hd).shownBy_toValue

theorem presents_toJson {r : Report} (h : r.Sized) (layout : Json.Layout) :
    Json.Presents readJson (r.toJson layout) r :=
  (r.writes_toJson layout).presents reads_readJson h.shownBy_toValue

theorem sized_ofDeclarations {text : Bytes} (source : Source)
    (h : text.length < Decimal.wordLimit) :
    (ofDeclarations source (Declaration.extract text)).Sized where
  count := Nat.lt_of_le_of_lt (Declaration.length_extractFrom_le text 1 0) h
  declarations _ hd := Declaration.sized_of_mem_extract hd h

/-- What is written for a report or a declaration, in either layout, is read back as it was. So the
report on a text states its source, how many declarations the text has, and which. -/
theorem ofJson_toJson (layout : Json.Layout) :
    (∀ r : Report, r.Sized → ofJson (r.toJson layout) = .ok r) ∧
    (∀ d : Declaration, d.Sized → Declaration.ofJson (d.toJson layout) = .ok d) ∧
    ∀ (path : Option Bytes) (text : Bytes), text.length < Decimal.wordLimit →
      ofJson ((ofDeclarations (Source.ofArgument path) (Declaration.extract text)).toJson layout) =
        .ok {
          source := (Source.ofArgument path).display
          count := (Declaration.extract text).length
          declarations := Declaration.extract text } := by
  have hreport : ∀ r : Report, r.Sized → ofJson (r.toJson layout) = .ok r :=
    fun r hr => Json.readDocument_of_presents (presents_toJson hr layout)
  refine ⟨hreport, ?_, ?_⟩
  · intro d hd
    exact Json.readDocument_of_presents (Declaration.presents_toJsonAt hd layout 0)
  · intro path text hlen
    exact hreport _ (sized_ofDeclarations (Source.ofArgument path) hlen)

/-- Escapes of every kind, and numbers that no larger word follows. -/
theorem ofJson_toJson_of_escapes :
    let name := ['"', '\\', '\n', '\x00', '\x1F', '\x7F', '\uFFFD', Char.ofNat 0x1F600]
    let r : Report := {
      source := name, count := 2 ^ 64 - 1,
      declarations := [{ name, line := 2 ^ 64 - 1, offset := 0 }] }
    r.Sized ∧ ofJson (r.toJson .compact) = .ok r ∧ ofJson (r.toJson .indented) = .ok r := by
  intro name r
  have hr : r.Sized := by
    refine ⟨by decide, fun d hd => ?_⟩
    obtain rfl := List.mem_singleton.mp hd
    constructor <;> decide
  exact ⟨hr, (ofJson_toJson .compact).1 r hr, (ofJson_toJson .indented).1 r hr⟩

end Report
end SyscallNames
