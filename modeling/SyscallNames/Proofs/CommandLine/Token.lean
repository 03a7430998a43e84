import SyscallNames.CommandLine.Form
import SyscallNames.CommandLine.Parser
import SyscallNames.Proofs.Reading
import SyscallNames.Proofs.Utf8

set_option autoImplicit false

namespace SyscallNames.CommandLine

def Switch.flag : Switch → Flag
  | verbose => .verbose
  | json => .json
  | pretty => .pretty
  | count => .count

def Letter.byte (l : Letter) : UInt8 := UInt8.ofNat l.char.toNat

namespace Progress

variable {p q q' : Progress}

section Settling

theorem setFormat_eq_ok {value : Bytes} :
    p.setFormat value = .ok q ↔
      p.format = none ∧ ∃ format, Utf8.decode? value = some format ∧
        q = { p with format := some format } := by
  rw [setFormat]
  cases hp : p.format with
  | some format => simp [fail]
  | none =>
    cases hd : Utf8.decode? value with
    | none => simp [fail]
    | some format => simp [eq_comm]

theorem settle_eq_ok (h : p.settle = .ok q) :
    (p.pending = .nothing ∧ q = p) ∨
      (∃ value format, p.pending = .format (some value) ∧
        q = { p with pending := .nothing, format := some format }) ∨
      ∃ path, p.pending = .file path ∧ path ≠ [] ∧
        q = { p with pending := .nothing, file := some path } := by
  rw [settle] at h
  split at h
  · rename_i hp
    cases h
    refine .inl ⟨hp, ?_⟩
    rw [← hp]
  · cases h
  · rename_i value hp
    obtain ⟨-, format, -, rfl⟩ := setFormat_eq_ok.mp h
    exact .inr (.inl ⟨value, format, hp, rfl⟩)
  · rename_i path hp
    split at h
    · cases h
    · rename_i hne
      cases h
      exact .inr (.inr ⟨path, hp, hne, rfl⟩)

theorem settle_of_nothing (h : p.pending = .nothing) : p.settle = .ok p := by
  rw [settle, h]
  simp only
  rw [← h]

theorem pending_of_settle (h : p.settle = .ok q) : q.pending = .nothing := by
  obtain ⟨hp, rfl⟩ | ⟨value, format, -, rfl⟩ | ⟨path, -, -, rfl⟩ := settle_eq_ok h
  · exact hp
  · rfl
  · rfl

theorem pending_ne_of_settle (h : p.settle = .ok q) : p.pending ≠ .format none := by
  obtain ⟨hp, -⟩ | ⟨value, format, hp, -⟩ | ⟨path, hp, -, -⟩ := settle_eq_ok h <;> simp [hp]

theorem plain_of_settle (h : p.settle = .ok q) : q.plain = p.plain := by
  obtain ⟨-, rfl⟩ | ⟨value, format, -, rfl⟩ | ⟨path, -, -, rfl⟩ := settle_eq_ok h <;> rfl

theorem hasFile_of_settle (h : p.settle = .ok q) : p.hasFile = q.file.isSome := by
  obtain ⟨hp, rfl⟩ | ⟨value, format, hp, rfl⟩ | ⟨path, hp, -, rfl⟩ := settle_eq_ok h <;>
    simp [hasFile, hp]

theorem readFlag_of_settle (h : p.settle = .ok q) (flag : Flag) :
    p.readFlag flag = q.setFlag flag := by
  rw [readFlag, h]
  rfl

theorem readFormat_of_settle (h : p.settle = .ok q) (value : Bytes) :
    p.readFormat value = q.setFormat value := by
  rw [readFormat, h]
  rfl

end Settling

def take (p : Progress) : Setting → Except Stop Progress
  | .switch s => p.setFlag s.flag
  | .format value => p.setFormat (Utf8.encode value)
  | .file path =>
    if p.file.isSome then fail .unknownArgument else { p with pending := .file path }.settle

/-- Nothing that has been read so far ends the flags, and it all comes to `q`. -/
structure Settles (p q : Progress) : Prop where
  plain : p.plain = false
  settle : p.settle = .ok q

theorem take_eq_ok {s : Setting} (hq : q.pending = .nothing) (h : q.take s = .ok q') :
    q'.pending = .nothing ∧ q'.plain = q.plain := by
  cases s with
  | switch s =>
    cases s <;> simp only [take, Switch.flag, setFlag] at h
    · cases h
      exact ⟨hq, rfl⟩
    all_goals
      split at h
      · cases h
      · cases h
        exact ⟨hq, rfl⟩
  | format value =>
    obtain ⟨-, format, -, rfl⟩ := setFormat_eq_ok.mp h
    exact ⟨hq, rfl⟩
  | file path =>
    rw [take] at h
    split at h
    · cases h
    · have hplain := plain_of_settle h
      exact ⟨pending_of_settle h, hplain⟩

theorem Settles.of_take {s : Setting} (h : p.Settles q) (htake : q.take s = .ok q') :
    q'.Settles q' := by
  obtain ⟨hpending, hplain⟩ := take_eq_ok (pending_of_settle h.settle) htake
  refine ⟨?_, settle_of_nothing hpending⟩
  rw [hplain, plain_of_settle h.settle, h.plain]

section Arguments

variable {argument rest : Bytes} {b : UInt8}

theorem readArgument_long (hp : p.plain = false) (hne : rest ≠ []) :
    p.readArgument (hyphen :: hyphen :: rest) = p.readLong rest := by
  simp [readArgument, hp, hne]

theorem readArgument_short (hp : p.plain = false) (hb : b ≠ hyphen) :
    p.readArgument (hyphen :: b :: rest) = p.readShort (b :: rest) := by
  simp [readArgument, hp, hb]

theorem readArgument_value (hp : p.plain = false)
    (h : argument = [hyphen] ∨ argument.head? ≠ some hyphen) :
    p.readArgument argument = p.readValue argument := by
  unfold readArgument
  rw [if_neg (by simp [hp])]
  split
  · rename_i a b rest
    have ha : a ≠ hyphen := by simpa using h
    rw [if_neg fun hboth => ha hboth.1, if_neg ha]
  · rfl

theorem readArgument_plain (hp : p.plain = true) :
    p.readArgument argument = p.readPlain argument := by
  unfold readArgument
  rw [if_pos hp]

theorem readLong_switch (p : Progress) (s : Switch) :
    p.readLong (Utf8.encode s.name.toList) = p.readFlag s.flag := by
  cases s <;> rfl

theorem readLong_format (p : Progress) :
    p.readLong (Utf8.encode "output-format".toList) = p.readFlag .format := rfl

theorem readLong_format_equals (p : Progress) (value : Bytes) :
    p.readLong (Utf8.encode "output-format".toList ++ equals :: value) = p.readFormat value := by
  have hname : ∀ b ∈ Utf8.encode "output-format".toList, decide (b ≠ equals) = true :=
    List.all_eq_true.mp rfl
  have hequals : ∀ b ∈ (equals :: value).head?, decide (b ≠ equals) = false := by simp
  rw [readLong, takeWhile_run hname hequals, dropWhile_run hname hequals]
  rfl

theorem readShort_letter (p : Progress) (l : Letter) (rest : Bytes) :
    p.readShort (l.byte :: rest) =
      match p.readFlag l.switch.flag with
      | .error e => .error e
      | .ok p => p.readShort rest := by
  cases l <;> rfl

theorem Settles.readShort_cluster {letters : List Letter} (h : p.Settles q)
    (htake : (letters.map fun l => Setting.switch l.switch).foldlM take q = .ok q') (rest : Bytes) :
    ∃ p' : Progress, p'.Settles q' ∧
      p.readShort (letters.map Letter.byte ++ rest) = p'.readShort rest := by
  induction letters generalizing p q with
  | nil =>
    cases htake
    exact ⟨p, h, rfl⟩
  | cons l letters ih =>
    rw [List.map_cons, List.foldlM_cons, bind_eq_ok] at htake
    obtain ⟨next, hnext, htake⟩ := htake
    obtain ⟨p', hp', hread⟩ := ih (h.of_take hnext) htake
    refine ⟨p', hp', ?_⟩
    rw [List.map_cons, List.cons_append, readShort_letter, readFlag_of_settle h.settle]
    change q.setFlag l.switch.flag = .ok next at hnext
    rw [hnext]
    exact hread

end Arguments

section Tokens

variable {value : Text} {path : Bytes}

theorem Settles.switch {s : Switch} (h : p.Settles q) (htake : q.take (.switch s) = .ok q') :
    p.readArgument (Utf8.encode ("--".toList ++ s.name.toList)) = .ok q' := by
  have hne : Utf8.encode s.name.toList ≠ [] := by cases s <;> decide
  rw [Utf8.encode_append]
  change p.readArgument (hyphen :: hyphen :: Utf8.encode s.name.toList) = _
  rw [readArgument_long h.plain hne, readLong_switch, readFlag_of_settle h.settle]
  exact htake

theorem readPlain_of_take (h : p.settle = .ok q) (htake : q.take (.file path) = .ok q') :
    ∃ p', p.readPlain path = .ok p' ∧ p'.plain = p.plain ∧ p'.settle = .ok q' := by
  rw [take] at htake
  split at htake
  · cases htake
  · rename_i hfile
    have hplain := plain_of_settle h
    refine ⟨{ q with pending := .file path }, ?_, hplain, htake⟩
    rw [readPlain, if_neg (by rwa [hasFile_of_settle h]), h]
    rfl

theorem Settles.file (hpath : path = [hyphen] ∨ path.head? ≠ some hyphen) (h : p.Settles q)
    (htake : q.take (.file path) = .ok q') :
    ∃ p', p.readArgument path = .ok p' ∧ p'.Settles q' := by
  obtain ⟨p', hread, hplain, hp'⟩ := readPlain_of_take h.settle htake
  refine ⟨p', ?_, hplain.trans h.plain, hp'⟩
  rw [readArgument_value h.plain hpath, readValue, if_neg (pending_ne_of_settle h.settle), hread]

theorem encode_cluster (letters : List Letter) (rest : Text) :
    Utf8.encode (letters.map Letter.char ++ rest) =
      letters.map Letter.byte ++ Utf8.encode rest := by
  induction letters with
  | nil => rfl
  | cons l letters ih =>
    have hascii : l.char.toNat < 0x80 := by cases l <;> decide
    rw [List.map_cons, List.cons_append, Utf8.encode_cons_of_lt hascii, ih]
    rfl

theorem Settles.cluster {letters : List Letter} (h : p.Settles q)
    (htake : (letters.map fun l => Setting.switch l.switch).foldlM take q = .ok q') (rest : Text)
    (hne : letters ≠ [] ∨ rest.head? = some 'f') :
    ∃ p' : Progress, p'.Settles q' ∧
      p.readArgument (Utf8.encode ('-' :: (letters.map Letter.char ++ rest))) =
        p'.readShort (Utf8.encode rest) := by
  obtain ⟨p', hp', hread⟩ := h.readShort_cluster htake (Utf8.encode rest)
  refine ⟨p', hp', ?_⟩
  have hascii : '-'.toNat < 0x80 := by decide
  rw [Utf8.encode_cons_of_lt hascii, encode_cluster, ← hread]
  -- The first letter is no hyphen, so that what is read is no long name.
  cases letters with
  | cons l letters =>
    have hl : l.byte ≠ hyphen := by cases l <;> decide
    exact readArgument_short h.plain hl
  | nil =>
    obtain ⟨rest, rfl⟩ := List.head?_eq_some_iff.mp (hne.resolve_left fun hnil => hnil rfl)
    have hletter : 'f'.toNat < 0x80 := by decide
    rw [Utf8.encode_cons_of_lt hletter]
    exact readArgument_short h.plain (by decide)

theorem Settles.separate (hvalue : value = ['-'] ∨ value.head? ≠ some '-') (h : p.Settles q)
    (htake : q.take (.format value) = .ok q') :
    ∃ next p', p.readFlag .format = .ok next ∧
      next.readArgument (Utf8.encode value) = .ok p' ∧ p'.Settles q' := by
  have hpending := pending_of_settle h.settle
  have hplain := (plain_of_settle h.settle).trans h.plain
  have hbytes : Utf8.encode value = [hyphen] ∨ (Utf8.encode value).head? ≠ some hyphen := by
    rcases hvalue with rfl | hhead
    · exact .inl rfl
    · exact .inr (mt (Utf8.head?_encode (c := '-') (by decide)) hhead)
  refine ⟨{ q with pending := .format none },
    { q with pending := .format (some (Utf8.encode value)) }, ?_, ?_, hplain, ?_⟩
  · exact readFlag_of_settle h.settle .format
  · have hread := readArgument_value (p := { q with pending := .format none }) hplain hbytes
    rw [hread, readValue, if_pos rfl]
  · change ({ q with pending := .nothing } : Progress).setFormat (Utf8.encode value) = _
    rw [← hpending]
    exact htake

theorem Settles.joined (h : p.Settles q) (htake : q.take (.format value) = .ok q') :
    p.readFormat (Utf8.encode value) = .ok q' := by
  rw [readFormat_of_settle h.settle]
  exact htake

theorem readShort_format_equals (p : Progress) (value : Text) :
    p.readShort (Utf8.encode ('f' :: '=' :: value)) = p.readFormat (Utf8.encode value) := by
  have hletter : 'f'.toNat < 0x80 := by decide
  have hequals : '='.toNat < 0x80 := by decide
  rw [Utf8.encode_cons_of_lt hletter, Utf8.encode_cons_of_lt hequals]
  rfl

theorem readShort_format_joined (p : Progress) (hne : value ≠ []) (hhead : value.head? ≠ some '=') :
    p.readShort (Utf8.encode ('f' :: value)) = p.readFormat (Utf8.encode value) := by
  have hletter : 'f'.toNat < 0x80 := by decide
  have hequals := mt (Utf8.head?_encode (c := '=') (by decide)) hhead
  obtain ⟨b, bs, hvalue⟩ := List.exists_cons_of_ne_nil (mt Utf8.encode_eq_nil.mp hne)
  rw [Utf8.encode_cons_of_lt hletter, hvalue]
  have hb : b ≠ equals := by
    rintro rfl
    exact hequals (by rw [hvalue]; rfl)
  change p.readFormat (if b = equals then bs else b :: bs) = _
  rw [if_neg hb]

theorem Settles.format {place : FormatPlace} (hplace : place.Allows value) (h : p.Settles q)
    (htake : (Token.format place value).settings.foldlM take q = .ok q') :
    ∃ p', (Token.format place value).arguments.foldlM readArgument p = .ok p' ∧ p'.Settles q' := by
  rw [Token.settings, List.foldlM_append, bind_eq_ok] at htake
  obtain ⟨next, hcluster, htake⟩ := htake
  rw [foldlM_singleton] at htake
  cases place with
  | long =>
    cases hcluster
    obtain ⟨p₁, p₂, hflag, hread, hp₂⟩ := h.separate hplace htake
    have hlong : p.readArgument (Utf8.encode "--output-format".toList) = .ok p₁ := by
      rw [← hflag, ← readLong_format]
      exact readArgument_long h.plain (by decide)
    exact ⟨p₂, bind_eq_ok.mpr ⟨p₁, hlong, bind_eq_ok.mpr ⟨p₂, hread, rfl⟩⟩, hp₂⟩
  | longEquals =>
    cases hcluster
    have hlong : p.readArgument (Utf8.encode ("--output-format=".toList ++ value)) = .ok q' := by
      rw [← h.joined htake, ← readLong_format_equals, Utf8.encode_append]
      exact readArgument_long h.plain (by simp)
    exact ⟨q', (foldlM_singleton ..).trans hlong, h.of_take htake⟩
  | letter cluster =>
    obtain ⟨p₀, hp₀, hread₀⟩ := h.cluster hcluster ['f'] (.inr rfl)
    obtain ⟨p₁, p₂, hflag, hread, hp₂⟩ := hp₀.separate hplace htake
    have hletter := hread₀.trans hflag
    exact ⟨p₂, bind_eq_ok.mpr ⟨p₁, hletter, bind_eq_ok.mpr ⟨p₂, hread, rfl⟩⟩, hp₂⟩
  | letterEquals cluster =>
    obtain ⟨p₀, hp₀, hread₀⟩ := h.cluster hcluster ('f' :: '=' :: value) (.inr rfl)
    rw [readShort_format_equals, hp₀.joined htake] at hread₀
    exact ⟨q', (foldlM_singleton ..).trans hread₀, hp₀.of_take htake⟩
  | letterJoined cluster =>
    obtain ⟨p₀, hp₀, hread₀⟩ := h.cluster hcluster ('f' :: value) (.inr rfl)
    rw [readShort_format_joined p₀ hplace.1 hplace.2, hp₀.joined htake] at hread₀
    exact ⟨q', (foldlM_singleton ..).trans hread₀, hp₀.of_take htake⟩

/-- One token is read at a time, and puts its settings in effect. -/
theorem Settles.token {token : Token} (hw : token.WellFormed) (h : p.Settles q)
    (htake : token.settings.foldlM take q = .ok q') :
    ∃ p', token.arguments.foldlM readArgument p = .ok p' ∧ p'.Settles q' := by
  cases token with
  | switch s =>
    rw [Token.settings, foldlM_singleton] at htake
    refine ⟨q', ?_, h.of_take htake⟩
    rw [Token.arguments, foldlM_singleton]
    exact h.switch htake
  | cluster letters =>
    obtain ⟨p', hp', hread⟩ := h.cluster htake [] (.inl hw)
    refine ⟨p', ?_, hp'⟩
    rw [Token.arguments, foldlM_singleton]
    rwa [List.append_nil] at hread
  | format place value => exact h.format hw htake
  | file path =>
    rw [Token.settings, foldlM_singleton] at htake
    rw [Token.arguments, foldlM_singleton]
    exact h.file hw htake

theorem Settles.tokens {tokens : List Token} (hw : ∀ token ∈ tokens, token.WellFormed)
    (h : p.Settles q) (htake : (tokens.flatMap Token.settings).foldlM take q = .ok q') :
    ∃ p', (tokens.flatMap Token.arguments).foldlM readArgument p = .ok p' ∧ p'.Settles q' := by
  induction tokens generalizing p q with
  | nil =>
    cases htake
    exact ⟨p, rfl, h⟩
  | cons token tokens ih =>
    obtain ⟨htoken, htokens⟩ := List.forall_mem_cons.mp hw
    rw [List.flatMap_cons, List.foldlM_append, bind_eq_ok] at htake
    obtain ⟨next, hnext, htake⟩ := htake
    obtain ⟨p₁, hread₁, hp₁⟩ := h.token htoken hnext
    obtain ⟨p₂, hread₂, hp₂⟩ := ih htokens hp₁ htake
    refine ⟨p₂, ?_, hp₂⟩
    rw [List.flatMap_cons, List.foldlM_append, bind_eq_ok]
    exact ⟨p₁, hread₁, hread₂⟩

end Tokens

end Progress
end SyscallNames.CommandLine
