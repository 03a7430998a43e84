import SyscallNames.Proofs.CommandLine.Validity

set_option autoImplicit false

namespace SyscallNames.CommandLine

def asked (o : Options) : Switch → Nat
  | .verbose => o.verbose
  | .json => o.json.toNat
  | .pretty => o.pretty.toNat
  | .count => o.count.toNat

theorem asked_le {o : Options} {s : Switch} (hs : s ≠ .verbose) : asked o s ≤ 1 := by
  cases s with
  | verbose => exact absurd rfl hs
  | json | pretty | count => exact Bool.toNat_le _

namespace Progress

variable {p q : Progress} {o : Options} {settings : List Setting} {path : Bytes}

def counted (q : Progress) : Switch → Nat
  | .verbose => q.verbose
  | .json => q.json.toNat
  | .pretty => q.pretty.toNat
  | .count => q.count.toNat

theorem exists_setFlag {s : Switch} (hs : s ≠ .verbose) (h : q.counted s = 0) :
    ∃ q', q.setFlag s.flag = .ok q' ∧ q'.counted s = 1 ∧ (∀ t, t ≠ s → q'.counted t = q.counted t) ∧
      q'.pending = q.pending ∧ q'.format = q.format ∧ q'.file = q.file := by
  cases s with
  | verbose => exact absurd rfl hs
  | json | pretty | count =>
    simp only [counted, Bool.toNat_eq_zero] at h
    refine ⟨_, if_neg (by simp [h]), rfl, fun t ht => ?_, rfl, rfl, rfl⟩
    cases t <;> first | rfl | exact absurd rfl ht

/-- Behind this progress, the settings still to come make these options. -/
structure Awaits (q : Progress) (settings : List Setting) (o : Options) : Prop where
  pending : q.pending = .nothing
  verbose_le : q.verbose ≤ maxVerbose
  verbose : o.verbose = min (q.verbose + settings.count (.switch .verbose)) maxVerbose
  once : ∀ s, s ≠ .verbose → q.counted s + settings.count (.switch s) = asked o s
  format : q.format.toList ++ settings.filterMap Setting.format? = [o.format] ∨
    (q.format.toList ++ settings.filterMap Setting.format? = [] ∧ o.format = ['{', '}'])
  file : q.file.toList ++ settings.filterMap Setting.file? = o.file.toList

theorem awaits_of_yields (h : Yields settings o) : ({} : Progress).Awaits settings o where
  pending := rfl
  verbose_le := Nat.zero_le _
  verbose := by
    rw [Nat.zero_add]
    exact h.verbose
  once s hs := by
    have hcount : settings.count (.switch s) = asked o s := by
      cases s with
      | verbose => exact absurd rfl hs
      | json => exact h.json
      | pretty => exact h.pretty
      | count => exact h.count
    have hnone : ({} : Progress).counted s = 0 := by cases s <;> rfl
    rw [hnone, Nat.zero_add, hcount]
  format := h.format
  file := h.file

theorem count_cons_of_ne {s t : Switch} (h : t ≠ s) :
    (Setting.switch s :: settings).count (.switch t) = settings.count (.switch t) :=
  List.count_cons_of_ne (by simpa [eq_comm] using h)

theorem Awaits.take_switch {s : Switch} (h : q.Awaits (.switch s :: settings) o) :
    ∃ q', q.take (.switch s) = .ok q' ∧ q'.Awaits settings o := by
  -- Only the verbose flag may come again, and counts up to its limit.
  by_cases hs : s = .verbose
  · subst hs
    refine ⟨_, rfl, h.pending, Nat.min_le_right _ _, ?_, fun t ht => ?_, h.format, h.file⟩
    · have hverbose := h.verbose
      rw [List.count_cons_self] at hverbose
      rw [hverbose]
      dsimp only
      omega
    · rw [← h.once t ht, count_cons_of_ne ht]
      cases t <;> first | rfl | exact absurd rfl ht
  · have honce := h.once s hs
    have hle := asked_le (o := o) hs
    rw [List.count_cons_self] at honce
    obtain ⟨q', hq', hset, hother, hpending, hformat, hfile⟩ :=
      exists_setFlag (q := q) hs (by omega)
    have hverbose : q'.verbose = q.verbose := hother .verbose (Ne.symm hs)
    refine ⟨q', hq', hpending.trans h.pending, ?_, ?_, fun t ht => ?_, ?_, ?_⟩
    · rw [hverbose]
      exact h.verbose_le
    · rw [hverbose, h.verbose, count_cons_of_ne (Ne.symm hs)]
    · by_cases hts : t = s
      · subst hts
        omega
      · rw [hother t hts, ← h.once t ht, count_cons_of_ne hts]
    · rw [hformat]
      exact h.format
    · rw [hfile]
      exact h.file

@[simp]
theorem count_cons_format (value : Text) (s : Switch) :
    (Setting.format value :: settings).count (.switch s) = settings.count (.switch s) :=
  List.count_cons_of_ne (by simp)

@[simp]
theorem count_cons_file (path : Bytes) (s : Switch) :
    (Setting.file path :: settings).count (.switch s) = settings.count (.switch s) :=
  List.count_cons_of_ne (by simp)

theorem Awaits.take_format {value : Text} (h : q.Awaits (.format value :: settings) o) :
    ∃ q', q.take (.format value) = .ok q' ∧ q'.Awaits settings o := by
  have hformat : q.format.toList ++ value :: settings.filterMap Setting.format? = [o.format] ∨
      (q.format.toList ++ value :: settings.filterMap Setting.format? = [] ∧
        o.format = ['{', '}']) := h.format
  have hset : q.format = none := by
    cases hq : q.format with
    | none => rfl
    | some format => simp [hq] at hformat
  refine ⟨{ q with format := some value },
    setFormat_eq_ok.mpr ⟨hset, value, Utf8.decode?_encode value, rfl⟩, h.pending, h.verbose_le, ?_,
    fun s hs => ?_, ?_, h.file⟩
  · rw [h.verbose, count_cons_format]
  · rw [← h.once s hs, count_cons_format]
    cases s <;> rfl
  · rwa [hset] at hformat

theorem Awaits.take_file (hne : o.file ≠ some []) (h : q.Awaits (.file path :: settings) o) :
    ∃ q', q.take (.file path) = .ok q' ∧ q'.Awaits settings o := by
  have hfile : q.file.toList ++ path :: settings.filterMap Setting.file? = o.file.toList := h.file
  cases ho : o.file with
  | none => simp [ho] at hfile
  | some found =>
    rw [ho] at hfile hne
    have hset : q.file = none := by
      cases hq : q.file with
      | none => rfl
      | some file => simp [hq] at hfile
    rw [hset] at hfile
    obtain ⟨rfl, hnil⟩ := List.cons_eq_cons.mp hfile
    have hpath : path ≠ [] := fun hp => hne (by rw [hp])
    refine ⟨{ q with pending := .nothing, file := some path }, ?_, rfl, h.verbose_le, ?_,
      fun s hs => ?_, h.format, ?_⟩
    · simp [take, hset, settle, hpath]
    · rw [h.verbose, count_cons_file]
    · rw [← h.once s hs, count_cons_file]
      cases s <;> rfl
    · rw [ho, hnil]
      rfl

theorem Awaits.foldlM {later : List Setting} (hne : o.file ≠ some [])
    (h : q.Awaits (settings ++ later) o) :
    ∃ q', settings.foldlM take q = .ok q' ∧ q'.Awaits later o := by
  induction settings generalizing q with
  | nil => exact ⟨q, rfl, h⟩
  | cons s settings ih =>
    obtain ⟨next, hnext, hawaits⟩ : ∃ next, q.take s = .ok next ∧
        next.Awaits (settings ++ later) o := by
      cases s with
      | switch s => exact h.take_switch
      | format value => exact h.take_format
      | file path => exact h.take_file hne
    obtain ⟨q', hq', hlater⟩ := ih hawaits
    exact ⟨q', bind_eq_ok.mpr ⟨next, hnext, hq'⟩, hlater⟩

theorem Awaits.finish (hvalid : ¬ (o.json ∧ o.count)) (h : q.Awaits [] o)
    (hsettle : p.settle = .ok q) : p.finish = .ok o := by
  have hverbose : q.verbose = o.verbose := by
    have hle := h.verbose_le
    rw [h.verbose, List.count_nil]
    omega
  have hbool : ∀ b c : Bool, b.toNat = c.toNat → b = c := by decide
  have hjson : q.json = o.json := hbool _ _ (h.once .json (by decide))
  have hpretty : q.pretty = o.pretty := hbool _ _ (h.once .pretty (by decide))
  have hcount : q.count = o.count := hbool _ _ (h.once .count (by decide))
  have hfile : q.file = o.file := by simpa using congrArg List.head? h.file
  have hformat : q.format.getD ['{', '}'] = o.format := by
    have hf := h.format
    cases hq : q.format with
    | none => simpa [hq, eq_comm] using hf
    | some format => simpa [hq] using hf
  rw [Progress.finish, hsettle]
  change (if q.json && q.count then _ else _) = _
  rw [if_neg (by simpa [hjson, hcount] using hvalid), hverbose, hjson, hpretty, hcount, hfile,
    hformat]
  rfl

theorem settle_plain (h : p.settle = .ok q) :
    ({ p with plain := true } : Progress).settle = .ok { q with plain := true } := by
  rw [settle] at h ⊢
  split at h
  · rename_i hp
    cases h
    simp [hp]
  · cases h
  · rename_i value hp
    obtain ⟨hnone, format, hvalue, rfl⟩ := setFormat_eq_ok.mp h
    simp only [hp]
    exact setFormat_eq_ok.mpr ⟨hnone, format, hvalue, rfl⟩
  · rename_i path hp
    split at h
    · cases h
    · rename_i hne
      cases h
      simp [hp, hne]

theorem Settles.last (hne : o.file ≠ some []) (h : p.Settles q) (ho : q.Awaits [.file path] o) :
    ∃ p' q', [Utf8.encode "--".toList, path].foldlM readArgument p = .ok p' ∧
      p'.settle = .ok q' ∧ q'.Awaits [] o := by
  have hopen : p.readArgument (Utf8.encode "--".toList) = .ok { p with plain := true } := by
    change p.readArgument [hyphen, hyphen] = _
    simp [readArgument, h.plain]
  -- The awaited settings do not depend on whether flags have ended.
  have hplain : ({ q with plain := true } : Progress).Awaits [.file path] o :=
    ⟨ho.pending, ho.verbose_le, ho.verbose, fun s hs => by rw [← ho.once s hs]; cases s <;> rfl,
      ho.format, ho.file⟩
  obtain ⟨q', htake, hq'⟩ := hplain.take_file hne
  obtain ⟨p', hread, -, hp'⟩ := readPlain_of_take (settle_plain h.settle) htake
  have hlast := (readArgument_plain (p := { p with plain := true }) rfl).trans hread
  exact ⟨p', q', bind_eq_ok.mpr ⟨_, hopen, bind_eq_ok.mpr ⟨p', hlast, rfl⟩⟩, hp', hq'⟩

end Progress

section Spellings

variable {arguments : List Bytes} {o : Options}

theorem Form.parse_arguments {form : Form} (hw : form.WellFormed) (hvalid : o.Valid)
    (h : Yields form.settings o) : parse form.arguments = .ok o := by
  have hnothing : ({} : Progress).Settles {} := ⟨rfl, rfl⟩
  obtain ⟨q, htake, hq⟩ := (Progress.awaits_of_yields h).foldlM hvalid.file_ne_nil
  obtain ⟨p, hread, hp⟩ := hnothing.tokens hw htake
  rw [parse, bind_eq_ok, arguments]
  cases hlast : form.last with
  | none =>
    rw [hlast] at hq
    refine ⟨p, ?_, hq.finish hvalid.json_or_count hp.settle⟩
    rw [Option.elim_none, List.append_nil, hread]
  | some path =>
    rw [hlast] at hq
    obtain ⟨p', q', hread', hp', hq'⟩ := hp.last hvalid.file_ne_nil hq
    refine ⟨p', ?_, hq'.finish hvalid.json_or_count hp'⟩
    rw [Option.elim_some, List.foldlM_append, bind_eq_ok]
    exact ⟨p, hread, hread'⟩

def Form.ofOptions (o : Options) : Form where
  tokens := ([.verbose, .json, .pretty, .count] : List Switch).flatMap
      (fun s => List.replicate (asked o s) (.switch s)) ++ [.format .longEquals o.format]
  last := o.file

def switches (o : Options) : List Setting :=
  ([.verbose, .json, .pretty, .count] : List Switch).flatMap
    fun s => List.replicate (asked o s) (.switch s)

theorem count_switches (o : Options) (s : Switch) : (switches o).count (.switch s) = asked o s := by
  cases s <;> simp [switches, List.count_replicate]

theorem filterMap_switches {α : Type} {f : Setting → Option α} (h : ∀ s, f (.switch s) = none)
    (o : Options) : (switches o).filterMap f = [] := by
  refine List.filterMap_eq_nil_iff.mpr fun setting hsetting => ?_
  obtain ⟨s, -, hs⟩ := List.mem_flatMap.mp hsetting
  rw [List.eq_of_mem_replicate hs, h]

theorem Form.settings_ofOptions (o : Options) :
    (ofOptions o).settings = switches o ++ .format o.format :: o.file.toList.map .file := by
  have hswitch : ∀ n s, (List.replicate n (Token.switch s)).flatMap Token.settings =
      List.replicate n (.switch s) := by
    intro n s
    rw [List.flatMap_replicate]
    exact List.flatten_replicate_singleton
  simp [settings, ofOptions, switches, Token.settings, hswitch, FormatPlace.cluster]

theorem yields_ofOptions (h : o.Valid) : Yields (Form.ofOptions o).settings o := by
  have hcount : ∀ s, (Form.ofOptions o).settings.count (.switch s) = asked o s := by
    intro s
    rw [Form.settings_ofOptions, List.count_append, count_switches]
    cases o.file <;> simp
  have hverbose := h.verbose_le
  refine ⟨?_, hcount .json, hcount .pretty, hcount .count, .inl ?_, ?_⟩
  · rw [hcount, asked]
    omega
  · rw [Form.settings_ofOptions, List.filterMap_append, filterMap_switches fun _ => rfl]
    cases o.file <;> rfl
  · rw [Form.settings_ofOptions, List.filterMap_append, filterMap_switches fun _ => rfl]
    cases o.file <;> rfl

theorem exists_spells (h : o.Valid) : ∃ arguments, Spells arguments o := by
  refine ⟨_, Form.ofOptions o, ?_, rfl, yields_ofOptions h⟩
  intro token htoken
  obtain hswitch | hformat := List.mem_append.mp htoken
  · obtain ⟨s, -, hs⟩ := List.mem_flatMap.mp hswitch
    rw [List.eq_of_mem_replicate hs]
    trivial
  · rw [List.mem_singleton.mp hformat]
    trivial

/-- Valid options are those that a command line can give. Each has a spelling, and is read from
every one of its spellings: whichever form each setting has and in whatever order they stand, no
value is taken for an option and no option for a value. -/
theorem parse_of_spells :
    (∀ o : Options, o.Valid → ∀ arguments, Spells arguments o → parse arguments = .ok o) ∧
    (∀ o : Options, o.Valid → ∃ arguments, Spells arguments o) ∧
    ∀ arguments o, parse arguments = .ok o → o.Valid := by
  refine ⟨?_, fun o => exists_spells, fun arguments o => valid_of_parse⟩
  rintro o hvalid arguments ⟨form, hw, rfl, hform⟩
  exact form.parse_arguments hw hvalid hform

/-- The verbose flag in a cluster of other letters and again, a format that starts like an option
joined to the cluster, and a file that is written like a flag. -/
theorem parse_of_spells_cluster :
    let o : Options := {
      verbose := 3
      file := some (Utf8.encode "--json".toList)
      format := "-f\u00e9\x7b\x7d".toList
      pretty := true
      count := true }
    let arguments := ["--pretty", "-vcvf=-f\u00e9\x7b\x7d", "-v", "--", "--json"].map
      fun argument => Utf8.encode argument.toList
    o.Valid ∧ Spells arguments o ∧ parse arguments = .ok o := by
  intro o arguments
  have hvalid : o.Valid := ⟨by decide, by decide, by decide⟩
  have hspells : Spells arguments o := by
    refine ⟨{
      tokens := [.switch .pretty, .format (.letterEquals [.verbose, .count, .verbose]) o.format,
        .cluster [.verbose]]
      last := o.file }, ?_, rfl, ⟨by decide, by decide, by decide, by decide, .inl rfl, rfl⟩⟩
    intro token htoken
    simp only [List.mem_cons, List.not_mem_nil, or_false] at htoken
    obtain rfl | rfl | rfl := htoken
    · trivial
    · exact List.cons_ne_nil _ _
    · exact List.cons_ne_nil _ _
  exact ⟨hvalid, hspells, parse_of_spells.1 o hvalid arguments hspells⟩

end Spellings
end SyscallNames.CommandLine
