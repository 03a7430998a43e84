import SyscallNames.Proofs.CommandLine.Token

set_option autoImplicit false

namespace SyscallNames.CommandLine

namespace Progress

structure Sound (p : Progress) : Prop where
  verbose_le : p.verbose ≤ maxVerbose
  file_ne_nil : p.file ≠ some []

variable {p q : Progress} {argument : Bytes}

theorem Sound.settle (hp : p.Sound) (h : p.settle = .ok q) : q.Sound := by
  obtain ⟨-, rfl⟩ | ⟨value, format, -, rfl⟩ | ⟨path, -, hne, rfl⟩ := settle_eq_ok h
  · exact hp
  · exact ⟨hp.verbose_le, hp.file_ne_nil⟩
  · exact ⟨hp.verbose_le, by simpa using hne⟩

theorem Sound.setFlag {flag : Flag} (hp : p.Sound) (h : p.setFlag flag = .ok q) : q.Sound := by
  cases flag with
  | verbose =>
    cases h
    exact ⟨Nat.min_le_right _ _, hp.file_ne_nil⟩
  | format =>
    cases h
    exact ⟨hp.verbose_le, hp.file_ne_nil⟩
  | json | pretty | count =>
    rw [Progress.setFlag] at h
    split at h
    · cases h
    · cases h
      exact ⟨hp.verbose_le, hp.file_ne_nil⟩
  | help long => cases h
  | version => cases h

theorem Sound.readFlag {flag : Flag} (hp : p.Sound) (h : p.readFlag flag = .ok q) : q.Sound := by
  obtain ⟨next, hnext, h⟩ := bind_eq_ok.mp h
  exact (hp.settle hnext).setFlag h

theorem Sound.readFormat (hp : p.Sound) (h : p.readFormat argument = .ok q) : q.Sound := by
  obtain ⟨next, hnext, h⟩ := bind_eq_ok.mp h
  obtain ⟨-, format, -, rfl⟩ := setFormat_eq_ok.mp h
  exact ⟨(hp.settle hnext).verbose_le, (hp.settle hnext).file_ne_nil⟩

theorem Sound.readLong (hp : p.Sound) (h : p.readLong argument = .ok q) : q.Sound := by
  unfold Progress.readLong at h
  split at h
  · cases h
  · exact hp.readFlag h
  · exact hp.readFormat h
  · cases h

theorem Sound.readShort (hp : p.Sound) (h : p.readShort argument = .ok q) : q.Sound := by
  induction argument generalizing p with
  | nil =>
    cases h
    exact hp
  | cons letter rest ih =>
    unfold Progress.readShort at h
    split at h
    · cases h
    · split at h
      · exact hp.readFlag h
      · exact hp.readFormat h
    · split at h
      · cases h
      · rename_i next hnext
        exact ih (hp.readFlag hnext) h

theorem Sound.readPlain (hp : p.Sound) (h : p.readPlain argument = .ok q) : q.Sound := by
  rw [Progress.readPlain] at h
  split at h
  · cases h
  · obtain ⟨next, hnext, h⟩ := bind_eq_ok.mp h
    cases h
    exact ⟨(hp.settle hnext).verbose_le, (hp.settle hnext).file_ne_nil⟩

theorem Sound.readValue (hp : p.Sound) (h : p.readValue argument = .ok q) : q.Sound := by
  rw [Progress.readValue] at h
  split at h
  · cases h
    exact ⟨hp.verbose_le, hp.file_ne_nil⟩
  · exact hp.readPlain h

theorem Sound.readArgument (hp : p.Sound) (h : p.readArgument argument = .ok q) : q.Sound := by
  unfold Progress.readArgument at h
  split at h
  · exact hp.readPlain h
  split at h
  · split at h
    · split at h
      · cases h
        exact ⟨hp.verbose_le, hp.file_ne_nil⟩
      · exact hp.readLong h
    · split at h
      · exact hp.readShort h
      · exact hp.readValue h
  · exact hp.readValue h

theorem Sound.finish {o : Options} (hp : p.Sound) (h : p.finish = .ok o) : o.Valid := by
  obtain ⟨q, hq, h⟩ := bind_eq_ok.mp h
  have hsound := hp.settle hq
  split at h
  · cases h
  · rename_i hboth
    cases h
    exact ⟨hsound.verbose_le, hsound.file_ne_nil, by simpa using hboth⟩

end Progress

theorem valid_of_parse {arguments : List Bytes} {o : Options} (h : parse arguments = .ok o) :
    o.Valid := by
  obtain ⟨p, hp, hfinish⟩ := bind_eq_ok.mp h
  have hempty : ({} : Progress).Sound := ⟨Nat.zero_le _, by simp⟩
  exact (foldlM_preserves (fun _ _ _ hp h => hp.readArgument h) hempty hp).finish hfinish

end SyscallNames.CommandLine
