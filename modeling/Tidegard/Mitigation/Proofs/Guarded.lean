import Tidegard.Mitigation.Guard

namespace Tidegard.Mitigation.Proofs.Guarded

open Common Mitigation.Prefix Mitigation.Action Mitigation.Guard

section Configured

variable {config : GuardConfig} {g : Guard}

theorem config_new (h : Guard.new config = .ok g) : g.config = config := by
  unfold Guard.new at h
  split at h
  · cases h
  · split at h
    · cases h
    · split at h
      · cases h
      · cases h
        rfl

structure WithinLimits (config : GuardConfig) : Prop where
  ipv4 : ipv4Floor ≤ config.minLength.ipv4
  ipv6 : ipv6Floor ≤ config.minLength.ipv6
  duration : fromSecs config.maxDurationSeconds ≤ maxDuration

theorem withinLimits_of_check (h : checkLimits config = .ok ()) : WithinLimits config := by
  unfold checkLimits at h
  dsimp only at h
  split_ifs at h with h4 h6 hduration hwindow
  push Not at hduration
  exact ⟨h4.1, h6.1, hduration.2⟩

theorem checkOverlaps_ok : checkOverlaps allowlist = .ok () ↔
    allowlist.Pairwise fun a b => a.clashes b = false := by
  induction allowlist with
  | nil => simp [checkOverlaps]
  | cons a rest ih =>
    unfold checkOverlaps
    rw [List.pairwise_cons, ← ih]
    split
    · rename_i b hfound
      have hclash := List.find?_some hfound
      refine ⟨fun h => (by cases h), fun h => ?_⟩
      rw [h.1 b (List.mem_of_find?_eq_some hfound)] at hclash
      cases hclash
    · rename_i hnone
      refine (and_iff_right fun b hb => ?_).symm
      simpa using List.find?_eq_none.mp hnone b hb

theorem clashes_comm (a b : AllowlistEntry) : a.clashes b = b.clashes a := by
  unfold AllowlistEntry.clashes
  rw [Bool.or_comm, bne_comm]

theorem not_clashes_self (a : AllowlistEntry) : a.clashes a = false := by
  simp [AllowlistEntry.clashes]

theorem tenant_eq_of_shared (g : Guard) (ha : a ∈ g.config.allowlist)
    (hb : b ∈ g.config.allowlist) (hashared : a.target.Holds address)
    (hbshared : b.target.Holds address) : a.tenant = b.tenant := by
  have symmetric : Std.Symm fun a b : AllowlistEntry => a.clashes b = false :=
    ⟨fun x y hxy => (clashes_comm y x).trans hxy⟩
  have hclash : a.clashes b = false :=
    List.Pairwise.forall_of_forall (fun x _ => not_clashes_self x)
      (checkOverlaps_ok.mp g.overlaps) ha hb
  unfold AllowlistEntry.clashes at hclash
  rcases contains_or_of_shared hashared hbshared with hc | hc <;> simpa [hc] using hclash

end Configured

theorem longer_mem (a b : AllowlistEntry) : longer a b = a ∨ longer a b = b := by
  unfold longer
  split
  · exact Or.inr rfl
  · exact Or.inl rfl

theorem foldl_longer_mem (rest : List AllowlistEntry) (first : AllowlistEntry) :
    rest.foldl longer first ∈ first :: rest := by
  induction rest generalizing first with
  | nil => simp
  | cons next rest ih =>
    rw [List.foldl_cons]
    rcases List.mem_cons.mp (ih (longer first next)) with h | h
    · rw [h]
      rcases longer_mem first next with hl | hl <;> simp [hl]
    · simp [h]

theorem mostSpecific_mem (h : mostSpecific entries = some entry) : entry ∈ entries := by
  cases entries with
  | nil => cases h
  | cons first rest =>
    cases h
    exact foldl_longer_mem rest first

section Checked

variable {g : Guard} {tenant : String} {target : Prefix} {action : Action} {duration : Nat}
variable {killSwitch : Bool} {entry : AllowlistEntry}

theorem entryFor_some (h : g.entryFor tenant target = some entry) :
    entry ∈ g.config.allowlist ∧ entry.tenant = tenant ∧ entry.target.contains target = true := by
  unfold Guard.entryFor at h
  obtain ⟨hmost, htenant⟩ := Option.filter_eq_some_iff.mp h
  obtain ⟨hmem, hcontains⟩ := List.mem_filter.mp (mostSpecific_mem hmost)
  exact ⟨hmem, by simpa using htenant, hcontains⟩

/-- What an accepted mitigation was found to satisfy. -/
structure Accepted (g : Guard) (tenant : String) (target : Prefix) (action : Action)
    (duration : Nat) (killSwitch : Bool) (entry : AllowlistEntry) : Prop where
  switchedOff : killSwitch = false ∧ g.config.killSwitch = false
  decides : g.entryFor tenant target = some entry
  permitted : action.kind ∈ entry.actions
  long : target.isHost = false → g.minLengthFor target ≤ target.length
  short : duration / 1000000000 ≤ g.config.maxDurationSeconds

theorem accepted_of_check (h : g.check tenant target action duration killSwitch = .ok ()) :
    ∃ entry, Accepted g tenant target action duration killSwitch entry := by
  unfold Guard.check at h
  split at h
  · cases h
  · rename_i hswitch
    split at h
    · cases h
    · rename_i entry hentry
      split at h
      · cases h
      · rename_i hkind
        split at h
        · cases h
        · rename_i hlong
          split at h
          · cases h
          · split at h
            · cases h
            · rename_i hshort
              refine ⟨entry, by simpa using hswitch, hentry, by simpa using hkind, ?_,
                Nat.not_lt.mp hshort⟩
              intro hhost
              simpa [hhost] using hlong

end Checked

/-- Whatever a checked configuration accepts is switched on, owned by its tenant alone, permitted,
narrow and short enough. -/
theorem check_accepts (config : GuardConfig) (g : Guard) (hnew : Guard.new config = .ok g)
    (tenant : String) (target : Prefix) (action : Action) (duration : Nat) (killSwitch : Bool)
    (h : g.check tenant target action duration killSwitch = .ok ()) :
    (killSwitch = false ∧ config.killSwitch = false) ∧
    (∃ entry ∈ config.allowlist, entry.tenant = tenant ∧ entry.target.contains target = true ∧
      action.kind ∈ entry.actions) ∧
    (∀ entry ∈ config.allowlist, entry.tenant ≠ tenant →
      ¬ ∃ address, entry.target.Holds address ∧ target.Holds address) ∧
    (target.isHost = false →
      (target.isIpv4 = true → config.minLength.ipv4 ≤ target.length ∧ 16 ≤ target.length) ∧
      (target.isIpv4 = false → config.minLength.ipv6 ≤ target.length ∧ 32 ≤ target.length)) ∧
    (duration / 1000000000 ≤ config.maxDurationSeconds ∧
      fromSecs (duration / 1000000000) ≤ maxDuration) ∧
    (∀ p q : Prefix, p.contains q = true ↔ ∀ address, q.Holds address → p.Holds address) := by
  have hconfig := config_new hnew
  obtain ⟨entry, accepted⟩ := accepted_of_check h
  obtain ⟨hmem, htenant, hcontains⟩ := entryFor_some accepted.decides
  have limits := withinLimits_of_check g.limits
  subst hconfig
  refine ⟨accepted.switchedOff, ⟨entry, hmem, htenant, hcontains, accepted.permitted⟩, ?_, ?_, ?_,
    fun p q => contains_iff⟩
  · rintro other hother hforeign ⟨address, hholds, htarget⟩
    -- the deciding entry holds the shared address as well
    have hentry := contains_iff.mp hcontains address htarget
    exact hforeign ((tenant_eq_of_shared g hother hmem hholds hentry).trans htenant)
  · intro hhost
    have hlong := accepted.long hhost
    unfold Guard.minLengthFor at hlong
    constructor
    · intro h4
      rw [if_pos h4] at hlong
      exact ⟨hlong, limits.ipv4.trans hlong⟩
    · intro h6
      rw [if_neg (by simp [h6])] at hlong
      exact ⟨hlong, limits.ipv6.trans hlong⟩
  · refine ⟨accepted.short, le_trans ?_ limits.duration⟩
    exact Nat.mul_le_mul_right _ accepted.short

def sampleHost : Prefix := ⟨.v4 0xC0000201#32, 32, by decide, by decide⟩

def sampleNetwork : Prefix := ⟨.v4 0xC0000200#32, 24, by decide, by decide⟩

def sampleConfig : GuardConfig where
  allowlist := [{ target := sampleNetwork, tenant := "acme", actions := [.rtbh] }]

theorem check_accepts_sampleHost :
    ∃ g, Guard.new sampleConfig = .ok g ∧ g.check "acme" sampleHost .rtbh (fromSecs 60) false =
        .ok () ∧
      ∃ entry ∈ sampleConfig.allowlist, entry.tenant = "acme" ∧
        entry.target.contains sampleHost = true ∧ Action.rtbh.kind ∈ entry.actions :=
  ⟨⟨sampleConfig, by decide, by decide, by decide⟩, by decide, by decide,
    (check_accepts sampleConfig ⟨sampleConfig, by decide, by decide, by decide⟩ (by decide) "acme"
      sampleHost .rtbh (fromSecs 60) false (by decide)).2.1⟩

end Tidegard.Mitigation.Proofs.Guarded
