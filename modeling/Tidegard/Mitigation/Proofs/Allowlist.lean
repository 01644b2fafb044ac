import Tidegard.Mitigation.Proofs.Guarded

namespace Tidegard.Mitigation.Proofs.Allowlist

open Common Mitigation.Prefix Mitigation.Action Mitigation.Guard Guarded

variable {config : GuardConfig} {g g' : Guard} {tenant : String} {target : Prefix}
variable {entries : List AllowlistEntry} {a b entry : AllowlistEntry}

theorem checkEntries_ok : checkEntries entries = .ok () ↔
    ∀ entry ∈ entries, ¬ entry.target.length < floor entry.target ∧
      ¬ (Text.isBlank entry.tenant || entry.actions.isEmpty) = true := by
  induction entries with
  | nil => simp [checkEntries]
  | cons entry rest ih =>
    unfold checkEntries
    rw [List.forall_mem_cons, ← ih]
    split_ifs with hwide hempty
    · simp [hwide]
    · simp only [hempty, not_true_eq_false, and_false, false_and]
    · exact (and_iff_right ⟨hwide, hempty⟩).symm

theorem checkOverlaps_perm (perm : entries'.Perm entries) (h : checkOverlaps entries = .ok ()) :
    checkOverlaps entries' = .ok () := by
  have symmetric : ∀ {x y : AllowlistEntry}, x.clashes y = false → y.clashes x = false :=
    fun {x y} hxy => (clashes_comm y x).trans hxy
  exact checkOverlaps_ok.mpr ((perm.pairwise_iff symmetric).mpr (checkOverlaps_ok.mp h))

theorem new_perm (hnew : Guard.new config = .ok g) (perm : entries.Perm config.allowlist) :
    ∃ g', Guard.new { config with allowlist := entries } = .ok g' := by
  have hconfig := config_new hnew
  subst hconfig
  have hentries : checkEntries entries = .ok () := checkEntries_ok.mpr fun entry hentry =>
    checkEntries_ok.mp g.entries entry (perm.mem_iff.mp hentry)
  have hoverlaps := checkOverlaps_perm perm g.overlaps
  have hlimits : checkLimits { g.config with allowlist := entries } = .ok () := g.limits
  unfold Guard.new
  split
  · simp_all
  · split
    · simp_all
    · split
      · simp_all
      · exact ⟨_, rfl⟩

theorem le_foldl_longer (rest : List AllowlistEntry) (first : AllowlistEntry) :
    ∀ x ∈ first :: rest, x.target.length ≤ (rest.foldl longer first).target.length := by
  induction rest generalizing first with
  | nil => simp
  | cons next rest ih =>
    have hfirst : first.target.length ≤ (longer first next).target.length ∧
        next.target.length ≤ (longer first next).target.length := by
      unfold longer
      split <;> omega
    have hlonger := ih (longer first next) _ List.mem_cons_self
    intro x hx
    rw [List.foldl_cons]
    rcases List.mem_cons.mp hx with rfl | hx
    · exact hfirst.1.trans hlonger
    · rcases List.mem_cons.mp hx with rfl | hx
      · exact hfirst.2.trans hlonger
      · exact ih _ x (List.mem_cons_of_mem _ hx)

theorem mostSpecific_eq_none : mostSpecific entries = none ↔ entries = [] := by
  cases entries <;> simp [mostSpecific]

theorem le_mostSpecific (h : mostSpecific entries = some entry) :
    ∀ x ∈ entries, x.target.length ≤ entry.target.length := by
  cases entries with
  | nil => cases h
  | cons first rest =>
    cases h
    exact le_foldl_longer rest first

theorem mostSpecific_append (h : ∀ x ∈ entries, x.target.length ≤ entry.target.length) :
    mostSpecific (entries ++ [entry]) = some entry := by
  cases entries with
  | nil => rfl
  | cons first rest =>
    have hle := h _ (foldl_longer_mem rest first)
    change some ((rest ++ [entry]).foldl longer first) = some entry
    rw [List.foldl_append, List.foldl_cons, List.foldl_nil, longer, if_pos hle]

theorem eq_of_contains {p q : Prefix} (hp : p.contains target = true)
    (hq : q.contains target = true) (hlength : p.length = q.length) : p = q := by
  have hpmask := (contains_iff_mask.mp hp).2
  have hqmask := (contains_iff_mask.mp hq).2
  rw [hlength, hqmask] at hpmask
  cases p
  cases q
  cases hpmask
  cases hlength
  rfl

/-- Whatever the order, the deciding entries differ at most in their actions. -/
theorem mostSpecific_perm (g : Guard) (perm : entries.Perm g.config.allowlist)
    (h : mostSpecific (entries.filter fun x => x.target.contains target) = some a)
    (h' : mostSpecific (g.config.allowlist.filter fun x => x.target.contains target) = some b) :
    a ∈ g.config.allowlist ∧ b ∈ g.config.allowlist ∧ a.target = b.target ∧
      a.tenant = b.tenant := by
  have hfilter := perm.filter fun x => x.target.contains target
  have ha := List.mem_filter.mp (hfilter.mem_iff.mp (mostSpecific_mem h))
  have hb := List.mem_filter.mp (mostSpecific_mem h')
  have hlength : a.target.length = b.target.length := Nat.le_antisymm
    (le_mostSpecific h' a (List.mem_filter.mpr ha))
    (le_mostSpecific h b (hfilter.mem_iff.mpr (List.mem_filter.mpr hb)))
  have htarget := eq_of_contains ha.2 hb.2 hlength
  refine ⟨ha.1, hb.1, htarget, tenant_eq_of_shared g ha.1 hb.1 a.target.holds_address ?_⟩
  rw [htarget]
  exact b.target.holds_address

/-- Entries with one prefix permit the same actions. -/
def Agreeing (allowlist : List AllowlistEntry) : Prop :=
  ∀ a ∈ allowlist, ∀ b ∈ allowlist, a.target = b.target →
    ∀ kind, kind ∈ a.actions ↔ kind ∈ b.actions

theorem check_perm (agreeing : Agreeing g.config.allowlist)
    (perm : entries.Perm g.config.allowlist)
    (hconfig : g'.config = { g.config with allowlist := entries }) (action : Action)
    (duration : Nat) (killSwitch : Bool) :
    g'.check tenant target action duration killSwitch =
      g.check tenant target action duration killSwitch := by
  have hlist : g'.config.allowlist = entries := by rw [hconfig]
  have hmin : g'.minLengthFor target = g.minLengthFor target := by
    unfold Guard.minLengthFor
    rw [hconfig]
  unfold Guard.check Guard.entryFor
  rw [hmin, hlist, hconfig]
  have hfilter := perm.filter fun x => x.target.contains target
  cases h : mostSpecific (entries.filter fun x => x.target.contains target) with
  | none =>
    rw [mostSpecific_eq_none.mp h] at hfilter
    rw [hfilter.symm.eq_nil]
    rfl
  | some a =>
    cases h' : mostSpecific (g.config.allowlist.filter fun x => x.target.contains target) with
    | none =>
      have hmem := hfilter.mem_iff.mp (mostSpecific_mem h)
      rw [mostSpecific_eq_none.mp h'] at hmem
      cases hmem
    | some b =>
      obtain ⟨ha, hb, htarget, htenant⟩ := mostSpecific_perm g perm h h'
      have hactions : a.actions.contains action.kind = b.actions.contains action.kind := by
        rw [Bool.eq_iff_iff, List.contains_iff_mem, List.contains_iff_mem]
        exact agreeing a ha b hb htarget action.kind
      by_cases hown : b.tenant = tenant
      · simp only [Option.filter_some, htenant, hown, decide_true, if_true, hactions]
      · simp only [Option.filter_some, htenant, hown, decide_false, if_false, Bool.false_eq_true]

theorem check_not_allowed (hswitch : g.config.killSwitch = false)
    (hentry : g.entryFor tenant target = some entry) {action : Action}
    (hsource : checkSource action = .ok ()) :
    g.check tenant target action 0 false = .error (.actionNotAllowed action.kind target) ↔
      action.kind ∉ entry.actions := by
  unfold Guard.check
  simp only [hswitch, hentry, hsource, Bool.or_false, Bool.false_eq_true, if_false]
  by_cases hkind : action.kind ∈ entry.actions
  · simp only [List.contains_iff_mem.mpr hkind, Bool.not_true, Bool.false_eq_true, if_false, hkind,
      not_true_eq_false, iff_false]
    split_ifs <;> simp
  · simp [hkind]

theorem exists_kind (kind : ActionKind) :
    ∃ action : Action, action.kind = kind ∧ checkSource action = .ok () := by
  cases kind with
  | rtbh => exact ⟨.rtbh, rfl, rfl⟩
  | parentPrefix => exact ⟨.parentPrefix, rfl, rfl⟩
  | flowspecDiscard => exact ⟨.flowspecDiscard {}, rfl, rfl⟩
  | flowspecRateLimit => exact ⟨.flowspecRateLimit {} 1, rfl, rfl⟩

theorem entryFor_last (hlist : g.config.allowlist = entries ++ [entry]) :
    g.entryFor entry.tenant entry.target = some entry := by
  have hself : entry.target.contains entry.target = true := contains_iff.mpr fun _ h => h
  have hmost : mostSpecific (entries.filter (fun x => x.target.contains entry.target) ++ [entry]) =
      some entry :=
    mostSpecific_append fun x hx => (contains_iff_mask.mp (List.mem_filter.mp hx).2).1
  unfold Guard.entryFor
  rw [hlist, List.filter_append, List.filter_singleton, hself, cond_true, hmost]
  simp

/-- The allowlist's order does not matter exactly when entries with one prefix permit the same
actions, or the configured kill switch refuses everything. -/
theorem allowlist_unordered_iff (config : GuardConfig) (g : Guard)
    (hnew : Guard.new config = .ok g) :
    (∀ entries : List AllowlistEntry, entries.Perm config.allowlist →
      ∃ g', Guard.new { config with allowlist := entries } = .ok g' ∧
        ∀ tenant target action duration killSwitch,
          g'.check tenant target action duration killSwitch =
            g.check tenant target action duration killSwitch) ↔
      config.killSwitch = true ∨ Agreeing config.allowlist := by
  have hconfig := config_new hnew
  constructor
  · intro same
    by_contra h
    obtain ⟨hswitch, hagree⟩ := not_or.mp h
    refine hagree fun a ha b hb htarget kind => ?_
    obtain ⟨action, rfl, hsource⟩ := exists_kind kind
    -- the entry moved to the end decides, so `g` answers for `a` as it does for `b`
    have decides : ∀ x ∈ config.allowlist,
        g.check x.tenant x.target action 0 false =
          .error (.actionNotAllowed action.kind x.target) ↔ action.kind ∉ x.actions := by
      intro x hx
      have perm : (config.allowlist.erase x ++ [x]).Perm config.allowlist :=
        (List.perm_append_singleton x _).trans (List.perm_cons_erase hx).symm
      obtain ⟨g', hnew', hsame⟩ := same _ perm
      have hconfig' := config_new hnew'
      rw [← hsame]
      have hlast : g'.config.allowlist = config.allowlist.erase x ++ [x] := by rw [hconfig']
      refine check_not_allowed ?_ (entryFor_last hlast) hsource
      rw [hconfig']
      simpa using hswitch
    have htenant : a.tenant = b.tenant := by
      rw [← hconfig] at ha hb
      refine tenant_eq_of_shared g ha hb a.target.holds_address ?_
      rw [htarget]
      exact b.target.holds_address
    have hboth := decides a ha
    rw [htenant, htarget, decides b hb] at hboth
    exact (not_iff_not.mp hboth).symm
  · intro h entries perm
    obtain ⟨g', hnew'⟩ := new_perm hnew perm
    refine ⟨g', hnew', fun tenant target action duration killSwitch => ?_⟩
    have hconfig' := config_new hnew'
    subst hconfig
    rcases h with hswitch | agreeing
    · unfold Guard.check
      rw [hconfig', hswitch]
      simp
    · exact check_perm agreeing perm hconfig' action duration killSwitch

/-- A network listed twice, with the same actions in another order. -/
def agreeingEntries : List AllowlistEntry :=
  [{ target := sampleNetwork, tenant := "acme", actions := [.rtbh, .flowspecDiscard] },
    { target := sampleNetwork, tenant := "acme", actions := [.flowspecDiscard, .rtbh] }]

theorem allowlist_unordered_iff_agreeing : ∃ g, Guard.new { allowlist := agreeingEntries } = .ok g ∧
    ∀ entries : List AllowlistEntry, entries.Perm agreeingEntries →
      ∃ g', Guard.new { allowlist := entries } = .ok g' ∧
        ∀ tenant target action duration killSwitch,
          g'.check tenant target action duration killSwitch =
            g.check tenant target action duration killSwitch := by
  refine ⟨⟨{ allowlist := agreeingEntries }, by decide, by decide, by decide⟩, by decide, ?_⟩
  refine (allowlist_unordered_iff { allowlist := agreeingEntries } _ (by decide)).mpr (Or.inr ?_)
  intro a ha b hb _ kind
  simp only [agreeingEntries, List.mem_cons, List.not_mem_nil, or_false] at ha hb
  rcases ha with rfl | rfl <;> rcases hb with rfl | rfl <;> simp [or_comm]

/-- The two entries of one network, the one for discards last. -/
def twoEntries : List AllowlistEntry :=
  [{ target := sampleNetwork, tenant := "acme", actions := [.rtbh] },
    { target := sampleNetwork, tenant := "acme", actions := [.flowspecDiscard] }]

theorem order_decides : ∃ g g', Guard.new { allowlist := twoEntries } = .ok g ∧
    Guard.new { allowlist := twoEntries.reverse } = .ok g' ∧
    g.check "acme" sampleHost .rtbh (fromSecs 60) false =
      .error (.actionNotAllowed .rtbh sampleHost) ∧
    g'.check "acme" sampleHost .rtbh (fromSecs 60) false = .ok () :=
  ⟨⟨{ allowlist := twoEntries }, by decide, by decide, by decide⟩,
    ⟨{ allowlist := twoEntries.reverse }, by decide, by decide, by decide⟩, by decide, by decide,
    by decide, by decide⟩

end Tidegard.Mitigation.Proofs.Allowlist
