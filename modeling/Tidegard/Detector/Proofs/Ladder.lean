import Tidegard.Detector.Precedence

namespace Tidegard.Detector.Proofs.Ladder

open List Tables Common Input Policy Precedence PolicySet

variable {p : DetectionPolicy} {key : ScopeKey} {policies : List ValidPolicy} {s : PolicySet}
variable {rest : List DetectionPolicy}

/-- One for a policy that names its tenant. -/
def tenantRung (p : DetectionPolicy) : Nat := if p.tenant = wildcardTenant then 0 else 1

def selectorRung (p : DetectionPolicy) : Nat :=
  match p.selector with
  | .host _ => 3
  | .network _ _ => 2
  | .hostgroup _ => 1
  | .any => 0

/-- One for a policy that gives an address family. -/
def familyRung (p : DetectionPolicy) : Nat := if p.addressFamily.isSome then 1 else 0

/-- The rungs in order; the greater value is chosen, and of two ids the smaller one. -/
def ladder (p : DetectionPolicy) : Nat ×ₗ Nat ×ₗ Nat ×ₗ Int ×ₗ Stringᵒᵈ :=
  toLex (tenantRung p, toLex (selectorRung p, toLex (familyRung p,
    toLex (p.priority, OrderDual.toDual p.id))))

inductive Rung where
  | tenant
  | selector
  | family
  | priority
  | id
  deriving DecidableEq

/-- The first rung on which two policies differ; their ids always do. -/
def firstDifference (a b : DetectionPolicy) : Rung :=
  if tenantRung a ≠ tenantRung b then .tenant
  else if selectorRung a ≠ selectorRung b then .selector
  else if familyRung a ≠ familyRung b then .family
  else if a.priority ≠ b.priority then .priority
  else .id

/-- How a selection names the rung that decided it. -/
def Rung.reason : Rung → PrecedenceReason
  | .tenant | .selector | .family => .moreSpecific
  | .priority => .higherPriority
  | .id => .lowestId

/-- What the selector adds to the specificity. -/
def selectorWeight (p : DetectionPolicy) : Nat :=
  match p.selector with
  | .host _ => 900
  | .network _ len => 100 + len
  | .hostgroup _ => 50
  | .any => 0

theorem specificity_eq (p : DetectionPolicy) :
    p.specificity = tenantRung p * 1000000 + p.scopeType.specificity * 1000 + selectorWeight p +
      familyRung p := by
  unfold DetectionPolicy.specificity tenantRung familyRung selectorWeight
  cases p.selector <;> dsimp only <;> split <;> omega

theorem network_len_le (h : p.Accepted) {len : Nat}
    (hs : p.selector = .network addr len) : len ≤ 128 := by
  have hlen := h.selector.2 addr len hs
  have hmax : maxPrefixLen addr ≤ 128 := by cases addr <;> simp [maxPrefixLen]
  exact hlen.trans hmax

/-- The rung and the weight of a selector that names the scope. -/
def scopeRung : ScopeId → Nat × Nat
  | .host _ => (3, 900)
  | .network _ len => (2, 100 + len)
  | .hostgroup _ => (1, 50)

/-- Of the policies that match one key, each names the scope in the same way or takes any. -/
theorem selector_of_matches (hmatch : p.matchesScope key = true) :
    (selectorRung p = 0 ∧ selectorWeight p = 0) ∨
      (selectorRung p = (scopeRung key.scopeId).1 ∧
        selectorWeight p = (scopeRung key.scopeId).2) := by
  simp only [DetectionPolicy.matchesScope, Bool.and_eq_true] at hmatch
  obtain ⟨_, hselector⟩ := hmatch
  unfold selectorRung selectorWeight
  cases hs : p.selector with
  | any => exact Or.inl ⟨rfl, rfl⟩
  | host =>
    rw [hs] at hselector
    cases hid : key.scopeId with
    | host => exact Or.inr ⟨rfl, rfl⟩
    | network | hostgroup => rw [hid] at hselector; cases hselector
  | network =>
    rw [hs] at hselector
    cases hid : key.scopeId with
    | network =>
      rw [hid] at hselector
      simp only [selectorMatches, Bool.and_eq_true, beq_iff_eq] at hselector
      rw [hselector.2]
      exact Or.inr ⟨rfl, rfl⟩
    | host | hostgroup => rw [hid] at hselector; cases hselector
  | hostgroup =>
    rw [hs] at hselector
    cases hid : key.scopeId with
    | hostgroup => exact Or.inr ⟨rfl, rfl⟩
    | host | network => rw [hid] at hselector; cases hselector

theorem scopeRung_bounds (id : ScopeId) :
    1 ≤ (scopeRung id).1 ∧ 50 ≤ (scopeRung id).2 := by
  cases id <;> simp only [scopeRung] <;> omega

theorem selectorWeight_le (h : p.Accepted) : selectorWeight p ≤ 900 := by
  unfold selectorWeight
  split
  · exact le_rfl
  · rename_i hs
    have := network_len_le h hs
    omega
  · omega
  · omega

theorem scopeType_of_matches (hmatch : p.matchesScope key = true) :
    p.scopeType = key.scopeType := by
  simp only [DetectionPolicy.matchesScope, Bool.and_eq_true, beq_iff_eq] at hmatch
  exact hmatch.1.1.1.2

theorem rung_le_one (p : DetectionPolicy) : tenantRung p ≤ 1 ∧ familyRung p ≤ 1 := by
  unfold tenantRung familyRung
  constructor <;> split <;> omega

section Agreement

variable {a b : DetectionPolicy} {key : ScopeKey}

/-- Among policies that match one key no weight carries over into the next: the sums compare as the
first three rungs do. -/
theorem specificity_lt_iff (ha : a.Accepted) (hb : b.Accepted)
    (hma : a.matchesScope key = true) (hmb : b.matchesScope key = true) :
    b.specificity < a.specificity ↔
      tenantRung b < tenantRung a ∨ tenantRung b = tenantRung a ∧
        (selectorRung b < selectorRung a ∨ selectorRung b = selectorRung a ∧
          familyRung b < familyRung a) := by
  rw [specificity_eq, specificity_eq, scopeType_of_matches hma, scopeType_of_matches hmb]
  have := rung_le_one a
  have := rung_le_one b
  have := selectorWeight_le ha
  have := selectorWeight_le hb
  have := scopeRung_bounds key.scopeId
  have := selector_of_matches hma
  have := selector_of_matches hmb
  omega

theorem specificity_eq_iff (ha : a.Accepted) (hb : b.Accepted)
    (hma : a.matchesScope key = true) (hmb : b.matchesScope key = true) :
    a.specificity = b.specificity ↔
      tenantRung a = tenantRung b ∧ selectorRung a = selectorRung b ∧
        familyRung a = familyRung b := by
  have hlt := specificity_lt_iff ha hb hma hmb
  have hgt := specificity_lt_iff hb ha hmb hma
  omega

theorem ladder_le_iff :
    ladder b ≤ ladder a ↔
      tenantRung b < tenantRung a ∨ tenantRung b = tenantRung a ∧
        (selectorRung b < selectorRung a ∨ selectorRung b = selectorRung a ∧
          (familyRung b < familyRung a ∨ familyRung b = familyRung a ∧
            (b.priority < a.priority ∨ b.priority = a.priority ∧ a.id ≤ b.id))) := by
  unfold ladder
  simp only [Prod.Lex.toLex_le_toLex, OrderDual.toDual_le_toDual]

theorem precedenceReason_cons (ha : a.Accepted) (hb : b.Accepted)
    (hma : a.matchesScope key = true) (hmb : b.matchesScope key = true)
    (rest : List DetectionPolicy) :
    precedenceReason a (b :: rest) = (firstDifference a b).reason := by
  have heq := specificity_eq_iff ha hb hma hmb
  unfold precedenceReason firstDifference
  by_cases ht : tenantRung a = tenantRung b
  · by_cases hs : selectorRung a = selectorRung b
    · by_cases hf : familyRung a = familyRung b
      · have hspec := heq.mpr ⟨ht, hs, hf⟩
        simp only [ne_eq, hspec, ht, hs, hf, not_true, if_false]
        split <;> rfl
      · have hspec : a.specificity ≠ b.specificity := fun h => hf (heq.mp h).2.2
        simp [hspec, ht, hs, hf, Rung.reason]
    · have hspec : a.specificity ≠ b.specificity := fun h => hs (heq.mp h).2.1
      simp [hspec, ht, hs, Rung.reason]
  · have hspec : a.specificity ≠ b.specificity := fun h => ht (heq.mp h).1
    simp [hspec, ht, Rung.reason]

/-- The sort's comparison as an order of triples. -/
def sortKey (p : DetectionPolicy) : Nat ×ₗ Int ×ₗ Stringᵒᵈ :=
  toLex (p.specificity, toLex (p.priority, OrderDual.toDual p.id))

theorem sortKey_le_iff :
    sortKey b ≤ sortKey a ↔
      b.specificity < a.specificity ∨ b.specificity = a.specificity ∧
        (b.priority < a.priority ∨ b.priority = a.priority ∧ a.id ≤ b.id) := by
  unfold sortKey
  simp only [Prod.Lex.toLex_le_toLex, OrderDual.toDual_le_toDual]

theorem ranksBefore_eq (a b : DetectionPolicy) :
    ranksBefore a b = true ↔ sortKey b ≤ sortKey a := by
  rw [sortKey_le_iff]
  unfold ranksBefore
  split
  · rw [decide_eq_true_iff]
    omega
  · rename_i hspec
    split
    · rw [decide_eq_true_iff]
      omega
    · rename_i hpriority
      rw [not_not] at hspec hpriority
      simp [hspec, hpriority]

theorem sortKey_le_iff_ladder (ha : a.Accepted) (hb : b.Accepted)
    (hma : a.matchesScope key = true) (hmb : b.matchesScope key = true) :
    sortKey b ≤ sortKey a ↔ ladder b ≤ ladder a := by
  rw [sortKey_le_iff, ladder_le_iff, specificity_lt_iff ha hb hma hmb,
    specificity_eq_iff hb ha hmb hma]
  tauto

end Agreement

instance : Std.Total fun a b : DetectionPolicy => ranksBefore a b = true where
  total a b := by
    rw [ranksBefore_eq, ranksBefore_eq]
    exact le_total _ _

instance : IsTrans DetectionPolicy fun a b => ranksBefore a b = true where
  trans a b c hab hbc := by
    rw [ranksBefore_eq] at hab hbc ⊢
    exact hbc.trans hab

theorem candidates_pairwise (s : PolicySet) (key : ScopeKey) :
    (s.candidates key).Pairwise fun a b => ranksBefore a b = true :=
  pairwise_insertionSort _ _

theorem candidates_nodup (s : PolicySet) (key : ScopeKey) : (s.candidates key).Nodup := by
  unfold PolicySet.candidates
  rw [(perm_insertionSort _ _).nodup_iff]
  refine List.Nodup.filter _ ?_
  rw [nodup_map_iff_inj_on (toList_nodup _)]
  rintro ⟨id, p⟩ hp ⟨id', p'⟩ hp' rfl
  have h := s.filed id p ((mem_toList _ _ _).mp hp)
  have h' := s.filed id' p ((mem_toList _ _ _).mp hp')
  rw [← h.1, ← h'.1]

/-- The policies of the list that apply to the key. -/
def applicable (policies : List ValidPolicy) (key : ScopeKey) : List DetectionPolicy :=
  (policies.map Subtype.val).filter fun p => p.matchesScope key

def DistinctIds (policies : List ValidPolicy) : Prop := (policies.map (·.val.id)).Nodup

theorem foldlM_add (distinct : DistinctIds policies) (fresh : ∀ p ∈ policies, s.get p.val.id = none) :
    ∃ t, policies.foldlM (fun (set : PolicySet) policy =>
        if set.policies.contains policy.val.id then .error (.duplicateId policy.val.id)
        else Except.ok (ε := PolicyError) (set.add policy)) s = .ok t ∧
      ∀ id p, t.get id = some p ↔ s.get id = some p ∨ ∃ q ∈ policies, q.val = p ∧ p.id = id := by
  induction policies generalizing s with
  | nil => exact ⟨s, rfl, by simp⟩
  | cons policy rest ih =>
    unfold DistinctIds at distinct
    rw [map_cons, nodup_cons] at distinct
    obtain ⟨hnew, hrest⟩ := distinct
    have hnone : s.policies[policy.val.id]? = none := fresh policy mem_cons_self
    have hadd (id : String) :
        (s.add policy).get id = if policy.val.id = id then some policy.val else s.get id :=
      get_insert _ _ _ _
    have hfresh : ∀ p ∈ rest, (s.add policy).get p.val.id = none := by
      intro p hp
      rw [hadd, if_neg fun heq => hnew (List.mem_map.mpr ⟨p, hp, heq.symm⟩)]
      exact fresh p (mem_cons_of_mem _ hp)
    obtain ⟨t, ht, hget⟩ := ih hrest hfresh
    refine ⟨t, ?_, fun id p => ?_⟩
    · rw [foldlM_cons, if_neg (by simp [Std.ExtTreeMap.contains_eq_isSome_getElem?, hnone])]
      exact ht
    · rw [hget, hadd]
      split
      · rename_i heq
        have hs : s.get id = none := heq ▸ hnone
        rw [hs]
        simp only [Option.some.injEq, reduceCtorEq, false_or, exists_mem_cons_iff]
        refine or_congr_left ⟨fun h => ⟨h, h ▸ heq⟩, fun h => h.1⟩
      · rename_i hne
        simp only [exists_mem_cons_iff]
        refine or_congr_right ⟨Or.inr, ?_⟩
        rintro (⟨rfl, heq⟩ | h)
        · exact absurd heq hne
        · exact h

theorem fromPolicies_ok (distinct : DistinctIds policies) :
    ∃ s, fromPolicies policies = .ok s ∧
      ∀ id p, s.get id = some p ↔ ∃ q ∈ policies, q.val = p ∧ p.id = id := by
  obtain ⟨s, hs, hget⟩ := foldlM_add distinct (s := .empty) fun p _ => by
    simp [PolicySet.get, PolicySet.empty]
  refine ⟨s, hs, fun id p => ?_⟩
  rw [hget]
  simp [PolicySet.get, PolicySet.empty]

theorem policySet_ext {t : PolicySet} (h : ∀ id, s.get id = t.get id) : s = t := by
  obtain ⟨sp, _⟩ := s
  obtain ⟨tp, _⟩ := t
  have hp : sp = tp := Std.ExtTreeMap.ext_getElem? h
  subst hp
  rfl

theorem fromPolicies_perm {policies' : List ValidPolicy} (distinct : DistinctIds policies)
    (h : policies.Perm policies') :
    fromPolicies policies' = fromPolicies policies := by
  have distinct' : DistinctIds policies' := (h.map _).nodup_iff.mp distinct
  obtain ⟨s, hs, hget⟩ := fromPolicies_ok distinct
  obtain ⟨t, ht, hget'⟩ := fromPolicies_ok distinct'
  rw [hs, ht]
  refine congrArg _ (policySet_ext fun id => Option.ext fun p => ?_)
  rw [hget, hget']
  simp only [h.mem_iff]

theorem mem_candidates_iff
    (hget : ∀ id p, s.get id = some p ↔ ∃ q ∈ policies, q.val = p ∧ p.id = id) :
    p ∈ s.candidates key ↔ p ∈ applicable policies key := by
  rw [mem_candidates, hget]
  unfold applicable
  rw [mem_filter, mem_map]
  simp

/-- The one member of a list that stands highest on the ladder. -/
def Highest (l : List DetectionPolicy) (p : DetectionPolicy) : Prop :=
  p ∈ l ∧ ∀ q ∈ l, q ≠ p → ladder q < ladder p

theorem Highest.unique (hp : Highest l p) (hq : Highest l q) : p = q := by
  by_contra hne
  exact lt_asymm (hp.2 q hq.1 (Ne.symm hne)) (hq.2 p hp.1 hne)

/-- The highest of the others. -/
def RunnerUp (l : List DetectionPolicy) (p r : DetectionPolicy) : Prop :=
  r ∈ l ∧ r ≠ p ∧ ∀ q ∈ l, q ≠ p → q ≠ r → ladder q < ladder r

theorem highest_head (hsub : (p :: rest).Sublist (s.candidates key)) : Highest (p :: rest) p := by
  have hmem (q : DetectionPolicy) (hq : q ∈ p :: rest) := mem_candidates.mp (hsub.subset hq)
  have hsorted := (candidates_pairwise s key).sublist hsub
  refine ⟨mem_cons_self, fun q hq hne => ?_⟩
  have hrest : q ∈ rest := (List.mem_cons.mp hq).resolve_left hne
  obtain ⟨hgetp, hmp⟩ := hmem p mem_cons_self
  obtain ⟨hgetq, hmq⟩ := hmem q hq
  have hle := (List.pairwise_cons.mp hsorted).1 q hrest
  rw [ranksBefore_eq,
    sortKey_le_iff_ladder (s.filed _ _ hgetp).2 (s.filed _ _ hgetq).2 hmp hmq] at hle
  refine lt_of_le_of_ne hle fun heq => hne ?_
  have hid : q.id = p.id := by
    have := congrArg (fun r => (ofLex (ofLex (ofLex (ofLex r).2).2).2).2) heq
    exact this
  rw [hid, hgetp] at hgetq
  exact (Option.some.inj hgetq).symm

theorem winnerFor_nil (h : s.candidates key = []) : s.winnerFor key = none := by
  unfold winnerFor select
  rw [h]
  rfl

theorem winnerFor_cons (h : s.candidates key = p :: rest) :
    s.winnerFor key = some p ∧ (s.select key).reason = some (precedenceReason p rest) := by
  have hmem : p ∈ s.candidates key := h ▸ mem_cons_self
  unfold winnerFor select
  rw [h]
  exact ⟨(mem_candidates.mp hmem).1, rfl⟩

theorem reason_cons (h : s.candidates key = p :: rest) :
    (∀ q ∈ p :: rest, q = p) ∧ precedenceReason p rest = .onlyCandidate ∨
      ∃ r, RunnerUp (p :: rest) p r ∧ precedenceReason p rest = (firstDifference p r).reason := by
  cases rest with
  | nil => exact Or.inl ⟨by simp, rfl⟩
  | cons r rest =>
    refine Or.inr ⟨r, ⟨by simp, ?_, ?_⟩, ?_⟩
    · have hnodup := candidates_nodup s key
      rw [h, nodup_cons] at hnodup
      rintro rfl
      exact hnodup.1 mem_cons_self
    · intro q hq hqp hqr
      have hsub : (r :: rest).Sublist (s.candidates key) := h ▸ sublist_cons_self _ _
      exact (highest_head hsub).2 q ((List.mem_cons.mp hq).resolve_left hqp) hqr
    · have hmem (q : DetectionPolicy) (hq : q ∈ p :: r :: rest) :=
        mem_candidates.mp (h ▸ hq : q ∈ s.candidates key)
      obtain ⟨hgetp, hmp⟩ := hmem p mem_cons_self
      obtain ⟨hgetr, hmr⟩ := hmem r (mem_cons_of_mem _ mem_cons_self)
      exact precedenceReason_cons (s.filed _ _ hgetp).2 (s.filed _ _ hgetr).2 hmp hmr rest

/-- A set made of policies with distinct ids, in whatever order they are listed, selects for every
key the policy that stands highest on the ladder among the enabled ones that match; the reason it
gives is the first rung on which the winner and the runner-up differ. -/
theorem selects_highest {policies : List ValidPolicy} (distinct : DistinctIds policies) :
    ∃ s, PolicySet.fromPolicies policies = .ok s ∧
      (∀ policies', policies.Perm policies' → PolicySet.fromPolicies policies' = .ok s) ∧
      ∀ key,
        (s.winnerFor key = none ↔ applicable policies key = []) ∧
        (∀ p, s.winnerFor key = some p ↔ Highest (applicable policies key) p) ∧
        ∀ p, s.winnerFor key = some p →
          (∀ q ∈ applicable policies key, q = p) ∧
              (s.select key).reason = some .onlyCandidate ∨
            ∃ r, RunnerUp (applicable policies key) p r ∧
              (s.select key).reason = some (firstDifference p r).reason := by
  obtain ⟨s, hs, hget⟩ := fromPolicies_ok distinct
  refine ⟨s, hs, fun policies' h => (fromPolicies_perm distinct h).trans hs, fun key => ?_⟩
  have hmem (q : DetectionPolicy) : q ∈ s.candidates key ↔ q ∈ applicable policies key :=
    mem_candidates_iff hget
  cases hc : s.candidates key with
  | nil =>
    have hnone (q : DetectionPolicy) : q ∉ applicable policies key := by
      rw [← hmem, hc]
      exact not_mem_nil
    have hempty := List.eq_nil_iff_forall_not_mem.mpr hnone
    rw [winnerFor_nil hc]
    refine ⟨by simp [hempty], fun p => ?_, fun p hp => (by cases hp)⟩
    exact ⟨fun hp => (by cases hp), fun hp => absurd hp.1 (hnone p)⟩
  | cons w rest =>
    rw [hc] at hmem
    obtain ⟨hwinner, hreason⟩ := winnerFor_cons hc
    have hfirst := highest_head (hc ▸ List.Sublist.refl _ : (w :: rest).Sublist (s.candidates key))
    have hhighest : Highest (applicable policies key) w := by
      simpa only [Highest, hmem] using hfirst
    rw [hwinner, hreason]
    refine ⟨?_, fun p => ?_, fun p hp => ?_⟩
    · simp [ne_nil_of_mem hhighest.1]
    · rw [Option.some.injEq]
      exact ⟨fun hp => hp ▸ hhighest, fun hp => hhighest.unique hp⟩
    · cases hp
      simpa only [RunnerUp, hmem, Option.some.injEq] using reason_cons hc

/-- The sample policy under another id, with a priority. -/
def rankedPolicy (id : String) (priority : Int) : DetectionPolicy :=
  { samplePolicy .alertOnly 1 with id := id, priority := priority }

set_option maxRecDepth 4000 in
theorem rankedPolicy_accepted :
    (rankedPolicy "a" 0).Accepted ∧ (rankedPolicy "b" 5).Accepted :=
  ⟨⟨{ sampleDraft .alertOnly 1 with id := "a", priority := 0 }, ∅, rfl⟩,
    ⟨{ sampleDraft .alertOnly 1 with id := "b", priority := 5 }, ∅, rfl⟩⟩

theorem selects_highest_sample :
    let policies : List ValidPolicy :=
      [⟨rankedPolicy "a" 0, rankedPolicy_accepted.1⟩, ⟨rankedPolicy "b" 5, rankedPolicy_accepted.2⟩]
    DistinctIds policies ∧ ∃ s, PolicySet.fromPolicies policies = .ok s ∧
      ∀ key p, s.winnerFor key = some p ↔ Highest (applicable policies key) p := by
  intro policies
  have distinct : DistinctIds policies := by
    simp [policies, DistinctIds, rankedPolicy]
  obtain ⟨s, hs, _, hkey⟩ := selects_highest distinct
  exact ⟨distinct, s, hs, fun key => (hkey key).2.1⟩

end Tidegard.Detector.Proofs.Ladder
