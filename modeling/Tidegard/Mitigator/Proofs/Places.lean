import Tidegard.Mitigator.Proofs.Reconciled

namespace Tidegard.Mitigator.Proofs.Places

open Slots Common Mitigation.Prefix Mitigation.Action Mitigation.Mitigation Route Routes
open Reconciled
open Mitigation.Proofs.Guarded (sampleHost)

variable {text : AddrText} {action action' : Action}

/-- Whatever GoBGP holds where the first route goes stays there when the second one is announced
or withdrawn. -/
def Spares (text : AddrText) (target : Prefix) (action : Action) (target' : Prefix)
    (action' : Action) : Prop :=
  ∀ (lists : Path → Path), (∀ path, Listed (lists path) path) →
  ∀ (rib : List Path) (path : Path), path ∈ rib → place path = routePlace text target action →
    ∀ (record : MitigationRecord) (config : RouteConfig),
      path ∈ applySent lists rib (.announce record (announcement text target' action' config)) ∧
      path ∈ applySent lists rib (.withdraw (some record) (withdrawal text target' action'))

theorem spares_of_ne (h : routePlace text target action ≠ routePlace text target' action') :
    Spares text target action target' action' := by
  intro lists listed rib path hpath hplace record config
  rw [← hplace] at h
  constructor
  · refine mem_put.mpr (Or.inl ⟨hpath, ?_⟩)
    rwa [(listed _).place, place_announcement]
  · refine mem_clear.mpr ⟨hpath, ?_⟩
    rwa [place_withdrawal]

/-- One mitigation discards the traffic that the other limits. -/
def DiscardsLimited (action action' : Action) : Prop :=
  ∃ flow rate, action = .flowspecDiscard flow ∧ action' = .flowspecRateLimit flow rate

theorem discardsLimited_of_flow (valid : action.validateFor target = .ok ())
    (valid' : action'.validateFor target = .ok ())
    (keys : action.duplicateKey text.showAddr target ≠ action'.duplicateKey text.showAddr target)
    (hflow : action.flow = action'.flow) :
    DiscardsLimited action action' ∨ DiscardsLimited action' action := by
  have hkind : action.kind ≠ action'.kind := by
    intro hkind
    unfold Action.duplicateKey at keys
    rw [hkind, hflow] at keys
    exact keys rfl
  cases action with
  | rtbh =>
    cases action' with
    | parentPrefix =>
      -- one is for a host, the other for a network
      simp only [Action.validateFor] at valid valid'
      split at valid <;> simp_all
    | _ => first | exact absurd rfl hkind | cases hflow
  | parentPrefix =>
    cases action' with
    | rtbh =>
      simp only [Action.validateFor] at valid valid'
      split at valid <;> simp_all
    | _ => first | exact absurd rfl hkind | cases hflow
  | flowspecDiscard flow =>
    cases action' with
    | flowspecRateLimit flow' rate =>
      cases hflow
      exact Or.inl ⟨flow, rate, rfl, rfl⟩
    | _ => first | exact absurd rfl hkind | cases hflow
  | flowspecRateLimit flow rate =>
    cases action' with
    | flowspecDiscard =>
      cases hflow
      exact Or.inr ⟨flow, rate, rfl, rfl⟩
    | _ => first | exact absurd rfl hkind | cases hflow

/-- Mitigations with different keys have different places in GoBGP, and neither disturbs the
other's route, unless one discards on a prefix what the other limits there. -/
theorem routes_apart_iff (text : AddrText)
    (reads : ∀ a, text.parseAddr (text.showAddr a) = some a) (target target' : Prefix)
    (action action' : Action) (valid : action.validateFor target = .ok ())
    (valid' : action'.validateFor target' = .ok ())
    (keys : action.duplicateKey text.showAddr target ≠
      action'.duplicateKey text.showAddr target') :
    ((family target action.kind, nlri text target action) ≠
        (family target' action'.kind, nlri text target' action') ∧
      Spares text target action target' action' ∧ Spares text target' action' target action) ↔
      ¬ (target = target' ∧ (DiscardsLimited action action' ∨ DiscardsLimited action' action)) := by
  have hplace : (family target action.kind, nlri text target action) =
      (family target' action'.kind, nlri text target' action') ↔
        routePlace text target action = routePlace text target' action' := by
    simp [routePlace]
  rw [Ne, hplace]
  constructor
  · rintro ⟨hne, -⟩ ⟨rfl, hpair⟩
    refine hne (routePlace_congr ?_)
    rcases hpair with ⟨flow, rate, rfl, rfl⟩ | ⟨flow, rate, rfl, rfl⟩ <;> rfl
  · intro apart
    have hne : routePlace text target action ≠ routePlace text target' action' := by
      intro h
      obtain ⟨rfl, hflow⟩ := routePlace_inj reads h
      exact apart ⟨rfl, discardsLimited_of_flow valid valid' keys hflow⟩
    exact ⟨hne, spares_of_ne hne, spares_of_ne hne.symm⟩

theorem routes_apart_iff_sample :
    (family sampleHost .rtbh, nlri dottedText sampleHost .rtbh) ≠
      (family sampleHost .flowspecDiscard, nlri dottedText sampleHost (.flowspecDiscard {})) := by
  refine ((routes_apart_iff dottedText dottedText_faithful.reads sampleHost sampleHost .rtbh
    (.flowspecDiscard {}) (by decide) (by decide) (by decide +kernel)).mpr ?_).1
  rintro ⟨-, ⟨flow, rate, h, -⟩ | ⟨flow, rate, -, h⟩⟩ <;> cases h

/-- A discard and a rate limit of the same traffic are announced under one NLRI. -/
theorem discard_and_limit_share_nlri :
    discarding.action.validateFor sampleHost = .ok () ∧
    (limiting {}).action.validateFor sampleHost = .ok () ∧
    discarding.action.duplicateKey dottedText.showAddr sampleHost ≠
      (limiting {}).action.duplicateKey dottedText.showAddr sampleHost ∧
    (family sampleHost discarding.action.kind, nlri dottedText sampleHost discarding.action) =
      (family sampleHost (limiting {}).action.kind, nlri dottedText sampleHost (limiting {}).action) :=
  ⟨by decide, by decide, by decide +kernel, rfl⟩

/-- Whatever is announced is recognised and read back as what it was announced for, and what is
read back withdraws it. -/
theorem announcement_reads_back (text : AddrText)
    (reads : ∀ a, text.parseAddr (text.showAddr a) = some a) (target : Prefix) (action : Action)
    (valid : action.validateFor target = .ok ()) (config : RouteConfig) :
    isOwned (announcement text target action config) config = true ∧
    ∃ route, readBack text (announcement text target action config) = .ok route ∧
      route.target = target ∧ route.action.kind = action.kind ∧ route.action.flow = action.flow ∧
      route.key = action.duplicateKey text.showAddr target ∧
      (withdrawal text route.target route.action).family =
        (announcement text target action config).family ∧
      (withdrawal text route.target route.action).nlri =
        (announcement text target action config).nlri := by
  obtain ⟨action', hread, hkind, hflow⟩ := readBack_announcement reads config valid
  have hplace : routePlace text target action' = routePlace text target action :=
    routePlace_congr hflow
  exact ⟨isOwned_announcement rfl, _, hread, rfl, hkind, hflow, rfl, congrArg Prod.fst hplace,
    congrArg Prod.snd hplace⟩

def sampleRoutes : RouteConfig where
  localAsn := 64500
  rtbhNextHopIpv4 := 0xC0000201#32
  rtbhNextHopIpv6 := 0x100#128

theorem announcement_reads_back_sample :
    (limiting {}).action.validateFor sampleHost = .ok () ∧
    ∃ route, readBack dottedText (announcement dottedText sampleHost (limiting {}).action
        sampleRoutes) = .ok route ∧ route.target = sampleHost ∧
      route.key = (limiting {}).action.duplicateKey dottedText.showAddr sampleHost := by
  have valid : (limiting {}).action.validateFor sampleHost = .ok () := by decide
  obtain ⟨-, route, hread, htarget, -, -, hkey, -⟩ := announcement_reads_back dottedText
    dottedText_faithful.reads sampleHost (limiting {}).action valid sampleRoutes
  exact ⟨valid, route, hread, htarget, hkey⟩

end Tidegard.Mitigator.Proofs.Places
