import Tidegard.Detector.Policy

namespace Tidegard.Detector.Precedence

open Tables Input Policy

variable {s : PolicySet} {key : ScopeKey} {p : DetectionPolicy}

inductive PrecedenceReason where
  | onlyCandidate
  | moreSpecific
  | higherPriority
  | lowestId
  deriving DecidableEq

structure Candidate where
  policyId : String
  specificity : Nat
  priority : Int
  selected : Bool
  deriving DecidableEq

structure Selection where
  winner : Option String
  reason : Option PrecedenceReason
  candidates : List Candidate
  deriving DecidableEq

def Selection.none : Selection where
  winner := .none
  reason := .none
  candidates := []

/-- Validated policies, each filed under its own id. -/
structure PolicySet where
  policies : Table String DetectionPolicy
  filed : ∀ (id : String) (p : DetectionPolicy), policies[id]? = some p → p.id = id ∧ p.Accepted

def PolicySet.empty : PolicySet where
  policies := ∅
  filed := by simp

def PolicySet.get (s : PolicySet) (id : String) : Option DetectionPolicy := s.policies[id]?

def PolicySet.add (s : PolicySet) (p : ValidPolicy) : PolicySet where
  policies := s.policies.insert p.val.id p.val
  filed := by
    intro id q hq
    rw [get_insert] at hq
    split at hq
    · cases hq
      exact ⟨by assumption, p.property⟩
    · exact s.filed id q hq

def PolicySet.fromPolicies (policies : List ValidPolicy) : Except PolicyError PolicySet :=
  policies.foldlM (fun set policy =>
    if set.policies.contains policy.val.id then .error (.duplicateId policy.val.id)
    else .ok (set.add policy)) PolicySet.empty

/-- Best first: specificity, then priority, then the lower id. -/
def ranksBefore (a b : DetectionPolicy) : Bool :=
  if a.specificity ≠ b.specificity then decide (b.specificity < a.specificity)
  else if a.priority ≠ b.priority then decide (b.priority < a.priority)
  else decide (a.id ≤ b.id)

def PolicySet.candidates (s : PolicySet) (key : ScopeKey) : List DetectionPolicy :=
  ((s.policies.toList.map Prod.snd).filter fun p => p.matchesScope key).insertionSort
    fun a b => ranksBefore a b = true

def precedenceReason (winner : DetectionPolicy) : List DetectionPolicy → PrecedenceReason
  | [] => .onlyCandidate
  | runnerUp :: _ =>
    if winner.specificity ≠ runnerUp.specificity then .moreSpecific
    else if winner.priority ≠ runnerUp.priority then .higherPriority
    else .lowestId

def PolicySet.select (s : PolicySet) (key : ScopeKey) : Selection :=
  match s.candidates key with
  | [] => .none
  | winner :: rest =>
    { winner := some winner.id
      reason := some (precedenceReason winner rest)
      candidates := (winner :: rest).map fun p =>
        { policyId := p.id, specificity := p.specificity, priority := p.priority,
          selected := p.id == winner.id } }

def PolicySet.winnerFor (s : PolicySet) (key : ScopeKey) : Option DetectionPolicy :=
  (s.select key).winner.bind s.get

theorem mem_candidates :
    p ∈ s.candidates key ↔ s.get p.id = some p ∧ p.matchesScope key = true := by
  unfold PolicySet.candidates PolicySet.get
  rw [List.mem_insertionSort, List.mem_filter, List.mem_map]
  constructor
  · rintro ⟨⟨⟨id, q⟩, hmem, rfl⟩, hmatch⟩
    have hget := (mem_toList _ _ _).mp hmem
    rw [← (s.filed id q hget).1] at hget
    exact ⟨hget, hmatch⟩
  · rintro ⟨hget, hmatch⟩
    exact ⟨⟨(p.id, p), (mem_toList _ _ _).mpr hget, rfl⟩, hmatch⟩

theorem winnerFor_spec (h : s.winnerFor key = some p) :
    s.get p.id = some p ∧ p.matchesScope key = true ∧ p.Accepted := by
  unfold PolicySet.winnerFor PolicySet.select at h
  split at h
  · cases h
  · rename_i winner rest heq
    have hmem : winner ∈ s.candidates key := by rw [heq]; simp
    obtain ⟨hget, hmatch⟩ := mem_candidates.mp hmem
    simp only [Option.bind_some] at h
    rw [hget] at h
    cases h
    exact ⟨hget, hmatch, (s.filed _ _ hget).2⟩

end Tidegard.Detector.Precedence
