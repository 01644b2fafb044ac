import Tidegard.Runs
import Tidegard.Detector.State

namespace Tidegard.Detector.Lifecycle

open Runs Common Input Policy Evaluate State

/-- The operations of the state table. -/
inductive Op where
  | step (policy : ValidPolicy) (snapshot : DetectionSnapshot)
  | manualReset (key : ScopeKey) (now : Nat) (wall : Int)
  | sweep (now : Nat) (wall : Int)
  | withdrawStaleSelection (now : Nat) (wall : Int) (winner : ScopeKey → Option (String × Nat))

abbrev Emission := Signal × Option DetectionContext

def expiryEmission (x : Expiry) : Option (ScopeKey × Emission) :=
  x.signal.map fun signal => (x.key, signal, x.detection)

/-- One operation, and the signals it produces by scope. -/
def perform (t : StateTable) : Op → List (ScopeKey × Emission) × StateTable
  | .step policy snapshot =>
    let answer := t.step policy snapshot (evaluate policy snapshot)
    (answer.1.signal.toList.map fun r => (snapshot.key, r.signal, some r.detection), answer.2)
  | .manualReset key now wall =>
    let answer := t.manualReset key now wall
    ((answer.1.bind Prod.snd).toList.map fun c => (key, .ended, some c), answer.2)
  | .sweep now wall =>
    let answer := t.sweep now wall
    (answer.1.filterMap expiryEmission, answer.2)
  | .withdrawStaleSelection now wall winner =>
    let answer := t.withdrawStaleSelection now wall winner
    (answer.1.filterMap expiryEmission, answer.2)

def tableMachine : Machine StateTable Op (List (ScopeKey × Emission)) := ⟨perform⟩

def forKey (key : ScopeKey) (out : List (ScopeKey × Emission)) : List Emission :=
  out.filterMap fun e => if e.1 = key then some e.2 else none

def emitted (key : ScopeKey)
    (past : List (Step StateTable Op (List (ScopeKey × Emission)))) : List Emission :=
  past.flatMap fun st => forKey key st.output

/-- The instant an operation presents to a scope, if it concerns that scope. -/
def Op.presents (key : ScopeKey) : Op → Option Nat
  | .step _ snapshot => if snapshot.key = key then some snapshot.observedAt else none
  | .manualReset k now _ => if k = key then some now else none
  | .sweep now _ => some now
  | .withdrawStaleSelection now _ _ => some now

/-- One detection: when it started and what it reported. -/
structure Detection where
  startedAt : Nat
  events : List Emission

/-- Every event carries the same start, and the position it was reported at for as long as the
counter can hold it. -/
def Detection.Numbered (d : Detection) : Prop :=
  ∀ i em, d.events[i]? = some em →
    ∃ c, em.2 = some c ∧ c.startedAt = d.startedAt ∧ c.sequence = min i u64Max

def Detection.Ongoing (d : Detection) : Prop :=
  (∃ n, d.events.map Prod.fst = .started :: List.replicate n .updated) ∧ d.Numbered

def Detection.Completed (d : Detection) : Prop :=
  (∃ n, d.events.map Prod.fst = .started :: List.replicate n .updated ++ [.ended]) ∧ d.Numbered

/-- Whether a scope's entry is in one of the open states. -/
def openAt (t : StateTable) (key : ScopeKey) : Bool :=
  t.entries[key]?.any fun e => e.state.isOpen

end Tidegard.Detector.Lifecycle
