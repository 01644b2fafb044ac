import Tidegard.Actions
import Tidegard.Runs
import Tidegard.IncidentPostgres.Mitigation

set_option linter.dupNamespace false

namespace Tidegard.Mitigator.Service

open Actions Runs Common Incident.Basics Mitigation.Prefix Mitigation.Action Mitigation.Guard
open Mitigation.Mitigation (MitigationId MitigationRequest MitigationRecord
  MitigationState MitigationError WithdrawalCause)
open Route IncidentPostgres.Mitigation

/-- What people, and other processes, do through the store. -/
inductive Operation where
  | request (ctx : AuthorizationContext) (id : MitigationId) (request : MitigationRequest)
    (key : Option String)
  | propose (ctx : AuthorizationContext) (id : MitigationId) (request : MitigationRequest)
  | approve (ctx : AuthorizationContext) (id : MitigationId) (expectedVersion : Nat)
  | reject (ctx : AuthorizationContext) (id : MitigationId) (expectedVersion : Nat)
    (reason : String)
  | withdraw (ctx : AuthorizationContext) (id : MitigationId) (expectedVersion : Nat)
    (reason : String)
  | setKillSwitch (ctx : AuthorizationContext) (engaged : Bool) (reason : String)

/-- An operation, with the guard of the process that carries it out and the time. -/
structure Interference where
  guard : Guard
  now : Int
  operation : Operation

/-- The parts of the standard library and of the deployment that stay the same. -/
structure Setting where
  text : AddrText
  lower : String → String

def Interference.apply (setting : Setting) (db : Database) (i : Interference) : Database :=
  match i.operation with
  | .request ctx id request key =>
    (create i.guard setting.text.showAddr setting.lower ctx id request key false i.now db).2
  | .propose ctx id request =>
    (create i.guard setting.text.showAddr setting.lower ctx id request none true i.now db).2
  | .approve ctx id version => (IncidentPostgres.Mitigation.approve i.guard ctx id version i.now db).2
  | .reject ctx id version reason =>
    (IncidentPostgres.Mitigation.reject i.guard ctx id version reason i.now db).2
  | .withdraw ctx id version reason =>
    (IncidentPostgres.Mitigation.withdraw i.guard ctx id version reason i.now db).2
  | .setKillSwitch ctx engaged reason => (setKillSwitch ctx engaged reason i.now db).2

/-- How a call on the database is lost: before anything was written, or after. -/
inductive Fault where
  | before
  | after
  deriving DecidableEq

/-- What a pass meets: the store calls and the GoBGP calls are numbered from the start of the
pass. -/
structure World where
  now : Nat → Int
  others : Nat → List Interference := fun _ => []
  fault : Nat → Option Fault := fun _ => none
  newId : Nat → MitigationId := fun _ => ""
  incidents : List ProposalCandidate := []
  -- the error of a GoBGP call, when it fails
  refusal : Nat → Option String := fun _ => none
  paths : Except String (List Path) := .ok []

/-- A call on GoBGP, and the mitigation it is made for. -/
inductive Sent where
  | announce (record : MitigationRecord) (path : Path)
  | withdraw (record : Option MitigationRecord) (path : Path)
  deriving DecidableEq

/-- A call on GoBGP, with what the kill switch was at the store calls made before it. -/
structure Entry where
  sent : Sent
  switches : List Bool
  deriving DecidableEq

structure Session where
  db : Database
  accesses : Nat := 0
  switches : List Bool := []
  log : List Entry := []

inductive MitigatorError where
  | store (e : MitigationStoreError)
  | database
  | goBgp (detail : String)
  | noBgp
  deriving DecidableEq

/-- Text of the error, as far as it is recorded: only a refusal by GoBGP is. -/
def MitigatorError.text : MitigatorError → String
  | .goBgp detail => detail
  | _ => ""

abbrev Pass (α : Type) := Action (Setting × World) Session MitigatorError α

def Session.interfered (setting : Setting) (w : World) (s : Session) : Database :=
  (w.others s.accesses).foldl (Interference.apply setting) s.db

/-- One call on the store, after whatever the others did. -/
def access {α : Type} (call : Call α) : Pass α := fun (setting, w) s =>
  let db := s.interfered setting w
  let reached := { s with
    accesses := s.accesses + 1, switches := s.switches ++ [db.controls.engaged] }
  match w.fault s.accesses with
  | some .before => (.error (.store (.persist .database)), { reached with db })
  | some .after =>
    (.error (.store (.persist .database)), { reached with db := (call (w.now s.accesses) db).2 })
  | none =>
    let answer := call (w.now s.accesses) db
    (match answer.1 with
      | .ok a => .ok a
      | .error e => .error (.store e), { reached with db := answer.2 })

def send (sent : Sent) : Pass Unit := fun (_, w) s =>
  (match w.refusal s.log.length with
    | none => .ok ()
    | some detail => .error (.goBgp detail),
    { s with log := s.log ++ [⟨sent, s.switches⟩] })

structure ProposalPolicy where
  enabled : Bool := false
  durationSeconds : Nat := 1800
  deriving DecidableEq

/-- A connection to GoBGP is held exactly when BGP is enabled. -/
structure Mitigator where
  consumerId : String
  guard : Guard
  routes : RouteConfig
  proposals : ProposalPolicy := {}
  gobgp : Bool
  connected : gobgp = guard.config.bgpEnabled

def batch : Nat := 500

def mitigatorContext (tenant : TenantId) (consumerId : String) : AuthorizationContext where
  tenant := tenant
  actor := .serviceAccount consumerId
  granted := [.incidentRead, .mitigationRead, .mitigationPropose, .mitigationExecute]

namespace Mitigator

def dryRun (m : Mitigator) : Bool := m.guard.effectiveDryRun || !m.gobgp

def context (m : Mitigator) (record : MitigationRecord) : AuthorizationContext :=
  mitigatorContext record.tenant m.consumerId

structure Report where
  announced : Nat := 0
  dryRun : Nat := 0
  withdrawn : Nat := 0
  failed : Nat := 0
  expired : Nat := 0
  proposed : Nat := 0
  refused : Nat := 0
  errors : Nat := 0
  killSwitch : Bool
  deriving DecidableEq

def live (m : Mitigator) : Pass Unit :=
  if m.gobgp then pure () else Action.throw .noBgp

def sendAnnouncement (m : Mitigator) (record : MitigationRecord) : Pass Unit := fun env s =>
  send (.announce record (announcement env.1.text record.target record.action m.routes)) env s

def sendWithdrawal (record : Option MitigationRecord) (target : Prefix)
    (action : Mitigation.Action.Action) : Pass Unit := fun env s =>
  send (.withdraw record (withdrawal env.1.text target action)) env s

variable (m : Mitigator)

/-- The guard refused as announcing would begin. -/
def failRefused (record : MitigationRecord) (refusal : GuardRefusal) :
    Pass MitigationRecord := fun env s =>
  access (markFailed m.guard (m.context record) record.id
    ("refused by the guard: " ++ refusal.text env.1.text.showAddr)) env s

/-- Send the route of a mitigation that has just begun announcing. -/
def announceLive (record : MitigationRecord) (report : Report) : Pass Report := do
  m.live
  match ← (m.sendAnnouncement record).attempt with
  | .ok () =>
    let _ ← access (markActive m.guard (m.context record) record.id)
    return { report with announced := report.announced + 1 }
  | .error e =>
    -- take down anything partial before giving up on it
    let _ ← (sendWithdrawal (some record) record.target record.action).attempt
    let _ ← access (markFailed m.guard (m.context record) record.id e.text)
    return { report with failed := report.failed + 1 }

def announce (record : MitigationRecord) (report : Report) : Pass Report := do
  match ← (access (beginAnnouncing m.guard (m.context record) record.id m.dryRun)).attempt with
  | .ok _ =>
    if m.dryRun then do
      let _ ← access (markActive m.guard (m.context record) record.id)
      return { report with dryRun := report.dryRun + 1 }
    else m.announceLive record report
  -- the configuration changed since approval: it ends here
  | .error (.store (.mitigation (.refused refusal))) => do
    let _ ← m.failRefused record refusal
    return { report with refused := report.refused + 1 }
  | .error e => Action.throw e

def takeDown (record : MitigationRecord) (report : Report) : Pass Report := do
  if record.state = .withdrawn then
    return { report with withdrawn := report.withdrawn + 1 }
  else
    -- a dry-run mitigation has nothing in GoBGP to take down
    if record.dryRun = some false then
      m.live
      sendWithdrawal (some record) record.target record.action
    let _ ← access (markWithdrawn m.guard (m.context record) record.id)
    return { report with withdrawn := report.withdrawn + 1 }

def bringDown (record : MitigationRecord) (cause : WithdrawalCause) (report : Report) :
    Pass Report := do
  let down ← access (beginWithdrawal m.guard (m.context record) record.id cause)
  m.takeDown down report

/-- Left half-way by a restart: finish announcing. -/
def resume (record : MitigationRecord) (report : Report) : Pass Report := do
  if record.dryRun = some false then
    m.live
    m.sendAnnouncement record
  let _ ← access (markActive m.guard (m.context record) record.id)
  return report

def step (item : WorkItem) (killSwitch : Bool) (report : Report) : Pass Report :=
  let record := item.record
  match record.state with
  | .proposed | .requested =>
    if item.approvalExpired then do
      let _ ← access (expire m.guard (m.context record) record.id)
      return { report with expired := report.expired + 1 }
    else pure report
  | .approved =>
    if killSwitch then do
      let _ ← access (beginWithdrawal m.guard (m.context record) record.id .killSwitch)
      return { report with withdrawn := report.withdrawn + 1 }
    else m.announce record report
  | .announcing =>
    if killSwitch then m.bringDown record .killSwitch report else m.resume record report
  | .active =>
    if killSwitch then m.bringDown record .killSwitch report
    else if item.durationReached then m.bringDown record .durationReached report
    else pure report
  | .withdrawing => m.takeDown record report
  | _ => pure report

/-- A step that fails is counted and tried again in the next pass. -/
def steps (killSwitch : Bool) : List WorkItem → Report → Pass Report
  | [], report => pure report
  | item :: items, report => do
    match ← (m.step item killSwitch report).attempt with
    | .ok report => steps killSwitch items report
    | .error .database => return { report with errors := report.errors + 1 }
    | .error _ => steps killSwitch items { report with errors := report.errors + 1 }

def proposal (c : ProposalCandidate) (showAddr : IpAddr → String) : MitigationRequest where
  target := c.target
  action := .rtbh
  reason := "proposed for a " ++ c.severity ++ " incoming attack on " ++ c.target.toText showAddr
  duration := fromSecs m.proposals.durationSeconds
  incidentId := some c.incidentId

/-- The store call that proposes a mitigation, under the next generated id. -/
def proposeOne (c : ProposalCandidate) : Pass MitigationRecord := fun env s =>
  access (create m.guard env.1.text.showAddr env.1.lower (mitigatorContext c.tenant m.consumerId)
    (env.2.newId s.accesses) (m.proposal c env.1.text.showAddr) none true) env s

def proposeAll : List ProposalCandidate → Report → Pass Report
  | [], report => pure report
  | c :: cs, report =>
    -- outside the allowlist there is nothing to propose
    match m.guard.check c.tenant c.target .rtbh (fromSecs m.proposals.durationSeconds) false with
    | .error _ => proposeAll cs report
    | .ok () => do
      match ← (m.proposeOne c).attempt with
      | .ok _ => proposeAll cs { report with proposed := report.proposed + 1 }
      -- someone already asked for the same thing
      | .error (.store (.mitigation .duplicate)) => proposeAll cs report
      | .error e => Action.throw e

def propose (report : Report) : Pass Report := fun env s =>
  (access (proposalCandidates env.2.incidents batch) >>= fun cs => m.proposeAll cs report) env s

/-- One pass over every live mitigation, then proposals. -/
def runOnce : Pass Report := do
  let switch ← access killSwitch
  let report : Report := { killSwitch := switch.engaged || m.guard.config.killSwitch }
  let work ← access (work m.guard batch)
  let done ← m.steps report.killSwitch work report
  if m.proposals.enabled && !report.killSwitch then m.propose done else pure done

structure ReconcileReport where
  owned : Nat
  staleWithdrawn : Nat
  restored : Nat
  deriving DecidableEq

/-- The paths GoBGP lists that carry the ownership community, read back. -/
def ownedRoutes : Pass (List OwnedRoute) := fun env s =>
  (match env.2.paths with
    | .error detail => .error (.goBgp detail)
    | .ok paths =>
      match (paths.filter fun path => isOwned path m.routes).mapM (readBack env.1.text) with
      | .error detail => .error (.goBgp detail)
      | .ok routes => .ok routes, s)

/-- Only routes that were really sent should be in GoBGP. -/
def claims (record : MitigationRecord) : Bool :=
  (record.state = .announcing || record.state = .active) && record.dryRun = some false

def withdrawStale (claimed : List String) : List OwnedRoute → Pass Nat
  | [] => pure 0
  | route :: routes => do
    if claimed.contains route.key then withdrawStale claimed routes
    else
      sendWithdrawal none route.target route.action
      let count ← withdrawStale claimed routes
      return count + 1

def restore (showAddr : IpAddr → String) (owned : List String) :
    List MitigationRecord → Pass Nat
  | [] => pure 0
  | record :: records => do
    if record.state = .active && !owned.contains (record.duplicateKey showAddr) then
      m.sendAnnouncement record
      let count ← restore showAddr owned records
      return count + 1
    else restore showAddr owned records

def settle (claimed : List MitigationRecord) (owned : List OwnedRoute)
    (showAddr : IpAddr → String) : Pass ReconcileReport := do
  let stale ← withdrawStale (claimed.map (MitigationRecord.duplicateKey showAddr)) owned
  let restored ← m.restore showAddr (owned.map OwnedRoute.key) claimed
  return { owned := owned.length - stale + restored, staleWithdrawn := stale, restored }

def compareRoutes (claimed : List MitigationRecord) (owned : List OwnedRoute) :
    Pass ReconcileReport := fun env s =>
  m.settle claimed owned env.1.text.showAddr env s

/-- Withdraws what nothing claims and restores what is missing. -/
def reconcile : Pass ReconcileReport := do
  let work ← access (work m.guard batch)
  m.live
  let owned ← m.ownedRoutes
  m.compareRoutes ((work.map WorkItem.record).filter claims) owned

end Mitigator

/-- Between passes the process may have been restarted with another configuration. -/
inductive Event where
  | runOnce (m : Mitigator) (w : World)
  | reconcile (m : Mitigator) (w : World)
  | other (i : Interference)

/-- What an event sends to GoBGP, and the tables it leaves. -/
def machine (setting : Setting) : Machine Database Event (List Entry) where
  step db
    | .runOnce m w =>
      let s := (m.runOnce (setting, w) { db }).2
      (s.log, s.db)
    | .reconcile m w =>
      let s := (m.reconcile (setting, w) { db }).2
      (s.log, s.db)
    | .other i => ([], i.apply setting db)

end Tidegard.Mitigator.Service
