import Tidegard.Detector.Config
import Tidegard.Detector.Proofs.Ladder

namespace Tidegard.Detector.Proofs.Documents

open List Fallible Tables Text Common Input Policy Precedence Config Ladder

variable {id : String} {debug : String → String}
variable {p : DetectionPolicy}
/-- A whole number of milliseconds that fits a `u64`: what a document can write. -/
def Denotable (duration : Nat) : Prop := ∃ millis ≤ u64Max, duration = fromMillis millis

theorem isWhitespace_of_isDigit (h : c.isDigit = true) : isWhitespace c = false := by
  simp only [Char.isDigit, Bool.and_eq_true, decide_eq_true_eq, ge_iff_le] at h
  obtain ⟨h₁, h₂⟩ := h
  have hlow : 48 ≤ c.toNat := by simpa using UInt32.le_iff_toNat_le.mp h₁
  have hhigh : c.toNat ≤ 57 := by simpa using UInt32.le_iff_toNat_le.mp h₂
  simp [isWhitespace]
  omega

/-- Nothing is trimmed off a text that starts and ends with something to see. -/
theorem trim_of_ends (hfirst : isWhitespace first = false) (hlast : isWhitespace last = false) :
    trim (String.ofList (first :: (middle ++ [last]))) =
      String.ofList (first :: (middle ++ [last])) := by
  unfold trim
  rw [String.toList_ofList, dropWhile_cons_of_neg (by simp [hfirst]), reverse_cons,
    reverse_append, reverse_singleton, singleton_append, cons_append,
    dropWhile_cons_of_neg (by simp [hlast])]
  simp

/-- The spelling of a number and a unit. -/
def spelled (n : Nat) (unit : String) : String := toString n ++ unit

theorem toList_spelled (n : Nat) (unit : String) :
    (spelled n unit).toList = Nat.toDigits 10 n ++ unit.toList := by
  simp [spelled, Nat.toString_eq_repr, Nat.toList_repr]

theorem splitDigits_spelled (n : Nat)
    (hunit : ∃ c rest, unit.toList = c :: rest ∧ c.isDigit = false) :
    splitDigits (spelled n unit) = (Nat.toDigits 10 n, unit) := by
  obtain ⟨c, rest, hcons, hc⟩ := hunit
  have hall : ∀ d ∈ Nat.toDigits 10 n, d.isDigit = true := fun d hd => isDigit_toDigits hd
  unfold splitDigits
  rw [toList_spelled, takeWhile_append_of_pos hall, dropWhile_append_of_pos hall, hcons,
    takeWhile_cons_of_neg (by simp [hc]), dropWhile_cons_of_neg (by simp [hc]), ← hcons]
  simp

/-- A unit that a spelling may end with: it starts with no digit and ends with no blank. -/
structure IsUnit (unit : String) : Prop where
  start : ∃ c rest, unit.toList = c :: rest ∧ c.isDigit = false
  stop : ∃ rest c, unit.toList = rest ++ [c] ∧ isWhitespace c = false

theorem trim_spelled (n : Nat) (hunit : IsUnit unit) : trim (spelled n unit) = spelled n unit := by
  obtain ⟨rest, c, hlast, hc⟩ := hunit.stop
  cases hdigits : Nat.toDigits 10 n with
  | nil => exact absurd hdigits Nat.toDigits_ne_nil
  | cons d ds =>
    have hd : d.isDigit = true := isDigit_toDigits (n := n) (by rw [hdigits]; simp)
    have hlist : (spelled n unit).toList = d :: ((ds ++ rest) ++ [c]) := by
      rw [toList_spelled, hdigits, hlast]
      simp
    rw [← String.ofList_toList (s := spelled n unit), hlist]
    exact trim_of_ends (isWhitespace_of_isDigit hd) hc

theorem parseDuration_spelled (debug : String → String) (hunit : IsUnit unit)
    (hsize : durationUnit debug unit = .ok size) (hpos : 0 < size) (hfits : n * size ≤ u64Max) :
    parseDuration debug (spelled n unit) = .ok (fromMillis (n * size)) := by
  have hsplit := splitDigits_spelled n hunit.start
  have hn : n ≤ u64Max := (Nat.le_mul_of_pos_right n hpos).trans hfits
  have hempty : spelled n unit ≠ "" := by
    intro h
    have := congrArg String.toList h
    rw [toList_spelled] at this
    exact Nat.toDigits_ne_nil (List.append_eq_nil_iff.mp this).1
  have hunitne : unit ≠ "" := by
    rintro rfl
    obtain ⟨c, rest, h, -⟩ := hunit.start
    cases h
  unfold parseDuration
  rw [trim_spelled n hunit]
  dsimp only
  rw [if_neg hempty, hsplit, if_neg hunitne]
  unfold scaled
  rw [hsplit]
  dsimp only
  rw [if_neg (by simp [Nat.toDigits_ne_nil]), parseDigits_toDigits hn]
  dsimp only
  rw [hsize, ok_bind, if_pos hfits]
  rfl

theorem isUnit_of_mem (h : (unit, size) ∈ renderUnits ++ [("ms", 1)]) :
    IsUnit unit ∧ (∀ debug, durationUnit debug unit = .ok size) ∧ 0 < size := by
  simp only [renderUnits, cons_append, nil_append, mem_cons, Prod.mk.injEq,
    not_mem_nil, or_false] at h
  rcases h with ⟨rfl, rfl⟩ | ⟨rfl, rfl⟩ | ⟨rfl, rfl⟩ | ⟨rfl, rfl⟩ | ⟨rfl, rfl⟩
  · exact ⟨⟨⟨'d', [], rfl, rfl⟩, ⟨[], 'd', rfl, rfl⟩⟩, fun _ => rfl, by decide⟩
  · exact ⟨⟨⟨'h', [], rfl, rfl⟩, ⟨[], 'h', rfl, rfl⟩⟩, fun _ => rfl, by decide⟩
  · exact ⟨⟨⟨'m', [], rfl, rfl⟩, ⟨[], 'm', rfl, rfl⟩⟩, fun _ => rfl, by decide⟩
  · exact ⟨⟨⟨'s', [], rfl, rfl⟩, ⟨[], 's', rfl, rfl⟩⟩, fun _ => rfl, by decide⟩
  · exact ⟨⟨⟨'m', ['s'], rfl, rfl⟩, ⟨['m'], 's', rfl, rfl⟩⟩, fun _ => rfl, by decide⟩

theorem renderDuration_millis (h : duration / 1000000 = millis) :
    renderDuration duration =
      match renderUnits.find? fun u => millis ≠ 0 && millis % u.2 == 0 with
      | some (unit, size) => spelled (millis / size) unit
      | none => spelled millis "ms" := by
  subst h
  rfl

theorem renderDuration_spelled (millis : Nat) :
    ∃ n unit size, (unit, size) ∈ renderUnits ++ [("ms", 1)] ∧ n * size = millis ∧
      renderDuration (fromMillis millis) = spelled n unit := by
  have hmillis : fromMillis millis / 1000000 = millis := by
    unfold fromMillis
    omega
  rw [renderDuration_millis hmillis]
  split
  · rename_i unit size hfind
    have hmem := List.mem_of_find?_eq_some hfind
    have hexact := List.find?_some hfind
    simp only [Bool.and_eq_true, beq_iff_eq] at hexact
    refine ⟨millis / size, unit, size, mem_append_left _ hmem, ?_, rfl⟩
    exact Nat.div_mul_cancel (Nat.dvd_of_mod_eq_zero hexact.2)
  · exact ⟨millis, "ms", 1, by simp, Nat.mul_one _, rfl⟩

theorem parse_renderDuration (debug : String → String) (h : Denotable duration) :
    parseDuration debug (renderDuration duration) = .ok duration := by
  obtain ⟨millis, hfits, rfl⟩ := h
  obtain ⟨n, unit, size, hmem, hexact, hspelled⟩ := renderDuration_spelled millis
  obtain ⟨hunit, hsize, hpos⟩ := isUnit_of_mem hmem
  rw [hspelled, ← hexact]
  exact parseDuration_spelled debug hunit (hsize debug) hpos (hexact ▸ hfits)

theorem parseDuration_denotable (h : parseDuration debug text = .ok duration) :
    Denotable duration := by
  unfold parseDuration at h
  dsimp only at h
  split at h
  · cases h
  split at h
  · cases h
  obtain ⟨millis, hscaled, h⟩ := bind_eq_ok.mp h
  cases h
  refine ⟨millis, ?_, rfl⟩
  unfold scaled at hscaled
  dsimp only at hscaled
  split at hscaled
  · cases hscaled
  split at hscaled
  · cases hscaled
  · obtain ⟨multiplier, -, hscaled⟩ := bind_eq_ok.mp hscaled
    split at hscaled
    · cases hscaled
      assumption
    · cases hscaled

/-- The draft that says what the policy says. -/
def draftOf (p : DetectionPolicy) : PolicyDraft where
  id := p.id
  name := p.name
  description := p.description
  enabled := p.enabled
  tenant := p.tenant
  scopeType := p.scopeType
  selector := p.selector
  addressFamily := p.addressFamily
  direction := p.direction
  window := p.window
  thresholds := p.thresholds
  clearPercent := p.clearPercent.percent
  triggerFor := p.triggerFor
  clearFor := p.clearFor
  cooldown := p.cooldown
  holdDown := p.holdDown
  eventUpdateInterval := p.eventUpdateInterval
  severity := p.severity
  executionMode := p.executionMode
  priority := p.priority
  labels := p.labels
  version := p.version

theorem validateClearPercent_ok
    (h : validateClearPercent id percent = .ok c) : c.percent = percent := by
  unfold validateClearPercent ClearPercent.new at h
  split at h
  · rename_i c' hc
    split at hc
    · cases hc
      cases h
      rfl
    · cases hc
  · cases h

theorem validate_ok (h : d.validate tenantPrefixes = .ok p) :
    d = draftOf p ∧ d.validate ∅ = .ok p := by
  have hpasses := validate_eq_ok.mp h
  refine ⟨?_, validate_eq_ok.mpr { hpasses with ownership := rfl }⟩
  rw [hpasses.policy]
  unfold draftOf
  rw [validateClearPercent_ok hpasses.clearPercent]

/-- The policy's durations are ones a document can write. -/
structure DenotableTimes (d : PolicyDraft) : Prop where
  window : Denotable d.window
  triggerFor : Denotable d.triggerFor
  clearFor : Denotable d.clearFor
  cooldown : Denotable d.cooldown
  holdDown : Denotable d.holdDown
  eventUpdateInterval : Denotable d.eventUpdateInterval

theorem durationField_denotable (h : durationField debug id field text = .ok duration) :
    Denotable duration := parseDuration_denotable (mapError_eq_ok.mp h)

theorem optionalField_denotable (habsent : Denotable absent)
    (h : optionalField debug id field own fallback absent = .ok duration) : Denotable duration := by
  unfold optionalField at h
  split at h
  · exact durationField_denotable h
  · cases h
    exact habsent

theorem toDraft_denotable {e : PolicyEntry} (h : e.toDraft debug defaults = .ok d) :
    DenotableTimes d := by
  have hzero : Denotable 0 := ⟨0, Nat.zero_le _, rfl⟩
  have hminute : Denotable (fromSecs 60) := ⟨60000, by decide, rfl⟩
  simp only [PolicyEntry.toDraft, bind_eq_ok, pure_eq_ok] at h
  obtain ⟨_, _, _, hwindow, _, htrigger, _, hclear, _, hcooldown, _, hhold, _, hupdate, rfl⟩ := h
  exact ⟨durationField_denotable hwindow, durationField_denotable htrigger,
    durationField_denotable hclear, optionalField_denotable hzero hcooldown,
    optionalField_denotable hzero hhold, optionalField_denotable hminute hupdate⟩

section

variable (debug : String → String)

theorem durationField_render (id field : String) (h : Denotable duration) :
    durationField debug id field (renderDuration duration) = .ok duration := by
  unfold durationField
  rw [parse_renderDuration debug h]
  rfl

theorem optionalField_render (id field : String)
    (fallback : Option String) (absent : Nat) (h : Denotable duration) :
    optionalField debug id field (some (renderDuration duration)) fallback absent =
      .ok duration := durationField_render debug id field h

theorem resolveThresholds_render (id : String)
    (thresholds : Thresholds) :
    resolveThresholds debug id (thresholds.map fun _ value => Magnitude.number value) =
      .ok thresholds := by
  have hfold {f : Thresholds → MetricKind × Magnitude → Except ConfigError Thresholds}
      (hf : ∀ t metric value, f t (metric, .number value) = .ok (t.insert metric value))
      (l : List (MetricKind × Nat)) (t : Thresholds) :
      (l.map fun e => (e.1, Magnitude.number e.2)).foldlM f t =
        .ok (l.foldl (fun t e => t.insert e.1 e.2) t) := by
    induction l generalizing t with
    | nil => rfl
    | cons e l ih =>
      rw [map_cons, foldlM_cons, hf, ok_bind, ih]
      rfl
  unfold resolveThresholds
  rw [Std.ExtTreeMap.toList_map]
  exact (hfold (fun _ _ _ => rfl) _ _).trans (congrArg _ (foldl_insert_toList thresholds))

theorem toDraft_render (defaults : PolicyDefaults)
    (h : DenotableTimes (draftOf p)) :
    (renderPolicy p).toDraft debug defaults = .ok (draftOf p) := by
  simp only [PolicyEntry.toDraft, bind_eq_ok, pure_eq_ok]
  exact ⟨_, resolveThresholds_render debug p.id p.thresholds,
    _, durationField_render debug p.id "window" h.window,
    _, durationField_render debug p.id "triggerFor" h.triggerFor,
    _, durationField_render debug p.id "clearFor" h.clearFor,
    _, optionalField_render debug p.id "cooldown" _ _ h.cooldown,
    _, optionalField_render debug p.id "holdDown" _ _ h.holdDown,
    _, optionalField_render debug p.id "eventUpdateInterval" _ _ h.eventUpdateInterval, rfl⟩

end

/-- What a compiled policy has that makes its rendering compile again. -/
structure Renderable (p : DetectionPolicy) : Prop where
  times : DenotableTimes (draftOf p)
  accepted : (draftOf p).validate ∅ = .ok p

theorem validated_ok (h : validated d tenantPrefixes = .ok v) :
    d.validate tenantPrefixes = .ok v.val := by
  unfold validated at h
  split at h
  · rename_i p hp
    cases h
    exact hp
  · cases h

theorem validated_of_ok (h : d.validate tenantPrefixes = .ok p) :
    validated d tenantPrefixes = .ok ⟨p, d, tenantPrefixes, h⟩ := by
  unfold validated
  split
  · rename_i q hq
    cases h.symm.trans hq
    rfl
  · rename_i e he
    cases h.symm.trans he

theorem compileEntries_ok {seen : List String} {entries : List PolicyEntry}
    {policies : List ValidPolicy}
    (h : compileEntries debug defaults tenantPrefixes seen entries = .ok policies) :
    (∀ v ∈ policies, Renderable v.val ∧ v.val.id ∉ seen) ∧ DistinctIds policies := by
  induction entries generalizing seen policies with
  | nil =>
    cases h
    exact ⟨by simp, nodup_nil⟩
  | cons entry rest ih =>
    unfold compileEntries at h
    split at h
    · cases h
    · rename_i hfresh
      simp only [bind_eq_ok, pure_eq_ok] at h
      obtain ⟨d, hdraft, v, hv, others, hrest, rfl⟩ := h
      obtain ⟨hall, hdistinct⟩ := ih hrest
      have hvalid := validated_ok (mapError_eq_ok.mp hv)
      obtain ⟨hd, hagain⟩ := validate_ok hvalid
      have htimes := toDraft_denotable hdraft
      have hid : v.val.id = entry.id := by
        simp only [PolicyEntry.toDraft, bind_eq_ok, pure_eq_ok] at hdraft
        obtain ⟨_, _, _, _, _, _, _, _, _, _, _, _, _, _, hentry⟩ := hdraft
        rw [hd] at hentry
        exact (congrArg PolicyDraft.id hentry).symm
      rw [hd] at htimes hagain
      refine ⟨fun w hw => ?_, ?_⟩
      · rcases List.mem_cons.mp hw with rfl | hw
        · exact ⟨⟨htimes, hagain⟩, hid ▸ hfresh⟩
        · obtain ⟨hrender, hnot⟩ := hall w hw
          exact ⟨hrender, fun hseen => hnot (mem_cons_of_mem _ hseen)⟩
      · refine List.nodup_cons.mpr ⟨fun hmem => ?_, hdistinct⟩
        obtain ⟨w, hw, heq⟩ := List.mem_map.mp hmem
        have hsame : w.val.id = entry.id := heq.trans hid
        refine (hall w hw).2 ?_
        rw [hsame]
        exact mem_cons_self

theorem compileEntries_render (debug : String → String) (defaults : PolicyDefaults)
    (seen : List String) (h : ∀ p ∈ policies, Renderable p)
    (hdistinct : (policies.map (·.id)).Nodup) (hfresh : ∀ p ∈ policies, p.id ∉ seen) :
    ∃ compiled, compileEntries debug defaults ∅ seen (policies.map renderPolicy) = .ok compiled ∧
      compiled.map Subtype.val = policies := by
  induction policies generalizing seen with
  | nil => exact ⟨[], rfl, rfl⟩
  | cons p rest ih =>
    rw [map_cons, nodup_cons] at hdistinct
    have hp := h p mem_cons_self
    obtain ⟨compiled, hcompiled, hval⟩ := ih (p.id :: seen)
      (fun q hq => h q (mem_cons_of_mem _ hq)) hdistinct.2 (by
        intro q hq hmem
        rcases List.mem_cons.mp hmem with heq | hmem
        · exact hdistinct.1 (List.mem_map.mpr ⟨q, hq, heq⟩)
        · exact hfresh q (mem_cons_of_mem _ hq) hmem)
    refine ⟨⟨p, draftOf p, ∅, hp.accepted⟩ :: compiled, ?_, congrArg (p :: ·) hval⟩
    have hnew : (renderPolicy p).id ∉ seen := hfresh p mem_cons_self
    rw [map_cons]
    unfold compileEntries
    rw [if_neg hnew, toDraft_render debug defaults hp.times, ok_bind,
      validated_of_ok hp.accepted]
    change (compileEntries debug defaults ∅ (p.id :: seen) (rest.map renderPolicy) >>= _ :
      Except ConfigError _) = _
    rw [hcompiled]
    rfl

theorem mem_iter {s : PolicySet} : p ∈ iter s ↔ s.get p.id = some p := by
  unfold Config.iter PolicySet.get
  rw [mem_map]
  constructor
  · rintro ⟨⟨id, q⟩, hmem, rfl⟩
    have hget := (mem_toList _ _ _).mp hmem
    rwa [← (s.filed id q hget).1] at hget
  · exact fun hget => ⟨(p.id, p), (mem_toList _ _ _).mpr hget, rfl⟩

theorem iter_distinct (s : PolicySet) : ((iter s).map (·.id)).Nodup := by
  unfold Config.iter
  rw [map_map]
  have hkeys : s.policies.toList.map ((·.id) ∘ Prod.snd) = s.policies.toList.map Prod.fst := by
    refine map_congr_left fun e he => ?_
    exact (s.filed e.1 e.2 ((mem_toList _ _ _).mp he)).1
  rw [hkeys]
  exact (toList_pairwise s.policies).map _ fun _ _ hne => hne

/-- Rendering what a document compiled to, and compiling that under any defaults, gives the same
set of policies. What is rendered of a duration is read back as it was, for every duration that a
document can write. -/
theorem compile_toDocument (reading : Reading) {doc : PolicyDocument} {c : CompiledPolicies}
    (h : doc.compile reading = .ok c) :
    (∀ defaults, ∃ c', PolicyDocument.compile reading
        { toDocument (iter c.policies) with defaults := defaults } = .ok c' ∧
      c'.policies = c.policies) ∧
    (∀ text duration, parseDuration reading.debug text = .ok duration →
      parseDuration reading.debug (renderDuration duration) = .ok duration) := by
  refine ⟨fun defaults => ?_, fun text duration hd =>
    parse_renderDuration reading.debug (parseDuration_denotable hd)⟩
  simp only [PolicyDocument.compile, bind_eq_ok, pure_eq_ok] at h
  obtain ⟨tenantPrefixes, -, policies, hpolicies, s, hs, rfl⟩ := h
  obtain ⟨hall, hdistinct⟩ := compileEntries_ok hpolicies
  obtain ⟨s', hs', hget⟩ := fromPolicies_ok hdistinct
  cases hs'.symm.trans (mapError_eq_ok.mp hs)
  have hrender : ∀ p ∈ iter s, Renderable p := by
    intro p hp
    obtain ⟨v, hv, rfl, -⟩ := (hget p.id p).mp (mem_iter.mp hp)
    exact (hall v hv).1
  obtain ⟨compiled, hcompiled, hval⟩ := compileEntries_render reading.debug defaults []
    hrender (iter_distinct s) (by simp)
  have hagain : DistinctIds compiled := by
    have hids := iter_distinct s
    rw [← hval, map_map] at hids
    exact hids
  obtain ⟨t, ht, hget'⟩ := fromPolicies_ok hagain
  refine ⟨⟨t, ∅⟩, ?_, ?_⟩
  · simp only [PolicyDocument.compile, bind_eq_ok, pure_eq_ok]
    exact ⟨∅, rfl, compiled, hcompiled, t, by rw [ht]; rfl, rfl⟩
  · refine policySet_ext fun id => Option.ext fun p => ?_
    rw [hget']
    constructor
    · rintro ⟨v, hv, rfl, rfl⟩
      refine mem_iter.mp ?_
      rw [← hval]
      exact mem_map_of_mem hv
    · intro hp
      have hid : p.id = id := (s.filed id p hp).1
      have hmem : p ∈ compiled.map Subtype.val := by
        rw [hval, mem_iter, hid]
        exact hp
      obtain ⟨v, hv, rfl⟩ := List.mem_map.mp hmem
      exact ⟨v, hv, rfl, hid⟩

/-- Ten gigabits to any host, with a cooldown from the defaults. -/
def sampleDocument : PolicyDocument where
  schemaVersion := policySchemaVersion
  defaults := { cooldown := some "90m" }
  tenants := []
  policies := [{
    id := "flood"
    name := "flood"
    description := none
    enabled := true
    tenant := "t"
    scopeType := .host
    selector := .any
    addressFamily := none
    direction := .incoming
    window := "5s"
    thresholds := (∅ : Table MetricKind Magnitude).insert .bps (.text "10G")
    clearPercent := none
    triggerFor := " 7500ms "
    clearFor := "1m"
    cooldown := none
    holdDown := none
    eventUpdateInterval := none
    severity := none
    executionMode := none
    priority := 0
    labels := ∅
    version := 1 }]

def sampleReading : Reading where
  parseAddr _ := none
  debug text := text

theorem compile_toDocument_sample :
    ∃ c, sampleDocument.compile sampleReading = .ok c ∧
      ∃ c', (toDocument (iter c.policies)).compile sampleReading = .ok c' ∧
        c'.policies = c.policies := by
  have hok : (sampleDocument.compile sampleReading).isOk = true := by decide +kernel
  cases h : sampleDocument.compile sampleReading with
  | error e =>
    rw [h] at hok
    cases hok
  | ok c => exact ⟨c, rfl, (compile_toDocument sampleReading h).1 {}⟩

end Tidegard.Detector.Proofs.Documents
