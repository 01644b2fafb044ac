import Tidegard.Addresses
import Tidegard.Masks
import Tidegard.Detector.Config

namespace Tidegard.Detector.Proofs.Ownership

open Fallible Tables Masks Common Addresses Policy Config

variable {len : Nat} {addr : IpAddr} {prefixes : TenantPrefixes}
variable {reading : Reading}

theorem leadingBits_eq (hlen : len ≠ 0) (x : BitVec w) : leadingBits len x = maskBits x len := by
  unfold leadingBits maskBits
  rw [if_neg hlen]

theorem leadingBits_beq_iff (hpos : len ≠ 0) (hlen : len ≤ w) (x y : BitVec w) :
    (leadingBits len x == leadingBits len y) = true ↔ ∀ i < len, x.getMsbD i = y.getMsbD i := by
  rw [beq_iff_eq, leadingBits_eq hpos, leadingBits_eq hpos, maskBits_eq_iff_leading x y hlen]

/-- The comparison of a whole family: no shift goes wrong at length zero or at the full width. -/
theorem contains_iff (x y : BitVec w) :
    (if w < len then false
      else if len = 0 then true else leadingBits len x == leadingBits len y) = true ↔
      len ≤ w ∧ ∀ i < len, x.getMsbD i = y.getMsbD i := by
  by_cases hlong : w < len
  · rw [if_pos hlong]
    exact ⟨fun h => (by cases h), fun h => absurd h.1 (Nat.not_le.mpr hlong)⟩
  · rw [if_neg hlong]
    by_cases hzero : len = 0
    · rw [if_pos hzero]
      exact ⟨fun _ => ⟨by omega, fun i hi => absurd hi (by omega)⟩, fun _ => rfl⟩
    · rw [if_neg hzero, leadingBits_beq_iff hzero (Nat.le_of_not_lt hlong)]
      exact ⟨fun h => ⟨Nat.le_of_not_lt hlong, h⟩, fun h => h.2⟩

theorem prefixContains_iff :
    prefixContains network len addr = true ↔ len ≤ maxPrefixLen network ∧ Agree len network addr := by
  cases network <;> cases addr <;>
    first
    | exact contains_iff _ _
    | exact ⟨fun h => (by cases h), fun h => h.2.elim⟩

theorem covers_all (hle : ownedLen ≤ len) (hcontains : prefixContains owned ownedLen addr = true)
    (ha : Agree len addr a) : Agree ownedLen owned a :=
  (prefixContains_iff.mp hcontains).2.trans (ha.mono hle)

/-- The document lists the prefix for the tenant. -/
def Registered (reading : Reading) (tenants : List TenantEntry) (tenant : String) (addr : IpAddr)
    (len : Nat) : Prop :=
  ∃ t ∈ tenants, t.tenant = tenant ∧ ∃ raw ∈ t.prefixes, parseCidr reading raw = .ok (addr, len)

/-- The table holds only what the document lists. -/
def Sound (reading : Reading) (tenants : List TenantEntry) (prefixes : TenantPrefixes) : Prop :=
  ∀ (tenant : String) owned, prefixes[tenant]? = some owned → ∀ x ∈ owned,
    Registered reading tenants tenant x.1 x.2

theorem insertPrefix_sound (h : Sound reading tenants prefixes)
    (hnew : Registered reading tenants tenant addr len) :
    Sound reading tenants (insertPrefix prefixes tenant addr len) := by
  intro other owned howned x hx
  unfold insertPrefix at howned
  rw [get_insert] at howned
  split at howned
  · rename_i heq
    cases howned
    rcases List.mem_append.mp hx with hx | hx
    · cases hold : prefixes[tenant]? with
      | none =>
        rw [hold] at hx
        cases hx
      | some before =>
        rw [hold] at hx
        exact heq ▸ h tenant before hold x hx
    · rw [List.mem_singleton.mp hx]
      exact heq ▸ hnew
  · exact h other owned howned x hx

section Loops

variable {reading : Reading} {prefixes prefixes' : TenantPrefixes}
variable {t : TenantEntry}

theorem insertTenant_step
    (h : (match parseCidr reading raw with
      | .error detail => .error (.prefix_ t.tenant raw detail)
      | .ok (addr, len) => .ok (insertPrefix x t.tenant addr len) :
        Except ConfigError TenantPrefixes) = .ok y) :
    ∃ addr len, parseCidr reading raw = .ok (addr, len) ∧ y = insertPrefix x t.tenant addr len := by
  split at h
  · cases h
  · rename_i addr len hparsed
    cases h
    exact ⟨addr, len, hparsed, rfl⟩

theorem insertTenant_sound (ht : t ∈ tenants) (h : insertTenant reading t prefixes = .ok prefixes')
    (hs : Sound reading tenants prefixes) : Sound reading tenants prefixes' := by
  refine foldlM_keeps (fun raw hraw x y hx hy => ?_) h hs
  obtain ⟨addr, len, hparsed, rfl⟩ := insertTenant_step hy
  exact insertPrefix_sound hx ⟨t, ht, rfl, raw, hraw, hparsed⟩

theorem insertPrefix_nonempty (prefixes : TenantPrefixes) (tenant : String) (addr : IpAddr)
    (len : Nat) : (insertPrefix prefixes tenant addr len).isEmpty = false := by
  simp [insertPrefix]

theorem insertTenant_nonempty (h : insertTenant reading t prefixes = .ok prefixes')
    (hsome : prefixes.isEmpty = false ∨ t.prefixes ≠ []) : prefixes'.isEmpty = false := by
  have hkeeps (l : List String) (x y : TenantPrefixes)
      (hfold : insertTenant reading { t with prefixes := l } x = .ok y)
      (hx : x.isEmpty = false) : y.isEmpty = false := by
    refine foldlM_keeps (I := fun z => z.isEmpty = false) (fun raw _ z z' _ hz => ?_) hfold hx
    obtain ⟨addr, len, -, rfl⟩ := insertTenant_step (t := t) hz
    exact insertPrefix_nonempty z t.tenant addr len
  rcases hsome with hx | hne
  · exact hkeeps t.prefixes prefixes prefixes' h hx
  · obtain ⟨raw, rest, hcons⟩ := List.exists_cons_of_ne_nil hne
    unfold insertTenant at h
    rw [hcons, List.foldlM_cons] at h
    obtain ⟨x, hx, hrest⟩ := bind_eq_ok.mp h
    obtain ⟨addr, len, -, rfl⟩ := insertTenant_step hx
    exact hkeeps rest _ _ hrest (insertPrefix_nonempty _ _ _ _)

theorem foldlM_nonempty {l : List TenantEntry}
    (h : l.foldlM (fun prefixes t => insertTenant reading t prefixes) prefixes = .ok prefixes')
    (hsome : prefixes.isEmpty = false ∨ ∃ t ∈ l, t.prefixes ≠ []) : prefixes'.isEmpty = false := by
  induction l generalizing prefixes with
  | nil =>
    cases h
    exact hsome.resolve_right (by simp)
  | cons t l ih =>
    rw [List.foldlM_cons] at h
    obtain ⟨x, hx, hrest⟩ := bind_eq_ok.mp h
    refine ih hrest ?_
    rcases hsome with hp | ⟨t', ht', hne⟩
    · exact Or.inl (insertTenant_nonempty hx (Or.inl hp))
    · rcases List.mem_cons.mp ht' with rfl | ht'
      · exact Or.inl (insertTenant_nonempty hx (Or.inr hne))
      · exact Or.inr ⟨t', ht', hne⟩

end Loops

theorem tenantPrefixes_ok {doc : PolicyDocument} (h : doc.tenantPrefixes reading = .ok prefixes) :
    Sound reading doc.tenants prefixes ∧
      ((∃ t ∈ doc.tenants, t.prefixes ≠ []) → prefixes.isEmpty = false) := by
  unfold PolicyDocument.tenantPrefixes at h
  dsimp only at h
  split at h
  · cases h
  · refine ⟨foldlM_keeps (fun t ht _ _ hx hy => insertTenant_sound ht hy hx) h ?_,
      fun hsome => foldlM_nonempty h (Or.inr hsome)⟩
    intro tenant owned howned
    simp at howned

/-- The network a policy names: a host is one of full length. -/
def target : PolicySelector → Option (IpAddr × Nat)
  | .host addr => some (addr, maxPrefixLen addr)
  | .network addr len => some (addr, len)
  | .hostgroup _ | .any => none

theorem validate_covers {d : PolicyDraft} {p : DetectionPolicy} (h : d.validate prefixes = .ok p)
    (hnonempty : prefixes.isEmpty = false) (hnamed : p.tenant ≠ wildcardTenant)
    (htarget : target p.selector = some (addr, len)) :
    TenantPrefixes.covers prefixes p.tenant addr len = true := by
  have hpasses := validate_eq_ok.mp h
  have howned := hpasses.ownership
  rw [hpasses.policy] at hnamed htarget ⊢
  dsimp only at hnamed htarget ⊢
  unfold validatePrefixOwnership at howned
  rw [if_neg (by simp [hnonempty, hnamed])] at howned
  cases hs : d.selector with
  | host | network =>
    rw [hs] at howned htarget
    cases htarget
    simpa using reject_eq_ok.mp howned
  | hostgroup | any =>
    rw [hs] at htarget
    cases htarget

/-- Once a document lists a tenant prefix, an accepted policy of a named tenant that names a host or
a network aims inside one prefix registered for that tenant, of the same family: every address of
the one is an address of the other. -/
theorem targets_owned (reading : Reading) {doc : PolicyDocument} {prefixes : TenantPrefixes}
    {d : PolicyDraft} {p : DetectionPolicy} {addr : IpAddr} {len : Nat}
    (hprefixes : doc.tenantPrefixes reading = .ok prefixes)
    (hlisted : ∃ t ∈ doc.tenants, t.prefixes ≠ []) (hvalid : d.validate prefixes = .ok p)
    (hnamed : p.tenant ≠ wildcardTenant) (htarget : target p.selector = some (addr, len)) :
    ∃ owned ownedLen, Registered reading doc.tenants p.tenant owned ownedLen ∧
      owned.isIpv4 = addr.isIpv4 ∧ ∀ a, Agree len addr a → Agree ownedLen owned a := by
  obtain ⟨hsound, hnonempty⟩ := tenantPrefixes_ok hprefixes
  have hcovers := validate_covers hvalid (hnonempty hlisted) hnamed htarget
  unfold TenantPrefixes.covers at hcovers
  split at hcovers
  · cases hcovers
  · rename_i owned howned
    obtain ⟨⟨o, l⟩, hmem, hcovered⟩ := List.any_eq_true.mp hcovers
    simp only [Bool.and_eq_true, decide_eq_true_eq] at hcovered
    refine ⟨o, l, hsound p.tenant owned howned _ hmem, ?_, fun a ha => ?_⟩
    · exact (prefixContains_iff.mp hcovered.2).2.family
    · exact covers_all hcovered.1 hcovered.2 ha

def tenantDocument : PolicyDocument where
  schemaVersion := policySchemaVersion
  defaults := {}
  tenants := [⟨"t", ["10.1.0.0/16"]⟩]
  policies := []

def tenantReading : Reading where
  parseAddr text := if text = "10.1.0.0" then some (.v4 0x0A010000#32) else none
  debug text := text

def aimedDraft : PolicyDraft :=
  { sampleDraft .alertOnly 1 with
    tenant := "t", scopeType := .prefix_, selector := .network (.v4 0x0A010203#32) 24 }

def aimedPolicy : DetectionPolicy :=
  { samplePolicy .alertOnly 1 with
    tenant := "t", scopeType := .prefix_, selector := .network (.v4 0x0A010203#32) 24 }

def tenantTable : TenantPrefixes := insertPrefix ∅ "t" (.v4 0x0A010000#32) 16

set_option maxRecDepth 4000 in
theorem tenantDocument_prefixes :
    tenantDocument.tenantPrefixes tenantReading = .ok tenantTable := rfl

set_option maxRecDepth 4000 in
theorem aimedDraft_validate : aimedDraft.validate tenantTable = .ok aimedPolicy := rfl

theorem targets_owned_sample :
    ∃ owned ownedLen, Registered tenantReading tenantDocument.tenants "t" owned ownedLen ∧
      owned.isIpv4 = true ∧ ∀ a, Agree 24 (.v4 0x0A010203#32) a → Agree ownedLen owned a :=
  targets_owned tenantReading tenantDocument_prefixes
    ⟨⟨"t", ["10.1.0.0/16"]⟩, List.mem_cons_self, by simp⟩ aimedDraft_validate
    (by decide : aimedPolicy.tenant ≠ wildcardTenant) rfl

end Tidegard.Detector.Proofs.Ownership
