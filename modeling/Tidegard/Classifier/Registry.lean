import Tidegard.Classifier
import Tidegard.Common
import Tidegard.Runs

namespace Tidegard.Classifier.Registry

open Common Classifier Runs

variable {α : Type}
variable {len : Nat}
variable {maxBits : Nat}

/-- A node of the binary trie, one address bit a level; `absent` is a child never created. -/
inductive Node (α : Type) where
  | absent
  | node (zero one : Node α) (entry : Option α)

def Node.new : Node α := .node .absent .absent none

def Node.entry : Node α → Option α
  | .absent => none
  | .node _ _ entry => entry

def Node.child (bit : Bool) : Node α → Node α
  | .absent => .absent
  | .node zero one _ => if bit then one else zero

def Node.setChild (n : Node α) (bit : Bool) (child : Node α) : Node α :=
  match n with
  | .absent => .absent
  | .node zero one entry => if bit then .node zero child entry else .node child one entry

/-- `get_or_insert_with(|| Box::new(Node::new()))`. -/
def Node.getOrInsert : Node α → Node α
  | .absent => .new
  | .node zero one entry => .node zero one entry

/-- A prefix already registered above or below the one being inserted. -/
structure OverlapKind where
  broader : Bool
  existingPrefixLen : Nat
  deriving DecidableEq

inductive TrieError where
  | prefixTooLong (got max : Nat)
  | duplicatePrefix
  deriving DecidableEq

def Node.collectDescendantLengths : Node α → Nat → List OverlapKind
  | .absent, _ => []
  | .node zero one _, depth =>
    let below (child : Node α) (lengths : List OverlapKind) : List OverlapKind :=
      (if child.entry.isSome then [⟨false, depth + 1⟩] else []) ++ lengths
    below zero (zero.collectDescendantLengths (depth + 1)) ++
      below one (one.collectDescendantLengths (depth + 1))

/-- The descent of `insert` from a node at `depth`, along the bits that are left. -/
def Node.insert (entry : α) : List Bool → Nat → Node α →
    Except TrieError (List OverlapKind × Node α)
  | [], depth, n =>
    match n.getOrInsert with
    | .node zero one none =>
      .ok (n.collectDescendantLengths depth, .node zero one (some entry))
    | _ => .error .duplicatePrefix
  | bit :: path, depth, n => do
    let n := n.getOrInsert
    let (overlaps, child) ← Node.insert entry path (depth + 1) (n.child bit)
    return ((if n.entry.isSome then [⟨true, depth⟩] else []) ++ overlaps, n.setChild bit child)

/-- What the descent of `insert` leaves of the trie when it is refused at its end: the nodes walked
through, the missing ones created. -/
def Node.walked : List Bool → Node α → Node α
  | [], n => n.getOrInsert
  | bit :: path, n => n.getOrInsert.setChild bit (Node.walked path (n.getOrInsert.child bit))

/-- The descent of `lookup`; `best` is the longest match above the node. -/
def Node.lookup (n : Node α) (depth : Nat) (best : Option (α × Nat)) :
    List Bool → Option (α × Nat)
  | [] => (n.entry.map (·, depth)).or best
  | bit :: path =>
    let best := (n.entry.map (·, depth)).or best
    match n.child bit with
    | .absent => best
    | .node zero one entry => Node.lookup (.node zero one entry) (depth + 1) best path

structure PrefixTrie (α : Type) where
  maxBits : Nat
  root : Node α

def PrefixTrie.new (maxBits : Nat) : PrefixTrie α := ⟨maxBits, .new⟩

def bitAt (addrBits depth maxBits : Nat) : Bool := addrBits.testBit (maxBits - 1 - depth)

def leadingPath (addrBits len maxBits : Nat) : List Bool :=
  (List.range len).map fun depth => bitAt addrBits depth maxBits

def PrefixTrie.insert (t : PrefixTrie α) (addrBits prefixLen : Nat) (entry : α) :
    Except TrieError (List OverlapKind × PrefixTrie α) :=
  if t.maxBits < prefixLen then .error (.prefixTooLong prefixLen t.maxBits)
  else do
    let (overlaps, root) ← t.root.insert entry (leadingPath addrBits prefixLen t.maxBits) 0
    return (overlaps, { t with root := root })

def PrefixTrie.lookup (t : PrefixTrie α) (addrBits : Nat) : Option (α × Nat) :=
  t.root.lookup 0 none (leadingPath addrBits t.maxBits t.maxBits)

structure PrefixEntry where
  tenant : String
  hostgroup : Option String
  prefixLen : Nat
  deriving DecidableEq

structure PrefixMatch where
  entry : PrefixEntry
  matchedPrefixLen : Nat
  deriving DecidableEq

/-- The registry's errors are the trie's, one for one. -/
abbrev RegistryError := TrieError

structure PrefixRegistry where
  ipv4 : PrefixTrie PrefixEntry
  ipv6 : PrefixTrie PrefixEntry
  len : Nat

def PrefixRegistry.new : PrefixRegistry where
  ipv4 := .new 32
  ipv6 := .new 128
  len := 0

def PrefixRegistry.isEmpty (r : PrefixRegistry) : Bool := r.len == 0

def PrefixRegistry.insert (r : PrefixRegistry) (network : IpAddr) (prefixLen : Nat)
    (tenant : String) (hostgroup : Option String) :
    Except RegistryError (List OverlapKind × PrefixRegistry) :=
  let entry : PrefixEntry := { tenant, hostgroup, prefixLen }
  match network with
  | .v4 bits => do
    let (overlaps, ipv4) ← r.ipv4.insert bits.toNat prefixLen entry
    return (overlaps, { r with ipv4 := ipv4, len := r.len + 1 })
  | .v6 bits => do
    let (overlaps, ipv6) ← r.ipv6.insert bits.toNat prefixLen entry
    return (overlaps, { r with ipv6 := ipv6, len := r.len + 1 })

def PrefixRegistry.lookup (r : PrefixRegistry) (addr : IpAddr) : Option PrefixMatch :=
  let found := match addr with
    | .v4 bits => r.ipv4.lookup bits.toNat
    | .v6 bits => r.ipv6.lookup bits.toNat
  found.map fun (entry, len) => { entry, matchedPrefixLen := len }

/-- The length of the longest match, which is all the windows ask the registry for. -/
def matchedLen (r : PrefixRegistry) (addr : IpAddr) : Option Nat :=
  (r.lookup addr).map (·.matchedPrefixLen)

def width : IpAddr → Nat
  | .v4 _ => 32
  | .v6 _ => 128

/-- The number an address is walked by. -/
def addrBits : IpAddr → Nat
  | .v4 bits => bits.toNat
  | .v6 bits => bits.toNat

def PrefixRegistry.trie (r : PrefixRegistry) : IpAddr → PrefixTrie PrefixEntry
  | .v4 _ => r.ipv4
  | .v6 _ => r.ipv6

def PrefixRegistry.withRoot (r : PrefixRegistry) (addr : IpAddr) (root : Node PrefixEntry) :
    PrefixRegistry :=
  match addr with
  | .v4 _ => { r with ipv4 := { r.ipv4 with root := root } }
  | .v6 _ => { r with ipv6 := { r.ipv6 with root := root } }

structure Insertion where
  network : IpAddr
  prefixLen : Nat
  tenant : String
  hostgroup : Option String
  deriving DecidableEq

def Insertion.entry (i : Insertion) : PrefixEntry := ⟨i.tenant, i.hostgroup, i.prefixLen⟩

def Insertion.path (i : Insertion) : List Bool :=
  leadingPath (addrBits i.network) i.prefixLen (width i.network)

structure OverlapDiagnostic where
  network : IpAddr
  prefixLen : Nat
  message : String
  deriving DecidableEq

/-- `display` is how the standard library writes an address. -/
def diagnostic (display : IpAddr → String) (i : Insertion) (o : OverlapKind) :
    OverlapDiagnostic where
  network := i.network
  prefixLen := i.prefixLen
  message :=
    let own := display i.network ++ "/" ++ toString i.prefixLen
    if o.broader then
      own ++ " is contained within an already-registered /" ++ toString o.existingPrefixLen
    else
      own ++ " already contains a more specific, already-registered /" ++
        toString o.existingPrefixLen

/-- One call of `insert` on the registry itself. A duplicate is noticed at the end of the walk. -/
def PrefixRegistry.perform (display : IpAddr → String) (r : PrefixRegistry) (i : Insertion) :
    Except RegistryError (List OverlapDiagnostic) × PrefixRegistry :=
  match r.insert i.network i.prefixLen i.tenant i.hostgroup with
  | .ok (overlaps, r') => (.ok (overlaps.map (diagnostic display i)), r')
  | .error .duplicatePrefix =>
    (.error .duplicatePrefix, r.withRoot i.network ((r.trie i.network).root.walked i.path))
  | .error e => (.error e, r)

def registryMachine (display : IpAddr → String) :
    Machine PrefixRegistry Insertion (Except RegistryError (List OverlapDiagnostic)) where
  step := PrefixRegistry.perform display

/-- The registries that insertions build. -/
inductive PrefixRegistry.Built : PrefixRegistry → Prop
  | new : Built .new
  | insert {r r' : PrefixRegistry} {network : IpAddr} {prefixLen : Nat} {tenant : String}
      {hostgroup : Option String} {overlaps : List OverlapKind} (built : Built r)
      (inserted : r.insert network prefixLen tenant hostgroup = .ok (overlaps, r')) : Built r'

def classify (registry : PrefixRegistry) (flow : NormalizedFlow) : ClassificationResult :=
  if registry.isEmpty then
    { direction := .unknown
      sourceMatchedTenant := none
      destinationMatchedTenant := none
      sourceMatchedHostgroup := none
      destinationMatchedHostgroup := none }
  else
    let sourceMatch := registry.lookup flow.sourceAddr
    let destinationMatch := registry.lookup flow.destinationAddr
    { direction := match sourceMatch.isSome, destinationMatch.isSome with
        | false, true => .incoming
        | true, false => .outgoing
        | true, true => .internal
        | false, false => .other
      sourceMatchedTenant := sourceMatch.map (·.entry.tenant)
      destinationMatchedTenant := destinationMatch.map (·.entry.tenant)
      sourceMatchedHostgroup := sourceMatch.bind (·.entry.hostgroup)
      destinationMatchedHostgroup := destinationMatch.bind (·.entry.hostgroup) }

/-- The trie that holds one entry, at the end of a path. -/
def Node.single (entry : α) : List Bool → Node α
  | [] => .node .absent .absent (some entry)
  | bit :: path => Node.setChild .new bit (Node.single entry path)

theorem insert_absent (entry : α) (path : List Bool) (depth : Nat) :
    Node.insert entry path depth .absent = .ok ([], Node.single entry path) := by
  induction path generalizing depth with
  | nil => rfl
  | cons bit path ih =>
    have hchild : Node.child bit (Node.new : Node α) = .absent := by cases bit <;> rfl
    simp only [Node.insert, Node.getOrInsert, hchild, ih]
    rfl

theorem insert_new (entry : α) (path : List Bool) (depth : Nat) :
    Node.insert entry path depth .new = .ok ([], Node.single entry path) := by
  rw [← insert_absent entry path depth]
  cases path <;> rfl

theorem lookup_single (entry : α) (path more : List Bool) (depth : Nat)
    (best : Option (α × Nat)) :
    (Node.single entry path).lookup depth best (path ++ more) =
      some (entry, depth + path.length) := by
  induction path generalizing depth best with
  | nil =>
    cases more with
    | nil => rfl
    | cons bit more => cases bit <;> rfl
  | cons bit path ih =>
    have hnode : ∃ zero one found, Node.single entry path = .node zero one found := by
      cases path with
      | nil => exact ⟨_, _, _, rfl⟩
      | cons b path => cases b <;> exact ⟨_, _, _, rfl⟩
    obtain ⟨zero, one, found, heq⟩ := hnode
    have hchild : (Node.single entry (bit :: path)).child bit = Node.single entry path := by
      cases bit <;> rfl
    rw [List.cons_append, Node.lookup, hchild, heq]
    dsimp only
    rw [← heq, ih, List.length_cons]
    simp only [Option.some.injEq, Prod.mk.injEq, true_and]
    omega

theorem lookup_new (depth : Nat) (path : List Bool) :
    (Node.new : Node α).lookup depth none path = none := by
  cases path with
  | nil => rfl
  | cons bit path => cases bit <;> rfl

theorem leadingPath_split (h : len ≤ maxBits) (addrBits : Nat) :
    ∃ more, leadingPath addrBits maxBits maxBits = leadingPath addrBits len maxBits ++ more := by
  obtain ⟨k, rfl⟩ := Nat.exists_eq_add_of_le h
  refine ⟨((List.range k).map (len + ·)).map fun depth => bitAt addrBits depth (len + k), ?_⟩
  rw [leadingPath, leadingPath, List.range_add, List.map_append]

theorem insert_lookup (h : len ≤ maxBits) (addrBits : Nat) (entry : α) :
    ∃ t, (PrefixTrie.new maxBits).insert addrBits len entry = .ok ([], t) ∧
      t.lookup addrBits = some (entry, len) := by
  refine ⟨⟨maxBits, Node.single entry (leadingPath addrBits len maxBits)⟩, ?_, ?_⟩
  · simp only [PrefixTrie.insert, PrefixTrie.new, if_neg (Nat.not_lt.mpr h), insert_new]
    rfl
  · obtain ⟨more, hmore⟩ := leadingPath_split h addrBits
    simp only [PrefixTrie.lookup, hmore, lookup_single]
    simp [leadingPath]

theorem exists_registry (addr : IpAddr) (h : len ≤ width addr) (tenant : String)
    (hostgroup : Option String) :
    ∃ r : PrefixRegistry, r.Built ∧ r.isEmpty = false ∧
      r.lookup addr = some ⟨⟨tenant, hostgroup, len⟩, len⟩ ∧
      ∀ other : IpAddr, other.isIpv4 ≠ addr.isIpv4 → r.lookup other = none := by
  cases addr with
  | v4 bits =>
    obtain ⟨t, hinsert, hlookup⟩ := insert_lookup h bits.toNat
      (⟨tenant, hostgroup, len⟩ : PrefixEntry)
    have hbuilt : PrefixRegistry.new.insert (.v4 bits) len tenant hostgroup =
        .ok ([], ⟨t, .new 128, 1⟩) := by
      change (PrefixTrie.new 32).insert _ _ _ = _ at hinsert
      simp only [PrefixRegistry.insert, PrefixRegistry.new, hinsert]
      rfl
    refine ⟨⟨t, .new 128, 1⟩, .insert .new hbuilt, rfl, ?_, ?_⟩
    · simp [PrefixRegistry.lookup, hlookup]
    · intro other hother
      cases other with
      | v4 _ => exact absurd rfl hother
      | v6 _ => simp [PrefixRegistry.lookup, PrefixTrie.lookup, PrefixTrie.new, lookup_new]
  | v6 bits =>
    obtain ⟨t, hinsert, hlookup⟩ := insert_lookup h bits.toNat
      (⟨tenant, hostgroup, len⟩ : PrefixEntry)
    have hbuilt : PrefixRegistry.new.insert (.v6 bits) len tenant hostgroup =
        .ok ([], ⟨.new 32, t, 1⟩) := by
      change (PrefixTrie.new 128).insert _ _ _ = _ at hinsert
      simp only [PrefixRegistry.insert, PrefixRegistry.new, hinsert]
      rfl
    refine ⟨⟨.new 32, t, 1⟩, .insert .new hbuilt, rfl, ?_, ?_⟩
    · simp [PrefixRegistry.lookup, hlookup]
    · intro other hother
      cases other with
      | v4 _ => simp [PrefixRegistry.lookup, PrefixTrie.lookup, PrefixTrie.new, lookup_new]
      | v6 _ => exact absurd rfl hother

end Tidegard.Classifier.Registry
