import Tidegard.Ipfix.Proofs.RoundTrip

namespace Tidegard.Ipfix.Proofs.Withdrawals

open List Tables Actions Checked Fallible Decoder Decoding Frames RoundTrip

/-- A template id and a field count of zero, in four octets. -/
def withdrawal (id : Nat) : Bytes := be16 id ++ be16 0

def withdrawals (ids : List Nat) : Bytes := ids.flatMap withdrawal

/-- One set of withdrawals, of either kind. -/
def withdrawalSet : Bool → List Nat → Bytes
  | true, ids => encodeSet (optionsTemplateSetId, withdrawals ids)
  | false, ids => encodeSet (templateSetId, withdrawals ids)

/-- The ids a withdrawal of one template can name. -/
def Withdrawable (id : Nat) : Prop := minDataSetId ≤ id ∧ id < 2 ^ 16

/-- The cache `d` is the cache `c` without the templates of `ids`. -/
structure Without (ids : List Nat) (c d : TemplateCache) : Prop where
  templates : ∀ id : Nat, d.templates[id]? = if id ∈ ids then none else c.templates[id]?
  fields : d.fields = total (·.fields.length) d.templates
  sampling : d.sampling = c.sampling

section Template

variable {c : TemplateCache} {id : Nat}

theorem withdrawal_length (id : Nat) : (withdrawal id).length = setHeaderLen := rfl

theorem Without.nil (h : Bounded c) : Without [] c c where
  templates id := by simp
  fields := h.counted
  sampling := rfl

theorem Without.cons (first : Without [id] c d) (rest : Without ids d e) :
    Without (id :: ids) c e where
  templates x := by
    rw [rest.templates, first.templates]
    by_cases hx : x = id
    · simp [hx]
    · simp [hx]
  fields := rest.fields
  sampling := rest.sampling.trans first.sampling

theorem remove_without (h : Bounded c) (id : Nat) :
    ∃ d, remove id () c = (.ok (), d) ∧ Bounded d ∧ Without [id] c d := by
  have hbounded := (remove_safe h id).2
  have hget : (Action.get : Caching TemplateCache) () c = (.ok c, c) := rfl
  cases hold : c.templates[id]? with
  | none =>
    refine ⟨c, ?_, h, ⟨?_, h.counted, rfl⟩⟩
    · unfold remove
      rw [Action.bind_of_ok hget, hold]
      rfl
    · intro x
      by_cases hx : x = id
      · simp [hx, hold]
      · simp [hx]
  | some old =>
    rw [remove_held hold (h.held hold)] at hbounded
    refine ⟨_, remove_held hold (h.held hold), hbounded, ⟨?_, hbounded.counted, rfl⟩⟩
    intro x
    rw [get_erase]
    simp only [mem_singleton, eq_comm]

theorem takeTemplate_withdrawal (hid : Withdrawable id) (scopeFieldCount : Nat) :
    takeTemplate { templateId := id, scopeFieldCount, fields := [] } = do
      remove id
      return [] := by
  have hneither : ¬(id = templateSetId ∨ id = optionsTemplateSetId) := by
    unfold Withdrawable minDataSetId at hid
    unfold templateSetId optionsTemplateSetId
    omega
  unfold takeTemplate withdraw
  dsimp only
  rw [if_neg hneither]
  rfl

theorem u16At_withdrawal (hid : Withdrawable id) (rest : Bytes) :
    u16At (withdrawal id ++ rest) 0 = .ok id ∧ u16At (withdrawal id ++ rest) 2 = .ok 0 := by
  have hread : u16At (withdrawal id ++ rest) 0 = .ok (fromBeBytes (be16 id)) := rfl
  rw [hread, fromBeBytes_be16 hid.2]
  exact ⟨rfl, rfl⟩

theorem parseRecord_withdrawal (hid : Withdrawable id) (rest : Bytes) :
    Template.parseRecord (withdrawal id ++ rest) false =
      .ok ({ templateId := id, scopeFieldCount := 0, fields := [] }, setHeaderLen) := by
  obtain ⟨htemplate, hcount⟩ := u16At_withdrawal hid rest
  have hlen : (withdrawal id ++ rest).length = 4 + rest.length := length_append
  unfold Template.parseRecord failIf sub
  simp only [Bool.false_eq_true, if_false, hlen, htemplate, hcount]
  rw [if_neg (by omega), ok_bind, ok_bind, ok_bind, parseScope, ok_bind]
  dsimp only
  rw [if_pos (by omega)]
  rfl

theorem parseTemplates_withdrawals (known : ∀ id ∈ ids, Withdrawable id) (h : Bounded c)
    (before : Bytes) (enough : (withdrawals ids).length < turns) :
    ∃ d, parseTemplates (before ++ withdrawals ids) false turns before.length () c = (.ok [], d) ∧
      Without ids c d := by
  induction ids generalizing c before turns with
    obtain ⟨turns, rfl⟩ : ∃ k, turns = k + 1 := ⟨turns - 1, by omega⟩
  | nil =>
    refine ⟨c, ?_, .nil h⟩
    unfold parseTemplates
    rw [if_neg (by simp [withdrawals])]
    rfl
  | cons id ids ih =>
    have hbytes : withdrawals (id :: ids) = withdrawal id ++ withdrawals ids := rfl
    have hid := known id mem_cons_self
    rw [hbytes, length_append, withdrawal_length] at enough
    obtain ⟨d, hremove, hbounded, hfirst⟩ := remove_without h id
    have hturns : (withdrawals ids).length < turns := by
      unfold setHeaderLen at enough
      omega
    obtain ⟨e, hrest, hothers⟩ := ih (fun x hx => known x (mem_cons_of_mem _ hx)) hbounded
      (before ++ withdrawal id) hturns
    rw [append_assoc, length_append, withdrawal_length] at hrest
    refine ⟨e, ?_, hfirst.cons hothers⟩
    have hleft : (sub (before ++ (withdrawal id ++ withdrawals ids)).length before.length :
        Decoded Nat) = .ok (withdrawal id ++ withdrawals ids).length := by
      simp [sub]
    have hmore : before.length < (before ++ (withdrawal id ++ withdrawals ids)).length := by
      simp only [length_append, withdrawal_length, setHeaderLen]
      omega
    have hheader : ¬(withdrawal id ++ withdrawals ids).length < setHeaderLen := by
      rw [length_append, withdrawal_length]
      omega
    rw [hbytes]
    unfold parseTemplates
    rw [if_pos hmore, hleft, Action.ofExcept_ok_bind, if_neg hheader, sliceFrom_append,
      Action.ofExcept_ok_bind, parseRecord_withdrawal hid, Action.ofExcept_ok_bind]
    dsimp only
    rw [takeTemplate_withdrawal hid, bind_assoc, Action.bind_of_ok hremove, pure_bind,
      Action.bind_of_ok hrest]
    rfl

end Template

section Options

variable {id : Nat}

/-- A record of an options template has six octets before its fields: the last two are missing, or
are the next withdrawal's id, which no field count of zero allows. -/
theorem parseRecord_options (known : ∀ x ∈ id :: ids, Withdrawable x) :
    ∃ e, Template.parseRecord (withdrawals (id :: ids)) true = .error (.failed e) := by
  cases ids with
  | nil => exact ⟨_, rfl⟩
  | cons next ids =>
    obtain ⟨htemplate, hcount⟩ := u16At_withdrawal (known id (by simp)) (withdrawals (next :: ids))
    obtain ⟨hnext, -⟩ := u16At_withdrawal (known next (by simp)) (withdrawals ids)
    have hscope : u16At (withdrawals (id :: next :: ids)) 4 = .ok next := hnext
    have hlen : (withdrawals (id :: next :: ids)).length = 8 + (withdrawals ids).length := by
      simp only [withdrawals, flatMap_cons, length_append, withdrawal_length,
        setHeaderLen]
      omega
    have hpos : 0 < next := by
      have hrange := known next (by simp)
      unfold Withdrawable minDataSetId at hrange
      omega
    have hbytes : withdrawals (id :: next :: ids) =
        withdrawal id ++ withdrawals (next :: ids) := rfl
    rw [← hbytes] at htemplate hcount
    refine ⟨.invalidScopeFieldCount next 0, ?_⟩
    unfold Template.parseRecord parseScope failIf
    simp only [if_true, hlen, htemplate, hcount, hscope]
    rw [if_neg (by omega), ok_bind, ok_bind, ok_bind, ok_bind, if_pos hpos]
    rfl

theorem parseTemplateRecords_options (known : ∀ x ∈ id :: ids, Withdrawable x)
    (c : TemplateCache) :
    ∃ e, parseTemplateRecords (withdrawals (id :: ids)) true () c = (.error (.failed e), c) := by
  obtain ⟨e, hrecord⟩ := parseRecord_options known
  have hlen : (withdrawals (id :: ids)).length = setHeaderLen + (withdrawals ids).length :=
    length_append
  have hleft : (sub (withdrawals (id :: ids)).length 0 : Decoded Nat) =
      .ok (withdrawals (id :: ids)).length := rfl
  have hslice : (sliceFrom (withdrawals (id :: ids)) 0 : Decoded Bytes) =
      .ok (withdrawals (id :: ids)) := rfl
  refine ⟨e, ?_⟩
  unfold parseTemplateRecords parseTemplates
  rw [if_pos (by rw [hlen]; unfold setHeaderLen; omega), hleft, Action.ofExcept_ok_bind,
    if_neg (by rw [hlen]; omega), hslice, Action.ofExcept_ok_bind, hrecord]
  rfl

end Options

theorem fromBeBytes_pair (a b : UInt8) : fromBeBytes [a, b] < 2 ^ 16 := by
  have ha := a.toNat_lt
  have hb := b.toNat_lt
  simp only [fromBeBytes, foldl_cons, foldl_nil]
  omega

theorem u16At_lt (h : u16At input i = .ok n) : n < 2 ^ 16 := by
  unfold u16At at h
  obtain ⟨a, -, h⟩ := bind_eq_ok.mp h
  obtain ⟨b, -, h⟩ := bind_eq_ok.mp h
  rw [← pure_eq_ok.mp h]
  exact fromBeBytes_pair a b

theorem messageParts_length (h : messageParts input = .ok (header, body)) :
    body.length < 2 ^ 16 := by
  obtain ⟨parsed, hparse, h⟩ := bind_eq_ok.mp h
  obtain ⟨cut, hcut, h⟩ := bind_eq_ok.mp h
  cases h
  have hlength : header.length < 2 ^ 16 := by
    unfold MessageHeader.parse at hparse
    simp only [bind_eq_ok, pure_eq_ok] at hparse
    obtain ⟨-, -, -, -, -, -, length, hlength, -, -, -, -, -, -, -, -, -, -, rfl⟩ := hparse
    exact u16At_lt hlength
  unfold slice at hcut
  split at hcut
  · cases hcut
    rw [length_drop, length_take]
    omega
  · cases hcut

theorem decodeMessage_single (parts : messageParts input = .ok (header, encodeSet frame))
    (hframe : Encodable frame) :
    decodeMessage input = do
      let decoded ← decodeSet frame.1 frame.2
      return { header, sets := [decoded] } := by
  have hsets : framesOf ([frame].flatMap encodeSet ++ []) =
      ([frame] ++ (framesOf []).1, (framesOf []).2) := frames_whole (by simpa using hframe) []
  rw [flatMap_cons, flatMap_nil, append_nil, append_nil] at hsets
  rw [decodeMessage_parts parts]
  unfold decodeBody
  rw [hsets]
  simp [framesOf, frames, decodeFrames]

/-- The message is decoded, and only the withdrawn templates leave the cache. -/
def Withdraws (ids : List Nat) (c : TemplateCache) (input : Bytes) : Prop :=
  (∃ m, (decodeMessage input () c).1 = .ok m) ∧ Without ids c (decodeMessage input () c).2

/-- From every cache that decoding and clearing lead to, a message of one set of withdrawals is
decoded and takes exactly their templates out of the cache, when the set is a template set or holds
no withdrawal; a withdrawal in an options template set is refused with the whole message. -/
theorem withdraws_iff (calls : List Call) (isOptions : Bool) (ids : List Nat)
    (known : ∀ id ∈ ids, Withdrawable id) (input : Bytes) (header : MessageHeader)
    (parts : messageParts input = .ok (header, withdrawalSet isOptions ids)) :
    Withdraws ids (cacheMachine.run .new calls) input ↔ isOptions = false ∨ ids = [] := by
  have h := run_bounded calls
  generalize cacheMachine.run .new calls = c at h
  have hfits : (withdrawals ids).length + setHeaderLen < 2 ^ 16 := by
    have hlength := messageParts_length parts
    cases isOptions <;> rwa [withdrawalSet, encodeSet_length] at hlength
  unfold Withdraws
  cases isOptions with
  | false =>
    have hid : templateSetId < 2 ^ 16 := by decide
    have hframe : Encodable (templateSetId, withdrawals ids) := ⟨hid, hfits⟩
    obtain ⟨d, hparse, hwithout⟩ := parseTemplates_withdrawals known h [] (Nat.lt_succ_self _)
    have hset : decodeSet templateSetId (withdrawals ids) () c = (.ok (.templates []), d) :=
      Action.bind_of_ok hparse
    rw [decodeMessage_single parts hframe, Action.bind_of_ok hset]
    exact iff_of_true ⟨⟨_, rfl⟩, hwithout⟩ (Or.inl rfl)
  | true =>
    have hid : optionsTemplateSetId < 2 ^ 16 := by decide
    have hframe : Encodable (optionsTemplateSetId, withdrawals ids) := ⟨hid, hfits⟩
    rw [decodeMessage_single parts hframe]
    cases ids with
    | nil => exact iff_of_true ⟨⟨_, rfl⟩, .nil h⟩ (Or.inr rfl)
    | cons id ids =>
      obtain ⟨e, hparse⟩ := parseTemplateRecords_options known c
      have hset : decodeSet optionsTemplateSetId (withdrawals (id :: ids)) () c =
          (.error (.failed e), c) := Action.bind_error.mpr (Or.inl hparse)
      rw [Action.bind_error.mpr (Or.inl hset)]
      refine iff_of_false ?_ (by simp)
      rintro ⟨⟨m, hm⟩, -⟩
      cases hm

theorem withdraws_template_set :
    Withdraws [256, 257] (cacheMachine.run .new [.decodeMessage sampleMessage])
      (sampleHeaderBytes 28 ++ withdrawalSet false [256, 257]) := by
  have known : ∀ id ∈ [256, 257], Withdrawable id := by simp [Withdrawable, minDataSetId]
  have parts : messageParts (sampleHeaderBytes 28 ++ withdrawalSet false [256, 257]) =
      .ok (sampleHeader 28, withdrawalSet false [256, 257]) := by decide +kernel
  exact (withdraws_iff [.decodeMessage sampleMessage] false [256, 257] known _ _ parts).mpr
    (Or.inl rfl)

/-- The four octets that withdraw template 256, in an options template set. -/
def optionsWithdrawal : Bytes := sampleHeaderBytes 24 ++ withdrawalSet true [256]

theorem optionsWithdrawal_refused :
    messageParts optionsWithdrawal = .ok (sampleHeader 24, withdrawalSet true [256]) ∧
    (decodeMessage optionsWithdrawal () .new).1 = .error (.failed (.templateRecordTruncated 6 4)) ∧
    ¬Withdraws [256] .new optionsWithdrawal := by
  have refused : (decodeMessage optionsWithdrawal () .new).1 =
      .error (.failed (.templateRecordTruncated 6 4)) := by decide +kernel
  refine ⟨by decide +kernel, refused, ?_⟩
  rintro ⟨⟨m, hm⟩, -⟩
  rw [refused] at hm
  cases hm

end Tidegard.Ipfix.Proofs.Withdrawals
