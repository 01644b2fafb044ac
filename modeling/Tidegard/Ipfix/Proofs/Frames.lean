import Tidegard.Ipfix.Proofs.Decoding

namespace Tidegard.Ipfix.Proofs.Frames

open Actions Checked Decoder

/-! The loop of `decode_message` walks offsets. What it does with the cache is stated over the sets
the body is cut into, and how the cutting ends; neither depends on the cache. -/

/-- The id and the body of a set. -/
abbrev Frame := Nat × Bytes

/-- The sets a body is cut into, and the error the cutting ends with. -/
def frames : Nat → Bytes → List Frame × Option DecodeError
  | turns + 1, a :: b :: c :: d :: rest =>
    let setLen := fromBeBytes [c, d]
    if setLen < setHeaderLen then ([], some (.setTooShortForHeader setLen))
    else if rest.length + setHeaderLen < setLen then
      ([], some (.setLengthExceedsMessage setLen (rest.length + setHeaderLen)))
    else
      let next := frames turns (rest.drop (setLen - setHeaderLen))
      ((fromBeBytes [a, b], rest.take (setLen - setHeaderLen)) :: next.1, next.2)
  | _, _ => ([], none)

/-- Decode the sets in order; the body's own error comes after them. -/
def decodeFrames (ending : Option DecodeError) : List Frame → Caching (List DecodedSet)
  | [] =>
    match ending with
    | none => pure []
    | some e => Action.throw (.failed e)
  | (setId, setBody) :: rest => do
    let decoded ← decodeSet setId setBody
    let sets ← decodeFrames ending rest
    return decoded :: sets

theorem frames_short (h : body.length < setHeaderLen) (turns : Nat) :
    frames turns body = ([], none) := by
  match turns, body with
  | 0, _ | _ + 1, [] | _ + 1, [_] | _ + 1, [_, _] | _ + 1, [_, _, _] => rfl
  | _ + 1, _ :: _ :: _ :: _ :: rest =>
    simp only [List.length_cons, setHeaderLen] at h
    omega

theorem exists_header (h : ¬body.length < setHeaderLen) :
    ∃ a b c d rest, body = a :: b :: c :: d :: rest := by
  match body with
  | a :: b :: c :: d :: rest => exact ⟨a, b, c, d, rest, rfl⟩
  | [] | [_] | [_, _] | [_, _, _] => simp [setHeaderLen] at h

theorem decodeSets_frames (body : Bytes) (turns : Nat) (hoff : offset ≤ body.length)
    (enough : body.length - offset < turns) :
    decodeSets body turns offset =
      decodeFrames (frames turns (body.drop offset)).2 (frames turns (body.drop offset)).1 := by
  induction turns generalizing offset with
  | zero => exact absurd enough (Nat.not_lt_zero _)
  | succ turns ih =>
    unfold decodeSets
    have hlen : (body.drop offset).length = body.length - offset := List.length_drop
    split
    · have hslice : (sliceFrom body offset : Decoded Bytes) = .ok (body.drop offset) := if_pos hoff
      rw [hslice, Action.ofExcept_ok_bind]
      split
      · rename_i hshort
        rw [frames_short hshort]
        rfl
      · rename_i hheader
        obtain ⟨a, b, c, d, rest, hcut⟩ := exists_header hheader
        have hid : u16At (body.drop offset) 0 = .ok (fromBeBytes [a, b]) := by rw [hcut]; rfl
        have hsetLen : u16At (body.drop offset) 2 = .ok (fromBeBytes [c, d]) := by rw [hcut]; rfl
        have hrest : (body.drop offset).length = rest.length + setHeaderLen := by
          rw [hcut]
          rfl
        rw [hid, hsetLen, Action.ofExcept_ok_bind, Action.ofExcept_ok_bind, hrest]
        generalize hn : fromBeBytes [c, d] = setLen
        unfold failIf
        rw [hcut]
        unfold frames
        rw [hn]
        dsimp only
        split
        · rfl
        · rename_i hmin
          split
          · rfl
          · rename_i hmax
            have hbody : (slice (a :: b :: c :: d :: rest) setHeaderLen setLen : Decoded Bytes) =
                .ok (rest.take (setLen - setHeaderLen)) := by
              obtain ⟨n, rfl⟩ : ∃ n, setLen = n + setHeaderLen :=
                ⟨setLen - setHeaderLen, by omega⟩
              unfold slice
              rw [if_pos ⟨by omega, by simp only [List.length_cons, setHeaderLen] at *; omega⟩]
              simp [setHeaderLen]
            have hnext : body.drop (offset + setLen) = rest.drop (setLen - setHeaderLen) := by
              rw [← List.drop_drop, hcut]
              obtain ⟨n, rfl⟩ : ∃ n, setLen = n + setHeaderLen :=
                ⟨setLen - setHeaderLen, by omega⟩
              simp [setHeaderLen]
            rw [hbody]
            simp only [Action.ofExcept_ok_bind, decodeFrames]
            rw [ih (by omega) (by simp only [setHeaderLen] at hmin; omega), hnext]
    · rename_i hend
      rw [frames_short (by simp only [hlen, setHeaderLen]; omega)]
      rfl

theorem frames_turns (hn : body.length < n) (hm : body.length < m) :
    frames n body = frames m body := by
  induction n generalizing m body with
  | zero => exact absurd hn (Nat.not_lt_zero _)
  | succ n ih =>
    obtain ⟨m, rfl⟩ : ∃ k, m = k + 1 := ⟨m - 1, by omega⟩
    by_cases hshort : body.length < setHeaderLen
    · rw [frames_short hshort, frames_short hshort]
    · obtain ⟨a, b, c, d, rest, rfl⟩ := exists_header hshort
      simp only [List.length_cons] at hn hm
      have hnext : frames n (rest.drop (fromBeBytes [c, d] - setHeaderLen)) =
          frames m (rest.drop (fromBeBytes [c, d] - setHeaderLen)) :=
        ih (by rw [List.length_drop]; omega) (by rw [List.length_drop]; omega)
      unfold frames
      dsimp only
      rw [hnext]

/-- The sets of a whole body. -/
def framesOf (body : Bytes) : List Frame × Option DecodeError := frames (body.length + 1) body

def decodeBody (body : Bytes) : Caching (List DecodedSet) :=
  decodeFrames (framesOf body).2 (framesOf body).1

/-- The header and the body of a message. -/
def messageParts (input : Bytes) : Decoded (MessageHeader × Bytes) := do
  let header ← MessageHeader.parse input
  let body ← slice input messageHeaderLen header.length
  return (header, body)

theorem decodeMessage_eq (input : Bytes) :
    decodeMessage input = do
      let (header, body) ← Action.ofExcept (messageParts input)
      let sets ← decodeBody body
      return { header, sets } := by
  unfold decodeMessage messageParts
  rcases MessageHeader.parse input with e | header
  · rfl
  · rw [Action.ofExcept_ok_bind]
    change _ = Action.ofExcept (slice input messageHeaderLen header.length >>= fun body =>
      pure (header, body)) >>= _
    rcases (slice input messageHeaderLen header.length : Decoded Bytes) with e | body
    · rfl
    · rw [Action.ofExcept_ok_bind, decodeSets_frames body _ (Nat.zero_le _) (by omega),
        List.drop_zero]
      rfl

theorem decodeMessage_parts (h : messageParts input = .ok (header, body)) :
    decodeMessage input = do
      let sets ← decodeBody body
      return { header, sets } := by
  rw [decodeMessage_eq, h, Action.ofExcept_ok_bind]

end Tidegard.Ipfix.Proofs.Frames
