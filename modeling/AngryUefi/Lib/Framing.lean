import AngryUefi.Lib.Bytes

/-!
# Length-prefixed framing

A frame is a four-byte little-endian length followed by that many bytes.
`frames` cuts a byte stream into its whole frames; the bytes of the last,
incomplete frame are left over.
-/

namespace AngryUefi.Framing

open AngryUefi.Bytes

/-- One frame on the wire. -/
def frame (body : List UInt8) : List UInt8 :=
  littleEndian 4 body.length ++ body

/-- The length word at the head of a stream. -/
def lengthWord (stream : List UInt8) : ℕ := ofLittleEndian (stream.take 4)

/-- Cut whole frames off a stream, at most as many as the fuel says. -/
def framesWith : ℕ → List UInt8 → List (List UInt8) × List UInt8
  | 0, stream => ([], stream)
  | fuel + 1, stream =>
      if 4 ≤ stream.length ∧ 4 + lengthWord stream ≤ stream.length then
        let rest := framesWith fuel (stream.drop (4 + lengthWord stream))
        ((stream.drop 4).take (lengthWord stream) :: rest.1, rest.2)
      else ([], stream)

/-- The whole frames of a stream, and the bytes left over.  Each frame takes
at least four bytes, so the stream's length is fuel enough. -/
def frames (stream : List UInt8) : List (List UInt8) × List UInt8 :=
  framesWith stream.length stream

theorem framesWith_of_le {fuel : ℕ} {stream : List UInt8}
    (hfuel : stream.length ≤ fuel) : framesWith fuel stream = frames stream := by
  suffices hall : ∀ (left right : ℕ) (stream : List UInt8),
      stream.length ≤ left → stream.length ≤ right →
        framesWith left stream = framesWith right stream from
    hall fuel stream.length stream hfuel le_rfl
  intro left
  induction left with
  | zero =>
      intro right stream hleft _
      cases right with
      | zero => rfl
      | succ right =>
          have hshort : ¬ 4 ≤ stream.length := by omega
          simp [framesWith, hshort]
  | succ left ih =>
      intro right stream hleft hright
      cases right with
      | zero =>
          have hshort : ¬ 4 ≤ stream.length := by omega
          simp [framesWith, hshort]
      | succ right =>
          by_cases hwhole : 4 ≤ stream.length ∧ 4 + lengthWord stream ≤ stream.length
          · have hrest := ih right (stream.drop (4 + lengthWord stream))
              (by rw [List.length_drop]; omega) (by rw [List.length_drop]; omega)
            simp only [framesWith, hwhole, and_self, if_true, hrest]
          · simp only [framesWith, hwhole, if_false]

@[simp]
theorem length_frame (body : List UInt8) : (frame body).length = 4 + body.length := by
  simp [frame]

theorem lengthWord_frame_append {body : List UInt8} (hbody : body.length < 2 ^ 32)
    (rest : List UInt8) : lengthWord (frame body ++ rest) = body.length := by
  have htake : (frame body ++ rest).take 4 = littleEndian 4 body.length := by
    rw [frame, List.append_assoc]
    exact List.take_left' (length_littleEndian 4 _)
  rw [lengthWord, htake, ofLittleEndian_littleEndian_of_lt (by omega)]

/-- A frame at the head of a stream is the first frame cut off. -/
theorem frames_frame_append {body : List UInt8} (hbody : body.length < 2 ^ 32)
    (rest : List UInt8) :
    frames (frame body ++ rest) = (body :: (frames rest).1, (frames rest).2) := by
  have hlength := lengthWord_frame_append hbody rest
  have hdrop : (frame body ++ rest).drop (4 + body.length) = rest :=
    List.drop_left' (length_frame body)
  have hbodyBytes : ((frame body ++ rest).drop 4).take body.length = body := by
    rw [frame, List.append_assoc, List.drop_left' (length_littleEndian 4 _)]
    exact List.take_left' rfl
  have hwhole : 4 ≤ (frame body ++ rest).length ∧
      4 + body.length ≤ (frame body ++ rest).length := by
    simp only [List.length_append, length_frame]
    omega
  rw [frames, show (frame body ++ rest).length = (3 + body.length + rest.length) + 1 by
    simp only [List.length_append, length_frame]; omega]
  simp only [framesWith, hlength, hwhole, and_self, if_true, hdrop, hbodyBytes]
  rw [framesWith_of_le (by omega)]

/-- The stream a list of bodies is sent as. -/
def encode (bodies : List (List UInt8)) : List UInt8 :=
  (bodies.map frame).flatten

@[simp]
theorem encode_nil : encode [] = [] := rfl

@[simp]
theorem encode_cons (body : List UInt8) (bodies : List (List UInt8)) :
    encode (body :: bodies) = frame body ++ encode bodies := by
  simp [encode]

theorem encode_append (left right : List (List UInt8)) :
    encode (left ++ right) = encode left ++ encode right := by
  simp [encode]

theorem frames_encode_append {bodies : List (List UInt8)}
    (hbodies : ∀ body ∈ bodies, body.length < 2 ^ 32) (rest : List UInt8) :
    frames (encode bodies ++ rest) = (bodies ++ (frames rest).1, (frames rest).2) := by
  induction bodies with
  | nil => simp
  | cons body bodies ih =>
      rw [encode_cons, List.append_assoc,
        frames_frame_append (hbodies body (by simp)),
        ih (fun other hother => hbodies other (by simp [hother]))]
      simp

/-- Cutting inverts framing, with nothing left over. -/
theorem frames_encode {bodies : List (List UInt8)}
    (hbodies : ∀ body ∈ bodies, body.length < 2 ^ 32) :
    frames (encode bodies) = (bodies, []) := by
  have happend := frames_encode_append hbodies []
  simpa [frames, framesWith] using happend

/-- A stream that ends inside its first frame has no whole frame. -/
theorem frames_of_incomplete {stream : List UInt8}
    (hshort : stream.length < 4 ∨ stream.length < 4 + lengthWord stream) :
    frames stream = ([], stream) := by
  rw [frames]
  cases hlength : stream.length with
  | zero => rfl
  | succ length =>
      have hpart : ¬ (4 ≤ stream.length ∧ 4 + lengthWord stream ≤ stream.length) := by omega
      simp only [framesWith, hpart, if_false]

/-- A length word with fewer bytes behind it than it says. -/
theorem frames_partialBody {length : ℕ} {bytes : List UInt8} (hlength : length < 2 ^ 32)
    (hbytes : bytes.length < length) :
    frames (littleEndian 4 length ++ bytes) = ([], littleEndian 4 length ++ bytes) := by
  have hword : lengthWord (littleEndian 4 length ++ bytes) = length := by
    rw [lengthWord, List.take_left' (length_littleEndian 4 _),
      ofLittleEndian_littleEndian_of_lt (by omega)]
  apply frames_of_incomplete
  rw [hword, List.length_append, length_littleEndian]
  omega

/-- A frame is no longer than the stream that it is cut from. -/
theorem length_of_mem_frames {stream body : List UInt8} (hbody : body ∈ (frames stream).1) :
    4 + body.length ≤ stream.length := by
  suffices hall : ∀ (fuel : ℕ) (stream : List UInt8),
      body ∈ (framesWith fuel stream).1 → 4 + body.length ≤ stream.length from
    hall stream.length stream hbody
  intro fuel
  induction fuel with
  | zero => nofun
  | succ fuel ih =>
      intro stream hmem
      simp only [framesWith] at hmem
      split at hmem
      · rename_i hwhole
        rcases List.mem_cons.mp hmem with rfl | hrest
        · rw [List.length_take, List.length_drop]
          omega
        · have hshorter := ih _ hrest
          rw [List.length_drop] at hshorter
          omega
      · cases hmem

end AngryUefi.Framing
