import NodeLink.Link.Frame
import NodeLink.Proofs.Text.Utf8
/-!
# Frames are exact

A buffer is the frame of at most one request, and reading takes the frames of
requests and nothing else.  The size in the header is the one of the identifier
because no identifier is too long for its two bytes; what a header announces
beyond the end of its buffer is not looked for but refused.
-/

namespace NodeLink.Link

open NodeLink.Text

theorem checkProtocol_eq_ok_iff {protocol : String} :
    checkProtocol protocol = .ok () ↔
      1 ≤ protocol.utf8ByteSize ∧ protocol.utf8ByteSize ≤ 255 := by
  simp only [checkProtocol, Utf8.byteCount_eq, maxProtocolSize]
  split
  next hempty => simp [hempty]
  next hempty =>
    split
    next hlong =>
      simp only [reduceCtorEq, false_iff]
      omega
    next hlong =>
      simp only [true_iff]
      omega

namespace Frame

/-! ## Headers and identifiers -/

theorem header_of_bytes (high low : UInt8) :
    header (high.toNat * 256 + low.toNat) = [high, low] := by
  have hlow := low.toNat_lt
  have hquotient : (high.toNat * 256 + low.toNat) / 256 = high.toNat := by omega
  have hrest : (high.toNat * 256 + low.toNat) % 256 = low.toNat := by omega
  rw [header, hquotient, hrest, UInt8.ofNat_toNat, UInt8.ofNat_toNat]

theorem size_of_header {size : Nat} (hsize : size < 65536) :
    (UInt8.ofNat (size / 256)).toNat * 256 + (UInt8.ofNat (size % 256)).toNat = size := by
  rw [UInt8.toNat_ofNat', UInt8.toNat_ofNat']
  omega

theorem length_bytesOf (protocol : String) :
    (Utf8.bytesOf protocol).length = protocol.utf8ByteSize :=
  Utf8.byteCount_eq protocol

theorem bytesOf_of_taken {size : Nat} {rest : List UInt8} {chars : List Char}
    (hchars : Utf8.decodeOrExplain (rest.take size) = .ok chars) :
    Utf8.bytesOf (String.ofList chars) = rest.take size := by
  rw [Utf8.bytesOf, String.toList_ofList]
  exact (Utf8.decodeOrExplain_eq_ok_iff.mp hchars).symm

theorem size_of_taken {size : Nat} {rest : List UInt8} {chars : List Char}
    (hfits : size ≤ rest.length)
    (hchars : Utf8.decodeOrExplain (rest.take size) = .ok chars) :
    size = (String.ofList chars).utf8ByteSize := by
  rw [← length_bytesOf, bytesOf_of_taken hchars, List.length_take]
  omega

/-! ## Reading takes what writing gives -/

theorem encode_eq_ok_iff {frame : Frame} {bytes : List UInt8} :
    frame.encode = .ok bytes ↔
      (1 ≤ frame.protocol.utf8ByteSize ∧ frame.protocol.utf8ByteSize ≤ 255) ∧
        bytes = header frame.protocol.utf8ByteSize ++ Utf8.bytesOf frame.protocol ++
          frame.body := by
  rw [← checkProtocol_eq_ok_iff, encode]
  cases hcheck : checkProtocol frame.protocol with
  | error error => simp
  | ok _ => simp [length_bytesOf, eq_comm]

theorem decodeSized_eq_ok_iff {size : Nat} {rest : List UInt8} {frame : Frame} :
    decodeSized size rest = .ok frame ↔
      checkProtocol frame.protocol = .ok () ∧ size = frame.protocol.utf8ByteSize ∧
        rest = Utf8.bytesOf frame.protocol ++ frame.body := by
  constructor
  · intro hdecode
    unfold decodeSized at hdecode
    split at hdecode
    next => cases hdecode
    next hfits =>
      rw [Nat.not_lt] at hfits
      split at hdecode
      next => cases hdecode
      next chars hchars =>
        simp only at hdecode
        split at hdecode
        next => cases hdecode
        next hcheck =>
          cases hdecode
          refine ⟨hcheck, size_of_taken hfits hchars, ?_⟩
          rw [bytesOf_of_taken hchars, List.take_append_drop]
  · rintro ⟨hcheck, rfl, rfl⟩
    have hlength := length_bytesOf frame.protocol
    have hfits : ¬ (Utf8.bytesOf frame.protocol ++ frame.body).length <
        frame.protocol.utf8ByteSize := by
      rw [List.length_append]
      omega
    have hchars : Utf8.decodeOrExplain (Utf8.bytesOf frame.protocol) =
        .ok frame.protocol.toList :=
      Utf8.decodeOrExplain_eq_ok_iff.mpr rfl
    unfold decodeSized
    rw [if_neg hfits, List.take_left' hlength, List.drop_left' hlength, hchars]
    simp only [String.ofList_toList, hcheck]

theorem decode_eq_ok_iff {frame : Frame} {bytes : List UInt8} :
    decode bytes = .ok frame ↔ frame.encode = .ok bytes := by
  rw [encode_eq_ok_iff, ← checkProtocol_eq_ok_iff]
  constructor
  · intro hdecode
    unfold decode at hdecode
    split at hdecode
    next high low rest =>
      obtain ⟨hcheck, hsize, rfl⟩ := decodeSized_eq_ok_iff.mp hdecode
      refine ⟨hcheck, ?_⟩
      rw [← hsize, header_of_bytes]
      rfl
    next => cases hdecode
  · rintro ⟨hcheck, rfl⟩
    have hbounds := checkProtocol_eq_ok_iff.mp hcheck
    rw [header, List.append_assoc, List.cons_append, List.cons_append, List.nil_append, decode,
      size_of_header (by omega), decodeSized_eq_ok_iff]
    exact ⟨hcheck, rfl, rfl⟩

/-! ## What is refused -/

/-- What keeps a buffer from being a frame: its header is cut off, or announces
more than is left, or what it announces is not the identifier of a protocol. -/
inductive Refuses : List UInt8 → Error → Prop
  | truncated {bytes : List UInt8} (hshort : bytes.length < 2) :
      Refuses bytes (.framing .truncated)
  | tooShort {high low : UInt8} {rest : List UInt8}
      (hshort : rest.length < high.toNat * 256 + low.toNat) :
      Refuses (high :: low :: rest)
        (.framing (.tooShort (high.toNat * 256 + low.toNat) rest.length))
  | notUtf8 {high low : UInt8} {rest : List UInt8} {explanation : String}
      (hfits : high.toNat * 256 + low.toNat ≤ rest.length)
      (hfault : ∀ text, Utf8.encode text ≠ rest.take (high.toNat * 256 + low.toNat)) :
      Refuses (high :: low :: rest) (.framing (.notUtf8 explanation))
  | badProtocol {high low : UInt8} {protocol : String} {body : List UInt8} {error : Error}
      (hsize : high.toNat * 256 + low.toNat = protocol.utf8ByteSize)
      (hcheck : checkProtocol protocol = .error error) :
      Refuses (high :: low :: (Utf8.bytesOf protocol ++ body)) error

theorem ne_encode_of_explained {bytes : List UInt8} {explanation : String}
    (hfault : Utf8.decodeOrExplain bytes = .error explanation) (text : List Char) :
    Utf8.encode text ≠ bytes := by
  intro hbytes
  have htext := Utf8.decodeOrExplain_eq_ok_iff.mpr hbytes.symm
  rw [htext] at hfault
  cases hfault

theorem refuses_of_decodeSized {high low : UInt8} {rest : List UInt8} {error : Error}
    (hdecode : decodeSized (high.toNat * 256 + low.toNat) rest = .error error) :
    Refuses (high :: low :: rest) error := by
  unfold decodeSized at hdecode
  split at hdecode
  next hshort =>
    cases hdecode
    exact .tooShort hshort
  next hfits =>
    rw [Nat.not_lt] at hfits
    split at hdecode
    next explanation hfault =>
      cases hdecode
      exact .notUtf8 hfits (ne_encode_of_explained hfault)
    next chars hchars =>
      simp only at hdecode
      split at hdecode
      next found hcheck =>
        cases hdecode
        rw [← List.take_append_drop (high.toNat * 256 + low.toNat) rest,
          ← bytesOf_of_taken hchars]
        exact .badProtocol (size_of_taken hfits hchars) hcheck
      next => cases hdecode

theorem refuses_of_decode {bytes : List UInt8} {error : Error}
    (hdecode : decode bytes = .error error) : Refuses bytes error := by
  match bytes with
  | high :: low :: rest => exact refuses_of_decodeSized hdecode
  | [_] =>
      cases hdecode
      exact .truncated (Nat.lt_succ_self 1)
  | [] =>
      cases hdecode
      exact .truncated Nat.two_pos

/-- Reading a buffer and writing a request undo each other, and there is a frame for
every identifier of 1 to 255 bytes and no other one.  Its header is the size of the
identifier, high byte first.  A buffer that is no frame is refused for what is wrong
with it. -/
theorem decode_iff_encode (protocol : String) (body bytes : List UInt8) :
    (decode bytes = .ok ⟨protocol, body⟩ ↔ encode ⟨protocol, body⟩ = .ok bytes) ∧
      ((∃ buffer, encode ⟨protocol, body⟩ = .ok buffer) ↔
        1 ≤ protocol.utf8ByteSize ∧ protocol.utf8ByteSize ≤ 255) ∧
      (encode ⟨protocol, body⟩ = .ok bytes →
        ∃ high low : UInt8, high.toNat * 256 + low.toNat = protocol.utf8ByteSize ∧
          bytes = high :: low :: (protocol.toByteArray.data.toList ++ body)) ∧
      ((∀ frame : Frame, frame.encode ≠ .ok bytes) →
        ∃ error, decode bytes = .error error ∧ Refuses bytes error) := by
  refine ⟨decode_eq_ok_iff, ?_, ?_, ?_⟩
  · constructor
    · rintro ⟨buffer, hencode⟩
      exact (encode_eq_ok_iff.mp hencode).1
    · intro hsize
      exact ⟨_, encode_eq_ok_iff.mpr ⟨hsize, rfl⟩⟩
  · intro hencode
    obtain ⟨hsize, rfl⟩ := encode_eq_ok_iff.mp hencode
    have hshort : protocol.utf8ByteSize < 65536 := Nat.lt_of_le_of_lt hsize.2 (by decide)
    refine ⟨_, _, size_of_header hshort, ?_⟩
    rw [header, Utf8.bytesOf_eq]
    simp
  · intro hnone
    cases hdecode : decode bytes with
    | ok frame => exact absurd (decode_eq_ok_iff.mp hdecode) (hnone frame)
    | error error => exact ⟨error, rfl, refuses_of_decode hdecode⟩

/-- A short request, and what is left of a longer one that was cut off. -/
theorem short_frame_and_its_stump :
    encode ⟨"a", [7]⟩ = .ok [0, 1, 97, 7] ∧
      (∃ high low : UInt8, high.toNat * 256 + low.toNat = "a".utf8ByteSize ∧
        [0, 1, 97, 7] = high :: low :: ("a".toByteArray.data.toList ++ [7])) ∧
      (∀ frame : Frame, frame.encode ≠ .ok [0, 9, 97]) ∧
      ∃ error, decode [0, 9, 97] = .error error ∧ Refuses [0, 9, 97] error := by
  have hencode : encode ⟨"a", [7]⟩ = .ok [0, 1, 97, 7] := by rfl
  have hnone (frame : Frame) : frame.encode ≠ .ok [0, 9, 97] := by
    rw [ne_eq, ← decode_eq_ok_iff]
    simp [decode, decodeSized]
  exact ⟨hencode, (decode_iff_encode "a" [7] [0, 1, 97, 7]).2.2.1 hencode, hnone,
    (decode_iff_encode "a" [7] [0, 9, 97]).2.2.2 hnone⟩

end Frame

end NodeLink.Link
