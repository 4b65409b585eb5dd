import Dopedb.Library.Pieces
import Dopedb.Protocol.Frame

/-!
# Frames on a stream

What `encode_frame` writes, `decode_frame` reads, alone and one after the other on a stream that
delivers its bytes in any pieces. A frame that is cut, followed by more bytes or over the limit is
refused, and the readers of the broker and of the command line allocate no more than the limit and
the prefix. `frames_round_trip` is the main result.
-/

namespace Dopedb.Protocol

open Library Library.Pieces

section Coding

variable {M : Type} (serde : SerdeJson) (payload : FramePayload M)

/-- The bytes of a message. -/
def payloadBytes (message : M) : List UInt8 := textBytes (payload.serialize message).render

/-- The frame of a message. -/
def frameOf (message : M) : List UInt8 :=
  beBytes LENGTH_PREFIX_BYTES (payloadBytes payload message).length ++ payloadBytes payload message

/-- The message is within the limits of a direction. -/
structure Fits (maximum : Nat) (message : M) : Prop where
  bytes : (payloadBytes payload message).length ≤ min maximum (2 ^ 32 - 1)
  limited : Limited (payload.serialize message)

variable {serde payload}

/-- Reading a text back. -/
theorem from_slice_reads {value : Json} (h : serde.Reads value) :
    ∃ read, serde.fromSlice (textBytes value.render) = .ok read ∧
      read.canonicalValue = value.canonicalValue := by
  obtain ⟨read, hparse, hsame⟩ := h.parse [] fun _ => rfl
  rw [List.append_nil] at hparse
  refine ⟨read, ?_, hsame⟩
  rw [SerdeJson.fromSlice, hparse]
  rfl

/-- `encode_frame` writes the frame of exactly the messages within the limits. -/
theorem encode_frame_iff {message : M} (hreads : serde.Reads (payload.serialize message))
    (maximum : Nat) (frame : List UInt8) :
    encodeFrame serde payload message maximum = .ok frame ↔
      Fits payload maximum message ∧ frame = frameOf payload message := by
  obtain ⟨hoverflowed, hwritten⟩ := @write_all_spec ⟨[], min maximum (2 ^ 32 - 1), false⟩ rfl
    (Nat.zero_le _) (serde.chunks (payload.serialize message))
  obtain ⟨read, hread, hsame⟩ := from_slice_reads hreads
  simp only [List.length_nil, Nat.zero_add, serde.chunks_flatten] at hoverflowed hwritten
  rw [List.nil_append] at hwritten
  unfold encodeFrame
  simp only [except_bind_iff]
  by_cases hfits : (payloadBytes payload message).length ≤ min maximum (2 ^ 32 - 1)
  · have hclosed : ((BoundedWriter.mk [] (min maximum (2 ^ 32 - 1)) false).writeAll
        (serde.chunks (payload.serialize message))).overflowed = false :=
      hoverflowed.trans (decide_eq_false (not_lt.mpr hfits))
    have hempty : (textBytes (payload.serialize message).render).isEmpty = false := by
      rw [← Bool.not_eq_true, List.isEmpty_iff]
      exact hreads.nonempty
    have hbytes : (textBytes (payload.serialize message).render).length ≤
        min maximum (2 ^ 32 - 1) := hfits
    simp only [hclosed, hwritten hbytes, hempty, Bool.false_eq_true, if_false, except_bind_iff,
      hread, not_lt.mpr hbytes]
    constructor
    · rintro ⟨-, -, value, hvalue, _, hvalid, hframe⟩
      obtain rfl := Except.ok.inj hvalue
      rw [validate_json_limits_iff, limited_congr hsame] at hvalid
      exact ⟨⟨hfits, hvalid⟩, (Except.ok.inj hframe).symm⟩
    · rintro ⟨⟨-, hlimited⟩, rfl⟩
      refine ⟨(), payload.checked message hlimited, _, rfl, (), ?_, rfl⟩
      rw [validate_json_limits_iff, limited_congr hsame]
      exact hlimited
  · refine iff_of_false ?_ fun h => hfits h.1.bytes
    rintro ⟨-, -, h⟩
    have hopen : ((BoundedWriter.mk [] (min maximum (2 ^ 32 - 1)) false).writeAll
        (serde.chunks (payload.serialize message))).overflowed = true :=
      hoverflowed.trans (decide_eq_true (not_le.mp hfits))
    rw [if_pos hopen] at h
    cases h

/-- `parse_frame_length` accepts the lengths from one to the limit. -/
theorem parse_frame_length_iff {bytes : List UInt8} {maximum length : Nat} :
    parseFrameLength bytes maximum = .ok length ↔
      beNat bytes = length ∧ 0 < length ∧ length ≤ maximum := by
  unfold parseFrameLength
  simp only
  split
  case isTrue hzero => exact iff_of_false (by simp) (by omega)
  case isFalse hpos =>
      split
      case isTrue hover => exact iff_of_false (by simp) (by omega)
      case isFalse hfits =>
          constructor
          · intro h
            obtain rfl := Except.ok.inj h
            exact ⟨rfl, Nat.pos_of_ne_zero hpos, not_lt.mp hfits⟩
          · rintro ⟨rfl, -, -⟩
            rfl

/-- What `decode_frame` accepts: the length of a payload in front of the payload, which is within
the limits and of the message type. -/
theorem decode_frame_iff {frame : List UInt8} {maximum : Nat} {message : M} :
    decodeFrame serde payload frame maximum = .ok message ↔
      ∃ bytes value, frame = beBytes LENGTH_PREFIX_BYTES bytes.length ++ bytes ∧
        bytes.length < 2 ^ 32 ∧ 0 < bytes.length ∧ bytes.length ≤ maximum ∧
        serde.fromSlice bytes = .ok value ∧ Limited value ∧
        payload.deserialize value = some message := by
  unfold decodeFrame
  constructor
  · intro h
    split at h
    case isTrue => cases h
    case isFalse hfour =>
        obtain ⟨declared, hlength, h⟩ := except_bind_iff.mp h
        simp only at h
        split at h
        case isTrue => cases h
        case isFalse hactual =>
            obtain ⟨value, hvalue, h⟩ := except_bind_iff.mp h
            obtain ⟨_, hvalid, h⟩ := except_bind_iff.mp h
            obtain ⟨hdeclared, hpos, hmaximum⟩ := parse_frame_length_iff.mp hlength
            have hdrop : (frame.drop LENGTH_PREFIX_BYTES).length = declared := by
              rw [List.length_drop]
              exact (not_not.mp hactual).symm
            have htake : (frame.take LENGTH_PREFIX_BYTES).length = LENGTH_PREFIX_BYTES := by
              rw [List.length_take]
              omega
            refine ⟨frame.drop LENGTH_PREFIX_BYTES, value, ?_, ?_, ?_, ?_, hvalue,
              (validate_json_limits_iff value).mp hvalid, from_value_iff.mp h⟩
            · rw [hdrop, ← hdeclared]
              have hbytes := be_bytes_be_nat (frame.take LENGTH_PREFIX_BYTES)
              rw [htake] at hbytes
              rw [hbytes, List.take_append_drop]
            · have hlt := be_nat_lt (frame.take LENGTH_PREFIX_BYTES)
              rw [htake, hdeclared] at hlt
              rw [hdrop]
              exact hlt
            · rw [hdrop]
              exact hpos
            · rw [hdrop]
              exact hmaximum
  · rintro ⟨bytes, value, rfl, hsmall, hpos, hmaximum, hvalue, hlimited, hmessage⟩
    have hfour := length_be_bytes LENGTH_PREFIX_BYTES bytes.length
    have htake : (beBytes LENGTH_PREFIX_BYTES bytes.length ++ bytes).take LENGTH_PREFIX_BYTES =
        beBytes LENGTH_PREFIX_BYTES bytes.length := List.take_left' hfour
    have hdrop : (beBytes LENGTH_PREFIX_BYTES bytes.length ++ bytes).drop LENGTH_PREFIX_BYTES =
        bytes := List.drop_left' hfour
    have hlength : parseFrameLength (beBytes LENGTH_PREFIX_BYTES bytes.length) maximum =
        .ok bytes.length :=
      parse_frame_length_iff.mpr ⟨be_nat_be_bytes hsmall, hpos, hmaximum⟩
    rw [if_neg (by rw [List.length_append, hfour]; omega), htake, hlength]
    refine except_bind_iff.mpr ⟨bytes.length, rfl, ?_⟩
    rw [if_neg (by rw [List.length_append, hfour]; omega), hdrop, hvalue]
    refine except_bind_iff.mpr ⟨value, rfl, ?_⟩
    refine except_bind_iff.mpr ⟨(), (validate_json_limits_iff value).mpr hlimited, ?_⟩
    exact from_value_iff.mpr hmessage

/-- A frame is read as its message. -/
theorem decode_frame_of {maximum : Nat} {message : M}
    (hreads : serde.Reads (payload.serialize message)) (hfits : Fits payload maximum message) :
    decodeFrame serde payload (frameOf payload message) maximum = .ok message := by
  have hbytes := hfits.bytes
  obtain ⟨read, hread, hsame⟩ := from_slice_reads hreads
  exact decode_frame_iff.mpr ⟨payloadBytes payload message, read, rfl, by omega,
    List.length_pos_iff.mpr hreads.nonempty, by omega, hread,
    (limited_congr hsame).mpr hfits.limited, payload.reads_back message read hsame⟩

/-- A frame of another length than the declared one is refused. -/
theorem decode_frame_mismatch {frame : List UInt8} {maximum : Nat}
    (hlength : frame.length ≠ LENGTH_PREFIX_BYTES + beNat (frame.take LENGTH_PREFIX_BYTES)) :
    ∃ error, decodeFrame serde payload frame maximum = .error error := by
  cases hframe : decodeFrame serde payload frame maximum with
  | error error => exact ⟨error, rfl⟩
  | ok message =>
      obtain ⟨bytes, value, rfl, hsmall, -⟩ := decode_frame_iff.mp hframe
      have hfour := length_be_bytes LENGTH_PREFIX_BYTES bytes.length
      rw [List.take_left' hfour, be_nat_be_bytes hsmall, List.length_append, hfour] at hlength
      exact absurd rfl hlength

/-! ## Readers -/

/-- What a reader did: the bytes that it allocated, and the message with the rest of the stream,
unless it refused. -/
structure FrameRead (M : Type) where
  allocated : Nat
  outcome : Option (M × List (List UInt8))

variable (serde payload) in
/-- `read_request` of the broker, and the read of a response in `exchange` of the command line: the
payload is allocated when its length is accepted. -/
def readFrame (maximum : Nat) (stream : List (List UInt8)) : FrameRead M :=
  match readExact LENGTH_PREFIX_BYTES stream with
  | none => ⟨0, none⟩
  | some (head, rest) =>
    match parseFrameLength head maximum with
    | .error _ => ⟨0, none⟩
    | .ok length =>
      match readExact length rest with
      | none => ⟨LENGTH_PREFIX_BYTES + length, none⟩
      | some (body, rest) =>
        ⟨LENGTH_PREFIX_BYTES + length,
          (decodeFrame serde payload (head ++ body) maximum).toOption.map fun message =>
            (message, rest)⟩

/-- A reader allocates at most the limit and the prefix. -/
theorem allocated_le (maximum : Nat) (stream : List (List UInt8)) :
    (readFrame serde payload maximum stream).allocated ≤ LENGTH_PREFIX_BYTES + maximum := by
  unfold readFrame
  split
  · exact Nat.zero_le _
  split
  · exact Nat.zero_le _
  next length hlength =>
    have hmaximum := (parse_frame_length_iff.mp hlength).2.2
    split
    · show LENGTH_PREFIX_BYTES + length ≤ _
      omega
    · show LENGTH_PREFIX_BYTES + length ≤ _
      omega

/-- A reader takes a frame from the front of a stream and leaves what follows. -/
theorem read_frame_of {maximum : Nat} {message : M}
    (hreads : serde.Reads (payload.serialize message)) (hfits : Fits payload maximum message)
    {stream : List (List UInt8)} {tail : List UInt8}
    (hstream : stream.flatten = frameOf payload message ++ tail) :
    ∃ rest, (readFrame serde payload maximum stream).outcome = some (message, rest) ∧
      rest.flatten = tail := by
  have hdecode := decode_frame_of hreads hfits
  have hbytes := hfits.bytes
  have hfour := length_be_bytes LENGTH_PREFIX_BYTES (payloadBytes payload message).length
  unfold frameOf at hstream hdecode
  rw [List.append_assoc] at hstream
  obtain ⟨behind, hhead, hbehind⟩ := @read_exact_some _ LENGTH_PREFIX_BYTES stream (by
    rw [hstream, List.length_append, hfour]
    exact Nat.le_add_right _ _)
  rw [hstream, List.take_left' hfour] at hhead
  rw [hstream, List.drop_left' hfour] at hbehind
  have hlength : parseFrameLength
      (beBytes LENGTH_PREFIX_BYTES (payloadBytes payload message).length) maximum =
        .ok (payloadBytes payload message).length := by
    refine parse_frame_length_iff.mpr ⟨be_nat_be_bytes ?_, List.length_pos_iff.mpr hreads.nonempty,
      by omega⟩
    show _ < 2 ^ 32
    omega
  obtain ⟨rest, hbody, hrest⟩ := @read_exact_some _ (payloadBytes payload message).length behind (by
    rw [hbehind, List.length_append]
    exact Nat.le_add_right _ _)
  rw [hbehind, List.take_left' rfl] at hbody
  rw [hbehind, List.drop_left' rfl] at hrest
  refine ⟨rest, ?_, hrest⟩
  unfold readFrame
  rw [hhead]
  simp only [hlength, hbody, hdecode]
  rfl

/-- A stream that ends inside of a frame is refused. -/
theorem read_frame_cut {maximum : Nat} {message : M} {cut : Nat}
    (hfits : Fits payload maximum message) (hcut : cut < (frameOf payload message).length)
    {stream : List (List UInt8)} (hstream : stream.flatten = (frameOf payload message).take cut) :
    (readFrame serde payload maximum stream).outcome = none := by
  have hbytes := hfits.bytes
  have hfour := length_be_bytes LENGTH_PREFIX_BYTES (payloadBytes payload message).length
  have hwhole : (frameOf payload message).length =
      LENGTH_PREFIX_BYTES + (payloadBytes payload message).length := by
    rw [frameOf, List.length_append, hfour]
  have hlength : stream.flatten.length = cut := by
    rw [hstream, List.length_take]
    omega
  unfold readFrame
  by_cases hhead : cut < LENGTH_PREFIX_BYTES
  · rw [read_exact_none (by omega)]
  · obtain ⟨behind, hread, hbehind⟩ := @read_exact_some _ LENGTH_PREFIX_BYTES stream (by omega)
    have htake : stream.flatten.take LENGTH_PREFIX_BYTES =
        beBytes LENGTH_PREFIX_BYTES (payloadBytes payload message).length := by
      rw [hstream, List.take_take, min_eq_left (by omega), frameOf, List.take_left' hfour]
    rw [hread, htake]
    cases hdeclared : parseFrameLength
        (beBytes LENGTH_PREFIX_BYTES (payloadBytes payload message).length) maximum with
    | error error => simp only [hdeclared]
    | ok length =>
        obtain ⟨hlength', -⟩ := parse_frame_length_iff.mp hdeclared
        rw [be_nat_be_bytes (by show _ < 2 ^ 32; omega)] at hlength'
        have hshort : behind.flatten.length < length := by
          rw [hbehind, List.length_drop]
          omega
        simp only [hdeclared, read_exact_none hshort]

/-- Bytes behind the value of a payload are an error, white space apart. -/
theorem decode_trailing {maximum : Nat} {message : M}
    (hreads : serde.Reads (payload.serialize message))
    (hnumber : isNumber (payload.serialize message) = false) {extra : List UInt8}
    (hextra : extra.all isJsonBlank = false) (frame : List UInt8)
    (hframe : frame.drop LENGTH_PREFIX_BYTES = payloadBytes payload message ++ extra) :
    ∃ error, decodeFrame serde payload frame maximum = .error error := by
  cases hdecode : decodeFrame serde payload frame maximum with
  | error error => exact ⟨error, rfl⟩
  | ok other =>
      obtain ⟨bytes, value, rfl, -, -, -, hvalue, -⟩ := decode_frame_iff.mp hdecode
      rw [List.drop_left' (length_be_bytes _ _)] at hframe
      obtain ⟨read, hparse, -⟩ := hreads.parse extra fun htrue => by
        rw [hnumber] at htrue
        cases htrue
      rw [hframe, SerdeJson.fromSlice, payloadBytes, hparse] at hvalue
      simp only [hextra, Bool.false_eq_true, if_false] at hvalue
      cases hvalue

/-- A declared length over the limit is refused before anything is allocated for it. -/
theorem over_limit {maximum : Nat} {bytes : List UInt8}
    (hlength : LENGTH_PREFIX_BYTES ≤ bytes.length)
    (hover : maximum < beNat (bytes.take LENGTH_PREFIX_BYTES)) :
    decodeFrame serde payload bytes maximum =
        .error (.payloadTooLarge (beNat (bytes.take LENGTH_PREFIX_BYTES)) maximum) ∧
      ∀ stream, stream.flatten = bytes → readFrame serde payload maximum stream = ⟨0, none⟩ := by
  have hparse : parseFrameLength (bytes.take LENGTH_PREFIX_BYTES) maximum =
      .error (.payloadTooLarge (beNat (bytes.take LENGTH_PREFIX_BYTES)) maximum) := by
    unfold parseFrameLength
    simp only
    rw [if_neg (by omega), if_pos hover]
  constructor
  · rw [decodeFrame, if_neg (by omega), hparse]
    rfl
  · rintro stream rfl
    obtain ⟨rest, hread, -⟩ := read_exact_some hlength
    unfold readFrame
    rw [hread]
    simp only [hparse]

/-- What holds of the frames of a message type under a limit. -/
structure FramesRight (serde : SerdeJson) (payload : FramePayload M) (maximum : Nat) : Prop where
  /-- The messages that are written are those within the limits. -/
  encodes : ∀ message, serde.Reads (payload.serialize message) →
    ((∃ frame, encodeFrame serde payload message maximum = .ok frame) ↔
      Fits payload maximum message)
  /-- What is written is read as the message. -/
  decodes : ∀ message frame, serde.Reads (payload.serialize message) →
    encodeFrame serde payload message maximum = .ok frame →
      decodeFrame serde payload frame maximum = .ok message
  /-- Frames one after the other are read as their messages, and exactly their bytes are taken. -/
  streams : ∀ messages frames, List.Forall₂ (fun message frame =>
      serde.Reads (payload.serialize message) ∧
        encodeFrame serde payload message maximum = .ok frame) messages frames →
    ∀ (stream : List (List UInt8)) tail, stream.flatten = frames.flatten ++ tail →
      ∃ rest, readMany (fun stream => (readFrame serde payload maximum stream).outcome)
        messages.length stream = some (messages, rest) ∧ rest.flatten = tail
  /-- A declared length over the limit is refused. -/
  over_limit : ∀ bytes : List UInt8, LENGTH_PREFIX_BYTES ≤ bytes.length →
    maximum < beNat (bytes.take LENGTH_PREFIX_BYTES) →
      decodeFrame serde payload bytes maximum =
          .error (.payloadTooLarge (beNat (bytes.take LENGTH_PREFIX_BYTES)) maximum) ∧
        ∀ stream, stream.flatten = bytes → readFrame serde payload maximum stream = ⟨0, none⟩
  /-- A frame that is cut is refused. -/
  truncated : ∀ message frame cut, serde.Reads (payload.serialize message) →
    encodeFrame serde payload message maximum = .ok frame → cut < frame.length →
      (∃ error, decodeFrame serde payload (frame.take cut) maximum = .error error) ∧
        ∀ stream, stream.flatten = frame.take cut →
          (readFrame serde payload maximum stream).outcome = none
  /-- Bytes behind the declared payload are refused. -/
  longer : ∀ message frame extra, serde.Reads (payload.serialize message) →
    encodeFrame serde payload message maximum = .ok frame → extra ≠ [] →
      ∃ error, decodeFrame serde payload (frame ++ extra) maximum = .error error
  /-- Bytes behind the value of the payload are refused, white space apart. -/
  trailing : ∀ message frame extra, serde.Reads (payload.serialize message) →
    isNumber (payload.serialize message) = false → extra.all isJsonBlank = false →
      frame.drop LENGTH_PREFIX_BYTES = payloadBytes payload message ++ extra →
        ∃ error, decodeFrame serde payload frame maximum = .error error
  /-- No stream makes a reader allocate more than the limit and the prefix. -/
  allocates : ∀ stream,
    (readFrame serde payload maximum stream).allocated ≤ LENGTH_PREFIX_BYTES + maximum

/-- Frames of any message type under any limit. -/
theorem frames_round_trip (serde : SerdeJson) (payload : FramePayload M) (maximum : Nat) :
    FramesRight serde payload maximum where
  encodes message hreads := by
    constructor
    · rintro ⟨frame, hframe⟩
      exact ((encode_frame_iff hreads maximum frame).mp hframe).1
    · exact fun hfits => ⟨_, (encode_frame_iff hreads maximum _).mpr ⟨hfits, rfl⟩⟩
  decodes message frame hreads hframe := by
    obtain ⟨hfits, rfl⟩ := (encode_frame_iff hreads maximum frame).mp hframe
    exact decode_frame_of hreads hfits
  streams messages frames hframes stream tail hstream := by
    have hencoded : frames = messages.map (frameOf payload) ∧
        ∀ message ∈ messages, serde.Reads (payload.serialize message) ∧
          Fits payload maximum message := by
      clear hstream
      induction hframes with
      | nil => exact ⟨rfl, fun message hmessage => absurd hmessage List.not_mem_nil⟩
      | cons hfirst hrest ih =>
          obtain ⟨hfits, rfl⟩ := (encode_frame_iff hfirst.1 maximum _).mp hfirst.2
          obtain ⟨rfl, hall⟩ := ih
          exact ⟨rfl, List.forall_mem_cons.mpr ⟨⟨hfirst.1, hfits⟩, hall⟩⟩
    obtain ⟨rfl, hall⟩ := hencoded
    rw [← List.flatMap_def] at hstream
    refine read_many_encoded ?_ hstream
    intro message hmessage stream tail hstream
    obtain ⟨hreads, hfits⟩ := hall message hmessage
    exact read_frame_of hreads hfits hstream
  over_limit bytes hlength hover := over_limit hlength hover
  truncated message frame cut hreads hframe hcut := by
    obtain ⟨hfits, rfl⟩ := (encode_frame_iff hreads maximum frame).mp hframe
    refine ⟨?_, fun stream hstream => read_frame_cut hfits hcut hstream⟩
    have hbytes := hfits.bytes
    have hfour := length_be_bytes LENGTH_PREFIX_BYTES (payloadBytes payload message).length
    refine decode_frame_mismatch ?_
    rw [List.length_take, min_eq_left hcut.le, List.take_take]
    by_cases hshort : cut < LENGTH_PREFIX_BYTES
    · omega
    · rw [frameOf, List.length_append, hfour] at hcut
      rw [min_eq_left (not_lt.mp hshort), frameOf, List.take_left' hfour,
        be_nat_be_bytes (by show _ < 2 ^ 32; omega)]
      omega
  longer message frame extra hreads hframe hextra := by
    obtain ⟨hfits, rfl⟩ := (encode_frame_iff hreads maximum frame).mp hframe
    have hbytes := hfits.bytes
    have hfour := length_be_bytes LENGTH_PREFIX_BYTES (payloadBytes payload message).length
    have hpos := List.length_pos_iff.mpr hextra
    refine decode_frame_mismatch ?_
    rw [frameOf, List.append_assoc, List.take_left' hfour,
      be_nat_be_bytes (by show _ < 2 ^ 32; omega), List.length_append, List.length_append, hfour]
    omega
  trailing message frame extra hreads hnumber hextra hframe :=
    decode_trailing hreads hnumber hextra frame hframe
  allocates stream := allocated_le maximum stream

end Coding

end Dopedb.Protocol
