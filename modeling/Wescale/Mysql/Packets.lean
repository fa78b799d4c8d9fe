import Mathlib
import Wescale.Lib.GoSlice
import Wescale.Lib.LittleEndian

/-!
# Packets on the wire (`writePacket`, `readPacket` and the ephemeral readers of
# `go/mysql/conn.go`)

A MySQL packet travels as frames: a four-byte header, which holds the length of the frame's
payload in three bytes, least significant first, and a sequence number, then at most
`MaxPacketSize` bytes of the payload. `writePacket` cuts a payload into full frames and one
shorter last frame, empty when the payload ends on a full frame, and gives each frame the next
sequence number. `readPacket` reads frames until one is shorter than `MaxPacketSize`, checking
each sequence number against the one it expects. `readEphemeralPacket` is the same read with a
pooled buffer for a single frame, and `readEphemeralPacketDirect`, the server's first read,
takes a single frame only.

A reader reads from a stream: the bytes the peer has sent and the reader has not read yet. A
read that needs more bytes than the stream holds fails as `io.ReadFull` fails on a connection
the peer closed. The writer writes to such a stream, and a transport that fails a write or
writes short is not modelled. The model returns no state after a failed read: every caller
closes the connection then.

## What is proved

- `writePacketLoop_of_lt`, `writePacketLoop_of_le`: a payload is sent as one short frame, or as
  a full frame followed by the frames of the rest; `sequence_writePacketLoop` counts the frames,
  `length / MaxPacketSize + 1` of them.
- `readPacket_writePacket`: the reader reads back every payload the writer sends, whatever
  follows it on the stream, and the two sides end with the same sequence number.
- `readEphemeralPacket_eq`: the pooled read returns what `readPacket` returns.
- `readEphemeralPacketDirect_writePacketLoop_of_lt`: the direct read takes a payload shorter
  than `MaxPacketSize`.
-/

set_option autoImplicit false

namespace Wescale.Mysql

open Go

/-! ## Writing -/

/-- `MaxPacketSize`: the largest payload of one frame. -/
def MaxPacketSize : Nat := (1 <<< 24) - 1

/-- `packetHeaderSize`. -/
def packetHeaderSize : Nat := 4

theorem MaxPacketSize_eq : MaxPacketSize = 2 ^ 24 - 1 := rfl

/-- The header `writePacket` writes for `toBeSent` bytes: `byte(toBeSent)`,
`byte(toBeSent >> 8)`, `byte(toBeSent >> 16)` and the sequence number. -/
def packetHeader (toBeSent : Nat) (sequence : UInt8) : List UInt8 :=
  [UInt8.ofNat toBeSent, UInt8.ofNat (toBeSent >>> 8), UInt8.ofNat (toBeSent >>> 16), sequence]

/-- The rounds of `writePacket` from `index` on, `payload` being the bytes of `data` after
`index + packetHeaderSize`. Each round writes the header over the four bytes before the frame's
payload, sends them with the next `toBeSent` bytes and puts the four bytes back, so a frame is a
header and a piece of the payload as it was. A payload that ends on a full frame is followed by
an empty one. -/
def writePacketLoop (payload : List UInt8) (sequence : UInt8) : List UInt8 × UInt8 :=
  let toBeSent := min payload.length MaxPacketSize
  let sent := packetHeader toBeSent sequence ++ payload.take toBeSent
  let dataLength := payload.length - toBeSent
  if dataLength = 0 then
    if toBeSent = MaxPacketSize then (sent ++ packetHeader 0 (sequence + 1), sequence + 1 + 1)
    else (sent, sequence + 1)
  else
    let rest := writePacketLoop (payload.drop toBeSent) (sequence + 1)
    (sent ++ rest.1, rest.2)
termination_by payload.length
decreasing_by
  have hmax : 0 < MaxPacketSize := by decide
  simp only [List.length_drop]
  omega

/-- `writePacket`: the frames of `data` after its first `packetHeaderSize` bytes, which the
caller leaves for the header, and the sequence number after them. -/
def writePacket (data : List UInt8) (sequence : UInt8) : Except Panic (List UInt8 × UInt8) :=
  -- `copy(header[0:packetHeaderSize], data[index:index+packetHeaderSize])` slices past the end
  if data.length < packetHeaderSize then .error .sliceBoundsOutOfRange
  else .ok (writePacketLoop (data.drop packetHeaderSize) sequence)

/-! ## Reading -/

/-- What `io.ReadFull` returns on a stream that ends too soon: `io.EOF` when it read nothing,
`io.ErrUnexpectedEOF` when it read part of what it was asked for. -/
inductive ShortRead where
  | eof
  | unexpectedEOF
  deriving DecidableEq, Repr

/-- The `ShortRead` of a stream shorter than a read. -/
def shortRead (stream : List UInt8) : ShortRead := if stream = [] then .eof else .unexpectedEOF

/-- What the reads of a packet return in place of one. -/
inductive ReadError where
  /-- `io.EOF`, passed up as it is: the stream ends before a header. -/
  | eof
  /-- `io.ReadFull(header size) failed`: the stream ends inside a header. -/
  | headerReadFailed
  /-- `invalid sequence, expected %v got %v`. -/
  | invalidSequence (expected got : UInt8)
  /-- `io.ReadFull(packet body of length %v) failed`. -/
  | bodyReadFailed (length : Nat) (cause : ShortRead)
  /-- `readEphemeralPacketDirect doesn't support more than one packet`. -/
  | directMultiPacket
  deriving DecidableEq, Repr

/-- The text of an `io.ReadFull` error. -/
def ShortRead.message : ShortRead → String
  | .eof => "EOF"
  | .unexpectedEOF => "unexpected EOF"

/-- The text of a `ReadError`; `vterrors.Wrapf` puts the cause after the message. -/
def ReadError.message : ReadError → String
  | .eof => "EOF"
  | .headerReadFailed => "io.ReadFull(header size) failed: unexpected EOF"
  | .invalidSequence expected got =>
    "invalid sequence, expected " ++ toString expected.toNat ++ " got " ++ toString got.toNat
  | .bodyReadFailed length cause =>
    "io.ReadFull(packet body of length " ++ toString length ++ ") failed: " ++ cause.message
  | .directMultiPacket => "readEphemeralPacketDirect doesn't support more than one packet"

/-- The length in a header:
`int(uint32(c.header[0]) | uint32(c.header[1])<<8 | uint32(c.header[2])<<16)`. -/
def headerLength (header : List UInt8) : Nat :=
  ((header.getD 0 0).toUInt32 ||| (header.getD 1 0).toUInt32 <<< 8 |||
    (header.getD 2 0).toUInt32 <<< 16).toNat

/-- `readHeaderFrom`: the length of the next frame, read from a header that has the sequence
number the reader expects; the reader then expects the next one. -/
def readHeaderFrom (sequence : UInt8) (stream : List UInt8) :
    Except ReadError (Nat × UInt8 × List UInt8) :=
  if stream.length < packetHeaderSize then
    .error (if stream = [] then .eof else .headerReadFailed)
  else
    let header := stream.take packetHeaderSize
    if header.getD 3 0 ≠ sequence then .error (.invalidSequence sequence (header.getD 3 0))
    else .ok (headerLength header, sequence + 1, stream.drop packetHeaderSize)

/-- The body of a frame: `io.ReadFull` into a buffer of `length` bytes. -/
def readBody (length : Nat) (sequence : UInt8) (stream : List UInt8) :
    Except ReadError (List UInt8 × UInt8 × List UInt8) :=
  if stream.length < length then .error (.bodyReadFailed length (shortRead stream))
  else .ok (stream.take length, sequence, stream.drop length)

/-- `readOnePacket`: one frame, its payload, the sequence number after it and the rest of the
stream. -/
def readOnePacket (sequence : UInt8) (stream : List UInt8) :
    Except ReadError (List UInt8 × UInt8 × List UInt8) := do
  let (length, sequence, stream) ← readHeaderFrom sequence stream
  -- the frame after a frame of exactly `MaxPacketSize`
  if length = 0 then return ([], sequence, stream)
  readBody length sequence stream

theorem length_of_readHeaderFrom {sequence sequence' : UInt8} {stream rest : List UInt8}
    {length : Nat} (h : readHeaderFrom sequence stream = .ok (length, sequence', rest)) :
    rest.length + packetHeaderSize = stream.length := by
  unfold readHeaderFrom at h
  by_cases hshort : stream.length < packetHeaderSize
  · rw [if_pos hshort] at h
    cases h
  · rw [if_neg hshort] at h
    dsimp only at h
    by_cases hseq : (stream.take packetHeaderSize).getD 3 0 ≠ sequence
    · rw [if_pos hseq] at h
      cases h
    · rw [if_neg hseq] at h
      cases h
      rw [List.length_drop]
      omega

theorem length_of_readBody {length : Nat} {sequence sequence' : UInt8}
    {stream data rest : List UInt8}
    (h : readBody length sequence stream = .ok (data, sequence', rest)) :
    rest.length + length = stream.length ∧ data.length = length := by
  unfold readBody at h
  by_cases hshort : stream.length < length
  · rw [if_pos hshort] at h
    cases h
  · rw [if_neg hshort] at h
    cases h
    rw [List.length_drop, List.length_take]
    omega

/-- Every frame read takes its header off the stream. -/
theorem length_lt_of_readOnePacket {sequence sequence' : UInt8} {stream next rest : List UInt8}
    (h : readOnePacket sequence stream = .ok (next, sequence', rest)) :
    rest.length < stream.length := by
  obtain ⟨⟨length, s, stream'⟩, hheader, hbody⟩ := Except.bind_eq_ok.mp h
  have hlen := length_of_readHeaderFrom hheader
  have hsize : packetHeaderSize = 4 := rfl
  dsimp only at hbody
  by_cases hzero : length = 0
  · rw [if_pos hzero] at hbody
    cases hbody
    omega
  · rw [if_neg hzero] at hbody
    have := (length_of_readBody hbody).1
    omega

-- the match hypothesis is used by the termination proof only
set_option linter.unusedVariables false in
/-- The loop of `readPacket` after a full first frame: frames are read and appended until an
empty one or one shorter than `MaxPacketSize`. `readEphemeralPacket` has the same loop, word for
word. -/
def readPacketLoop (data : List UInt8) (sequence : UInt8) (stream : List UInt8) :
    Except ReadError (List UInt8 × UInt8 × List UInt8) :=
  match h : readOnePacket sequence stream with
  | .error e => .error e
  | .ok (next, sequence, rest) =>
    -- again the frame after a frame of exactly `MaxPacketSize`
    if next.length = 0 then .ok (data, sequence, rest)
    else if next.length < MaxPacketSize then .ok (data ++ next, sequence, rest)
    else readPacketLoop (data ++ next) sequence rest
termination_by stream.length
decreasing_by exact length_lt_of_readOnePacket h

/-- `readPacket`: a packet, reassembled from its frames. -/
def readPacket (sequence : UInt8) (stream : List UInt8) :
    Except ReadError (List UInt8 × UInt8 × List UInt8) := do
  let (data, sequence, stream) ← readOnePacket sequence stream
  -- a single frame
  if data.length < MaxPacketSize then return (data, sequence, stream)
  readPacketLoop data sequence stream

/-! ## The ephemeral readers -/

/-- `currentEphemeralPolicy`: what the pooled buffer of a connection is used for. -/
inductive EphemeralPolicy where
  | ephemeralUnused
  | ephemeralWrite
  | ephemeralRead
  deriving DecidableEq, Repr

/-- The value of the constant, which is what `%v` prints. -/
def EphemeralPolicy.toNat : EphemeralPolicy → Nat
  | .ephemeralUnused => 0
  | .ephemeralWrite => 1
  | .ephemeralRead => 2

/-- `readEphemeralPacket` and `readEphemeralPacketDirect`, which differ in their name and in
what they do with a frame of `MaxPacketSize` bytes or more (`large`). Both panic unless the
pooled buffer is unused, and mark it read once a header is read; a frame shorter than
`MaxPacketSize` is read into the pooled buffer. -/
def readEphemeral (name : String)
    (large : Nat → UInt8 → List UInt8 → Except ReadError (List UInt8 × UInt8 × List UInt8))
    (policy : EphemeralPolicy) (sequence : UInt8) (stream : List UInt8) :
    Except String (EphemeralPolicy × Except ReadError (List UInt8 × UInt8 × List UInt8)) :=
  if policy ≠ .ephemeralUnused then
    .error (name ++ ": unexpected currentEphemeralPolicy: " ++ toString policy.toNat)
  else
    match readHeaderFrom sequence stream with
    | .error e => .ok (policy, .error e)
    | .ok (length, sequence, stream) =>
      .ok (.ephemeralRead,
        if length = 0 then .ok ([], sequence, stream)
        else if length < MaxPacketSize then readBody length sequence stream
        else large length sequence stream)

/-- `readEphemeralPacket`: a frame of `MaxPacketSize` bytes is read into a new buffer and the
frames after it are appended by the loop of `readPacket`. -/
def readEphemeralPacket (policy : EphemeralPolicy) (sequence : UInt8) (stream : List UInt8) :
    Except String (EphemeralPolicy × Except ReadError (List UInt8 × UInt8 × List UInt8)) :=
  readEphemeral "readEphemeralPacket"
    (fun length sequence stream => do
      let (data, sequence, stream) ← readBody length sequence stream
      readPacketLoop data sequence stream)
    policy sequence stream

/-- `readEphemeralPacketDirect`: the server's first read, which takes a single frame only. -/
def readEphemeralPacketDirect (policy : EphemeralPolicy) (sequence : UInt8)
    (stream : List UInt8) :
    Except String (EphemeralPolicy × Except ReadError (List UInt8 × UInt8 × List UInt8)) :=
  readEphemeral "readEphemeralPacketDirect" (fun _ _ _ => .error .directMultiPacket)
    policy sequence stream

/-! ## A frame read back -/

/-- The length in a header is the three bytes read least significant first. -/
theorem toNat_or_shiftLeft (a b c : UInt8) :
    (a.toUInt32 ||| b.toUInt32 <<< 8 ||| c.toUInt32 <<< 16).toNat =
      a.toNat + 256 * b.toNat + 65536 * c.toNat := by
  have ha := a.toNat_lt
  have hb := b.toNat_lt
  have hc := c.toNat_lt
  -- the three bytes occupy disjoint bits, so each `|||` is a sum
  have hab : a.toNat ||| b.toNat <<< 8 = 2 ^ 8 * b.toNat + a.toNat := by
    rw [Nat.lor_comm, Nat.shiftLeft_eq, Nat.mul_comm]
    exact (Nat.two_pow_add_eq_or_of_lt ha _).symm
  have habc : (2 ^ 8 * b.toNat + a.toNat) ||| c.toNat <<< 16 =
      2 ^ 16 * c.toNat + (2 ^ 8 * b.toNat + a.toNat) := by
    rw [Nat.lor_comm, Nat.shiftLeft_eq, Nat.mul_comm]
    exact (Nat.two_pow_add_eq_or_of_lt (by omega) _).symm
  simp only [UInt32.toNat_or, UInt32.toNat_shiftLeft, UInt8.toNat_toUInt32, UInt32.reduceToNat,
    Nat.reduceMod]
  rw [Nat.mod_eq_of_lt (show b.toNat <<< 8 < 2 ^ 32 by rw [Nat.shiftLeft_eq]; omega),
    Nat.mod_eq_of_lt (show c.toNat <<< 16 < 2 ^ 32 by rw [Nat.shiftLeft_eq]; omega), hab, habc]
  omega

theorem headerLength_packetHeader {toBeSent : Nat} (h : toBeSent < 2 ^ 24) (sequence : UInt8) :
    headerLength (packetHeader toBeSent sequence) = toBeSent := by
  simp only [headerLength, packetHeader, List.getD_cons_zero, List.getD_cons_succ,
    toNat_or_shiftLeft, UInt8.toNat_ofNat', Nat.shiftRight_eq_div_pow]
  omega

theorem length_packetHeader (toBeSent : Nat) (sequence : UInt8) :
    (packetHeader toBeSent sequence).length = packetHeaderSize := rfl

/-- A header the writer wrote for the sequence number the reader expects reads back. -/
theorem readHeaderFrom_packetHeader {toBeSent : Nat} (h : toBeSent < 2 ^ 24) (sequence : UInt8)
    (rest : List UInt8) :
    readHeaderFrom sequence (packetHeader toBeSent sequence ++ rest) =
      .ok (toBeSent, sequence + 1, rest) := by
  have hlong : ¬(packetHeader toBeSent sequence ++ rest).length < packetHeaderSize := by
    simp [length_packetHeader]
  rw [readHeaderFrom, if_neg hlong, List.take_left' (length_packetHeader _ _),
    List.drop_left' (length_packetHeader _ _)]
  dsimp only
  rw [if_neg (by simp [packetHeader]), headerLength_packetHeader h]

theorem readBody_append (sequence : UInt8) (data rest : List UInt8) :
    readBody data.length sequence (data ++ rest) = .ok (data, sequence, rest) := by
  rw [readBody, if_neg (by simp), List.take_left' rfl, List.drop_left' rfl]

/-- A frame of at most `MaxPacketSize` bytes reads back. -/
theorem readOnePacket_frame (sequence : UInt8) {payload : List UInt8}
    (h : payload.length ≤ MaxPacketSize) (rest : List UInt8) :
    readOnePacket sequence (packetHeader payload.length sequence ++ payload ++ rest) =
      .ok (payload, sequence + 1, rest) := by
  have hlt : payload.length < 2 ^ 24 := by
    rw [MaxPacketSize_eq] at h
    omega
  rw [readOnePacket, List.append_assoc, readHeaderFrom_packetHeader hlt, Except.ok_bind]
  dsimp only
  by_cases hzero : payload.length = 0
  · rw [if_pos hzero, List.eq_nil_of_length_eq_zero hzero]
    rfl
  · rw [if_neg hzero, readBody_append]

/-! ## The frames of a payload -/

theorem MaxPacketSize_pos : 0 < MaxPacketSize := by decide

/-- A payload shorter than `MaxPacketSize` is sent as one frame. -/
theorem writePacketLoop_of_lt {payload : List UInt8} (h : payload.length < MaxPacketSize)
    (sequence : UInt8) :
    writePacketLoop payload sequence = (packetHeader payload.length sequence ++ payload, sequence + 1) := by
  rw [writePacketLoop]
  dsimp only
  rw [Nat.min_eq_left h.le, Nat.sub_self, if_pos rfl, if_neg h.ne, List.take_length]

/-- A payload of `MaxPacketSize` bytes or more is sent as a full frame and then the frames of the
rest; the empty frame after a payload that ends on a full frame is the frame of the empty rest. -/
theorem writePacketLoop_of_le {payload : List UInt8} (h : MaxPacketSize ≤ payload.length)
    (sequence : UInt8) :
    writePacketLoop payload sequence =
      (packetHeader MaxPacketSize sequence ++ payload.take MaxPacketSize ++
          (writePacketLoop (payload.drop MaxPacketSize) (sequence + 1)).1,
        (writePacketLoop (payload.drop MaxPacketSize) (sequence + 1)).2) := by
  rw [writePacketLoop]
  dsimp only
  rw [Nat.min_eq_right h]
  by_cases hfull : payload.length - MaxPacketSize = 0
  · have hdrop : payload.drop MaxPacketSize = [] := List.drop_eq_nil_of_le (by omega)
    rw [if_pos hfull, if_pos rfl, hdrop, writePacketLoop_of_lt (by exact MaxPacketSize_pos)]
    rfl
  · rw [if_neg hfull]

/-- A payload of `n` bytes takes `n / MaxPacketSize + 1` frames, each with its sequence
number, which wraps at 256. -/
theorem sequence_writePacketLoop (payload : List UInt8) (sequence : UInt8) :
    (writePacketLoop payload sequence).2.toNat =
      (sequence.toNat + (payload.length / MaxPacketSize + 1)) % 256 := by
  induction hn : payload.length using Nat.strong_induction_on generalizing payload sequence with
  | _ n ih =>
    by_cases hlt : n < MaxPacketSize
    · rw [writePacketLoop_of_lt (hn ▸ hlt), Nat.div_eq_of_lt hlt, UInt8.toNat_add]
      rfl
    · have hle : MaxPacketSize ≤ payload.length := by omega
      have hdiv : n / MaxPacketSize = (n - MaxPacketSize) / MaxPacketSize + 1 :=
        Nat.div_eq_sub_div MaxPacketSize_pos (by omega)
      rw [writePacketLoop_of_le hle]
      dsimp only
      rw [ih (n - MaxPacketSize) (by have := MaxPacketSize_pos; omega) _ _
        (by rw [List.length_drop, hn]), hdiv, UInt8.toNat_add]
      simp only [UInt8.toNat_one, Nat.reducePow]
      omega

/-! ## A payload read back -/

/-- `readPacketLoop` after a frame read. -/
theorem readPacketLoop_of_readOnePacket {sequence sequence' : UInt8}
    {stream next rest : List UInt8} (h : readOnePacket sequence stream = .ok (next, sequence', rest))
    (data : List UInt8) :
    readPacketLoop data sequence stream =
      if next.length = 0 then .ok (data, sequence', rest)
      else if next.length < MaxPacketSize then .ok (data ++ next, sequence', rest)
      else readPacketLoop (data ++ next) sequence' rest := by
  rw [readPacketLoop]
  split
  · next e he =>
    rw [h] at he
    cases he
  · next next' sequence'' rest' he =>
    rw [h] at he
    cases he
    rfl

/-- The loop of `readPacket` reads the frames of a payload back, after what it has read. The
induction is on the length of the payload, one full frame at a time. -/
theorem readPacketLoop_writePacketLoop (payload : List UInt8) (data : List UInt8)
    (sequence : UInt8) (rest : List UInt8) :
    readPacketLoop data sequence ((writePacketLoop payload sequence).1 ++ rest) =
      .ok (data ++ payload, (writePacketLoop payload sequence).2, rest) := by
  induction hn : payload.length using Nat.strong_induction_on generalizing payload data sequence
    with
  | _ n ih =>
    by_cases hlt : n < MaxPacketSize
    · -- the last frame
      rw [writePacketLoop_of_lt (hn ▸ hlt),
        readPacketLoop_of_readOnePacket (readOnePacket_frame sequence (by omega) rest)]
      by_cases hzero : payload.length = 0
      · rw [if_pos hzero, List.eq_nil_of_length_eq_zero hzero, List.append_nil]
      · rw [if_neg hzero, if_pos (by omega)]
    · -- a full frame, then the frames of the rest
      have hle : MaxPacketSize ≤ payload.length := by omega
      have htake : (payload.take MaxPacketSize).length = MaxPacketSize := by
        rw [List.length_take]
        omega
      have hframe := readOnePacket_frame sequence htake.le
        ((writePacketLoop (payload.drop MaxPacketSize) (sequence + 1)).1 ++ rest)
      rw [htake] at hframe
      rw [writePacketLoop_of_le hle,
        List.append_assoc (packetHeader MaxPacketSize sequence ++ payload.take MaxPacketSize),
        readPacketLoop_of_readOnePacket hframe, htake, if_neg MaxPacketSize_pos.ne',
        if_neg (lt_irrefl _), ih (n - MaxPacketSize) (by have := MaxPacketSize_pos; omega) _ _ _
          (by rw [List.length_drop, hn]),
        List.append_assoc, List.take_append_drop]

/-- `readPacket` reads the frames of a payload back. -/
theorem readPacket_writePacketLoop (payload : List UInt8) (sequence : UInt8) (rest : List UInt8) :
    readPacket sequence ((writePacketLoop payload sequence).1 ++ rest) =
      .ok (payload, (writePacketLoop payload sequence).2, rest) := by
  by_cases hlt : payload.length < MaxPacketSize
  · rw [writePacketLoop_of_lt hlt, readPacket,
      readOnePacket_frame sequence hlt.le rest, Except.ok_bind]
    dsimp only
    rw [if_pos hlt]
    rfl
  · have hle : MaxPacketSize ≤ payload.length := by omega
    have htake : (payload.take MaxPacketSize).length = MaxPacketSize := by
      rw [List.length_take]
      omega
    have hframe := readOnePacket_frame sequence htake.le
      ((writePacketLoop (payload.drop MaxPacketSize) (sequence + 1)).1 ++ rest)
    rw [htake] at hframe
    rw [writePacketLoop_of_le hle,
      List.append_assoc (packetHeader MaxPacketSize sequence ++ payload.take MaxPacketSize),
      readPacket, hframe, Except.ok_bind]
    dsimp only
    rw [htake, if_neg (lt_irrefl _), readPacketLoop_writePacketLoop, List.take_append_drop]

/-- **What the writer sends, the reader reads.** For every payload, of any length, and every
sequence number: `writePacket` sends it as `length / MaxPacketSize + 1` frames, and `readPacket`,
expecting the writer's first sequence number, reads the payload back from those frames, leaves
whatever follows them on the stream, and ends expecting the sequence number the writer goes on
with. The bytes the caller left for the header do not matter. -/
theorem readPacket_writePacket (header : Vector UInt8 packetHeaderSize)
    (payload rest : List UInt8) (sequence : UInt8) :
    ∃ frames sequence', writePacket (header.toList ++ payload) sequence = .ok (frames, sequence') ∧
      sequence'.toNat = (sequence.toNat + (payload.length / MaxPacketSize + 1)) % 256 ∧
      readPacket sequence (frames ++ rest) = .ok (payload, sequence', rest) := by
  have hdata : ¬(header.toList ++ payload).length < packetHeaderSize := by simp
  refine ⟨(writePacketLoop payload sequence).1, (writePacketLoop payload sequence).2, ?_,
    sequence_writePacketLoop payload sequence, readPacket_writePacketLoop payload sequence rest⟩
  rw [writePacket, if_neg hdata, List.drop_left' header.length_toList]

/-! ## The ephemeral readers -/

/-- The ephemeral readers from an unused buffer, after a header: what they do with a frame of
each length. -/
theorem readEphemeral_of_readHeaderFrom {name : String}
    {large : Nat → UInt8 → List UInt8 → Except ReadError (List UInt8 × UInt8 × List UInt8)}
    {sequence sequence' : UInt8} {stream rest : List UInt8} {length : Nat}
    (h : readHeaderFrom sequence stream = .ok (length, sequence', rest)) :
    readEphemeral name large .ephemeralUnused sequence stream =
      .ok (.ephemeralRead,
        if length = 0 then .ok ([], sequence', rest)
        else if length < MaxPacketSize then readBody length sequence' rest
        else large length sequence' rest) := by
  rw [readEphemeral, if_neg (not_not.mpr rfl), h]

/-- `readPacket` after a header: an empty frame, or the body of the frame and, when it is full,
the loop. -/
theorem readPacket_of_readHeaderFrom {sequence sequence' : UInt8} {stream rest : List UInt8}
    {length : Nat} (h : readHeaderFrom sequence stream = .ok (length, sequence', rest)) :
    readPacket sequence stream =
      if length = 0 then .ok ([], sequence', rest)
      else readBody length sequence' rest >>= fun (data, sequence, stream) =>
        if data.length < MaxPacketSize then .ok (data, sequence, stream)
        else readPacketLoop data sequence stream := by
  rw [readPacket, readOnePacket, h, Except.ok_bind]
  dsimp only
  by_cases hzero : length = 0
  · rw [if_pos hzero, if_pos hzero]
    rfl
  · rw [if_neg hzero, if_neg hzero]
    rfl

/-- **The pooled read agrees with `readPacket`**: from an unused buffer, `readEphemeralPacket`
returns what `readPacket` returns, on every stream, whether it reads the frame into the pooled
buffer or into a new one, and marks the buffer read once it has read a header. -/
theorem readEphemeralPacket_eq (sequence : UInt8) (stream : List UInt8) :
    readEphemeralPacket .ephemeralUnused sequence stream =
      .ok (if (readHeaderFrom sequence stream).isOk then .ephemeralRead else .ephemeralUnused,
        readPacket sequence stream) := by
  cases hh : readHeaderFrom sequence stream with
  | error e =>
    rw [readEphemeralPacket, readEphemeral, if_neg (not_not.mpr rfl), hh, readPacket,
      readOnePacket, hh]
    rfl
  | ok r =>
    obtain ⟨length, sequence', rest⟩ := r
    rw [readEphemeralPacket, readEphemeral_of_readHeaderFrom hh, readPacket_of_readHeaderFrom hh]
    simp only [Except.isOk, Except.toBool, if_true]
    by_cases hzero : length = 0
    · rw [if_pos hzero, if_pos hzero]
    · rw [if_neg hzero, if_neg hzero]
      -- the pooled buffer holds a frame shorter than `MaxPacketSize`, which `readPacket` returns
      -- as it is; a longer one goes to the loop on both paths
      cases hb : readBody length sequence' rest with
      | error e =>
        by_cases hlt : length < MaxPacketSize
        · rw [if_pos hlt]
          rfl
        · rw [if_neg hlt]
          rfl
      | ok r =>
        obtain ⟨data, sequence'', rest'⟩ := r
        have hlen := (length_of_readBody hb).2
        by_cases hlt : length < MaxPacketSize
        · rw [if_pos hlt, Except.ok_bind]
          dsimp only
          rw [if_pos (hlen ▸ hlt)]
        · rw [if_neg hlt, Except.ok_bind]
          dsimp only
          rw [Except.ok_bind, if_neg (hlen ▸ hlt)]

/-- The frames of a payload start with a header the reader accepts. -/
theorem isOk_readHeaderFrom_writePacketLoop (payload : List UInt8) (sequence : UInt8)
    (rest : List UInt8) :
    (readHeaderFrom sequence ((writePacketLoop payload sequence).1 ++ rest)).isOk = true := by
  by_cases hlt : payload.length < MaxPacketSize
  · rw [writePacketLoop_of_lt hlt, List.append_assoc,
      readHeaderFrom_packetHeader (by rw [MaxPacketSize_eq] at hlt; omega)]
    rfl
  · rw [writePacketLoop_of_le (by omega), List.append_assoc, List.append_assoc,
      readHeaderFrom_packetHeader (by decide)]
    rfl

/-- `readEphemeralPacket` reads the frames of a payload back. -/
theorem readEphemeralPacket_writePacketLoop (payload : List UInt8) (sequence : UInt8)
    (rest : List UInt8) :
    readEphemeralPacket .ephemeralUnused sequence ((writePacketLoop payload sequence).1 ++ rest) =
      .ok (.ephemeralRead, .ok (payload, (writePacketLoop payload sequence).2, rest)) := by
  rw [readEphemeralPacket_eq, isOk_readHeaderFrom_writePacketLoop, if_pos rfl,
    readPacket_writePacketLoop]

/-- `readEphemeralPacketDirect` reads back a payload sent in one frame. -/
theorem readEphemeralPacketDirect_writePacketLoop_of_lt {payload : List UInt8}
    (hlt : payload.length < MaxPacketSize) (sequence : UInt8) (rest : List UInt8) :
    readEphemeralPacketDirect .ephemeralUnused sequence ((writePacketLoop payload sequence).1 ++ rest) =
      .ok (.ephemeralRead, .ok (payload, (writePacketLoop payload sequence).2, rest)) := by
  have hheader := readHeaderFrom_packetHeader (show payload.length < 2 ^ 24 by
    rw [MaxPacketSize_eq] at hlt; omega) sequence (payload ++ rest)
  rw [writePacketLoop_of_lt hlt, List.append_assoc, readEphemeralPacketDirect,
    readEphemeral_of_readHeaderFrom hheader, if_pos hlt]
  by_cases hzero : payload.length = 0
  · rw [if_pos hzero, List.eq_nil_of_length_eq_zero hzero]
    rfl
  · rw [if_neg hzero, readBody_append]

end Wescale.Mysql
