import Wescale.Mysql.Encoding

/-!
# The OK packet (`go/mysql/conn.go`)

`writeOKPacketWithHeader` lays out an OK packet after its header byte: the affected rows and
the last insert id as length-encoded integers, the status flags and the warnings as two bytes
each, then the info. With `CapabilityClientSessionTrack` the info is a length-encoded string
and, when the status flags have `ServerSessionStateChanged`, one session-state block follows
that carries the GTIDs, three length encodings deep (`gtidData`). Without the capability the
info runs to the end of the packet as it is.

`parseOKPacket` reads the fields back from position 1. It reads the info as a length-encoded
string whatever the capabilities, and keeps an empty one when that read fails. Its
session-state loop walks typed sub-blocks until no byte is left. One round of the loop is
`sessionStateRound`; a sub-block of a type other than `SessionTrackGtids` is skipped by
`int(sessionLen)` bytes, which may go backwards, so the loop runs on fuel and a run that comes
back to a position it started a round from is `none`, a loop that does not end.

## What is proved

- `length_writeOKPacketWithHeader`: the writes fill the `length` the writer computes first.
- `readLenEncInt_getLenEncInt`, `readUint16_writeUint16`, `readLenEncString_getLenEncString`:
  each decoder reads back what its encoder wrote, on both sides of every length-encoding
  boundary.
- `parseOKPacket_writeOKPacketWithHeader`: with `CapabilityClientSessionTrack`, every packet
  parses back; its session state comes back when the status flags announce it and is empty
  otherwise.
- `parseOKPacket_writeOKPacketWithHeader_of_not_sessionTrack`: without the capability, the
  numeric fields come back and the info comes back only when it is empty.
-/

set_option autoImplicit false

namespace Wescale.Mysql

open Go

/-- `PacketOK`. The info and the session state are Go strings, sequences of bytes. -/
structure PacketOK where
  affectedRows : UInt64
  lastInsertID : UInt64
  statusFlags : UInt16
  warnings : UInt16
  info : List UInt8
  sessionStateData : List UInt8
  deriving DecidableEq, Repr

/-- `CapabilityClientSessionTrack`. -/
def CapabilityClientSessionTrack : UInt32 := (1 : UInt32) <<< 23

/-- `ServerSessionStateChanged`. -/
def ServerSessionStateChanged : UInt16 := 0x4000

/-- `SessionTrackGtids`. -/
def SessionTrackGtids : UInt8 := 0x03

/-- `OKPacket`, the header byte of an OK packet. -/
def OKPacket : UInt8 := 0x00

/-- The capability test of the writer and the parser:
`c.Capabilities&CapabilityClientSessionTrack == CapabilityClientSessionTrack`. -/
def sessionTrack (capabilities : UInt32) : Bool :=
  capabilities &&& CapabilityClientSessionTrack == CapabilityClientSessionTrack

/-- `statusFlags&ServerSessionStateChanged == ServerSessionStateChanged`. -/
def sessionStateChanged (statusFlags : UInt16) : Bool :=
  statusFlags &&& ServerSessionStateChanged == ServerSessionStateChanged

/-! ## The writer -/

/-- `lenEncIntSize`. -/
def lenEncIntSize (i : UInt64) : Nat :=
  if i < 251 then 1
  else if i < (1 : UInt64) <<< 16 then 3
  else if i < (1 : UInt64) <<< 24 then 4
  else 9

/-- `lenEncStringSize`. -/
def lenEncStringSize (value : List UInt8) : Nat :=
  lenEncIntSize (UInt64.ofNat value.length) + value.length

/-- `getLenEncInt`: one byte below 251, else a marker and 2, 3 or 8 bytes, least significant
first. -/
def getLenEncInt (i : UInt64) : List UInt8 :=
  if i < 251 then [i.toUInt8]
  else if i < (1 : UInt64) <<< 16 then [0xfc, i.toUInt8, (i >>> 8).toUInt8]
  else if i < (1 : UInt64) <<< 24 then [0xfd, i.toUInt8, (i >>> 8).toUInt8, (i >>> 16).toUInt8]
  else [0xfe, i.toUInt8, (i >>> 8).toUInt8, (i >>> 16).toUInt8, (i >>> 24).toUInt8,
    (i >>> 32).toUInt8, (i >>> 40).toUInt8, (i >>> 48).toUInt8, (i >>> 56).toUInt8]

/-- `getLenEncString`. -/
def getLenEncString (value : List UInt8) : List UInt8 :=
  getLenEncInt (UInt64.ofNat value.length) ++ value

/-- The bytes `writeLenEncInt` stores from `pos`: its four cases store those of
`getLenEncInt`. -/
def writeLenEncInt (i : UInt64) : List UInt8 := getLenEncInt i

/-- The bytes `writeUint16` stores. -/
def writeUint16 (value : UInt16) : List UInt8 := [value.toUInt8, (value >>> 8).toUInt8]

/-- The bytes `writeEOFString` copies: the whole string, since the packet has room for it
(`length_writeOKPacketWithHeader`). -/
def writeEOFString (value : List UInt8) : List UInt8 := value

/-- The bytes `writeLenEncString` stores. -/
def writeLenEncString (value : List UInt8) : List UInt8 :=
  writeLenEncInt (UInt64.ofNat value.length) ++ writeEOFString value

/-- The session-state block `writeOKPacketWithHeader` builds in `gtidData`: one sub-block of
type `SessionTrackGtids` whose data is the encoding specification `0x00` and the GTIDs as a
length-encoded string, the whole block length-encoded. -/
def gtidData (sessionStateData : List UInt8) : List UInt8 :=
  let gtidData := getLenEncString sessionStateData
  let gtidData := 0x00 :: gtidData
  let gtidData := getLenEncString gtidData
  let gtidData := 0x03 :: gtidData
  getLenEncInt (UInt64.ofNat gtidData.length) ++ gtidData

/-- The `length` `writeOKPacketWithHeader` starts the packet with. -/
def okPacketLength (capabilities : UInt32) (packetOk : PacketOK) : Nat :=
  let length := 1 + lenEncIntSize packetOk.affectedRows + lenEncIntSize packetOk.lastInsertID
  let length := length + 4
  if sessionTrack capabilities then
    length + lenEncStringSize packetOk.info +
      if sessionStateChanged packetOk.statusFlags then (gtidData packetOk.sessionStateData).length
      else 0
  else length + packetOk.info.length

/-- The bytes `writeOKPacketWithHeader` writes after the packet header, in the order of its
writes. It writes them into a packet of `okPacketLength` bytes, which they fill exactly
(`length_writeOKPacketWithHeader`), so they are the packet. -/
def writeOKPacketWithHeader (capabilities : UInt32) (packetOk : PacketOK) (headerType : UInt8) :
    List UInt8 :=
  [headerType] ++ writeLenEncInt packetOk.affectedRows ++ writeLenEncInt packetOk.lastInsertID ++
    writeUint16 packetOk.statusFlags ++ writeUint16 packetOk.warnings ++
    if sessionTrack capabilities then
      writeLenEncString packetOk.info ++
        if sessionStateChanged packetOk.statusFlags then
          writeEOFString (gtidData packetOk.sessionStateData)
        else []
    else writeEOFString packetOk.info

/-! ## The parser -/

/-- The fields of `parseOKPacket` up to the info, read from position 1 (the header byte is read
already), and the position after them. `readLenEncInfo` moves the position only past a
complete string, and a failed read leaves the info empty. An error is the text of its format,
without the dump of the decoder that follows it. -/
def readOKPacketFields (enableQueryInfo : Bool) (data : Slice UInt8) :
    Except Panic (Except String (PacketOK × Int64)) := do
  let (affectedRows, pos, ok) ← readLenEncInt data 1
  if !ok then return .error "invalid OK packet affectedRows"
  let (lastInsertID, pos, ok) ← readLenEncInt data pos
  if !ok then return .error "invalid OK packet lastInsertID"
  let (statusFlags, pos, ok) ← readUint16 data pos
  if !ok then return .error "invalid OK packet statusFlags"
  let (warnings, pos, ok) ← readUint16 data pos
  if !ok then return .error "invalid OK packet warnings"
  let (info, infoPos, infoOk) ← readLenEncString data pos
  let pos := if infoOk then infoPos else pos
  let packetOK : PacketOK :=
    { affectedRows := affectedRows
      lastInsertID := lastInsertID
      statusFlags := statusFlags
      warnings := warnings
      info := if enableQueryInfo then info else []
      sessionStateData := [] }
  return .ok (packetOK, pos)

/-- What one round of the session-state loop of `parseOKPacket` comes to. -/
inductive SessionRound where
  /-- No sub-block starts here: the loop breaks. -/
  | done
  /-- A sub-block is cut short: `parseOKPacket` fails with the message. -/
  | fail (message : String)
  /-- The next sub-block starts at `pos`. -/
  | next (pos : Int64) (packet : PacketOK)
  deriving DecidableEq

/-- One round of the session-state loop, from `pos`. -/
def sessionStateRound (data : Slice UInt8) (pos : Int64) (packet : PacketOK) :
    Except Panic SessionRound := do
  let (sscType, pos, ok) ← readByte data pos
  if !ok then return .done
  let (sessionLen, pos, ok) ← readLenEncInt data pos
  if !ok then
    return .fail ("invalid OK packet session state change length for type " ++ toString sscType)
  -- a sub-block of another type is skipped by `int(sessionLen)` bytes
  if sscType != SessionTrackGtids then return .next (pos + sessionLen.toInt64) packet
  let (_, pos, ok) ← readByte data pos
  if !ok then return .fail "invalid OK packet gtids type"
  let (gtids, pos, ok) ← readLenEncString data pos
  if !ok then return .fail "invalid OK packet gtids"
  return .next pos { packet with sessionStateData := gtids }

/-- The session-state loop, for at most `fuel` rounds. A round that goes on started at a byte
of the packet, and where it goes on depends on where it started alone; so a run of more rounds
than the packet has bytes has come back to a position it started from and goes round for ever,
and is `none`. -/
def sessionStateLoop (data : Slice UInt8) :
    Nat → Int64 → PacketOK → Option (Except Panic (Except String PacketOK))
  | 0, _, _ => none
  | fuel + 1, pos, packet =>
    match sessionStateRound data pos packet with
    | .error e => some (.error e)
    | .ok .done => some (.ok (.ok packet))
    | .ok (.fail message) => some (.ok (.error message))
    | .ok (.next pos packet) => sessionStateLoop data fuel pos packet

/-- `parseOKPacket` on the packet `data`, header byte included: `none` when its session-state
loop does not end, else what it returns or the panic it raises. -/
def parseOKPacket (capabilities : UInt32) (enableQueryInfo : Bool) (data : Slice UInt8) :
    Option (Except Panic (Except String PacketOK)) :=
  match readOKPacketFields enableQueryInfo data with
  | .error e => some (.error e)
  | .ok (.error message) => some (.ok (.error message))
  | .ok (.ok (packet, pos)) =>
    if sessionTrack capabilities && sessionStateChanged packet.statusFlags then
      match readLenEncInt data pos with
      | .error e => some (.error e)
      | .ok (length, pos, ok) =>
        -- no more data, or an empty block: the packet is complete
        if !ok || length == 0 then some (.ok (.ok packet))
        else sessionStateLoop data (data.toList.length + 1) pos packet
    else some (.ok (.ok packet))

/-! ## Reading back what was written

Each decoder is run at a position `pos` of a packet that holds the bytes `enc` of its encoder
from there, after `pre` and before `rest`; it reads the encoded value and stops after `enc`. -/

section ReadBack

variable {data : Slice UInt8} {pos : Int64} {pre rest : List UInt8}

/-- The byte at `pos` is the first one after `pre`. -/
theorem get_of_append {m : UInt8} (hdata : data.toList = pre ++ m :: rest)
    (hpos : pos.toInt = pre.length) (hlt : pos.toInt.toNat < data.toList.length) :
    data.toList.get ⟨pos.toInt.toNat, hlt⟩ = m := by
  have hidx : pos.toInt.toNat = pre.length := by omega
  simp only [List.get_eq_getElem, hidx, hdata, List.getElem_append_right (Nat.le_refl _),
    Nat.sub_self, List.getElem_cons_zero]

theorem readByte_of_append {b : UInt8} (hdata : data.toList = pre ++ [b] ++ rest)
    (hpos : pos.toInt = pre.length) :
    ∃ p, readByte data pos = .ok (b, p, true) ∧ p.toInt = (pre ++ [b]).length := by
  have hlen := data.length_le_maxAlloc
  have hsize : data.toList.length = pre.length + 1 + rest.length := by
    rw [hdata, List.length_append, List.length_append, List.length_singleton]
  refine ⟨pos + 1, ?_, ?_⟩
  · rw [readByte_of_lt (by omega) (by omega),
      get_of_append (by rw [hdata, List.append_assoc, List.singleton_append]) hpos]
  · rw [Int64.toInt_add_one_of_lt (by omega), List.length_append, List.length_singleton, hpos]
    omega

/-- A marker case of `readLenEncInt` reads the `n` bytes after the marker. -/
theorem readLenEncTail_of_append {m : UInt8} {bs : List UInt8}
    (hdata : data.toList = pre ++ m :: bs ++ rest) (hpos : pos.toInt = pre.length)
    (hn : bs.length ≤ 8) :
    ∃ p, readLenEncTail data pos bs.length =
      .ok (UInt64.ofNat (littleEndian bs), p, true) ∧ p.toInt = (pre ++ m :: bs).length := by
  have hlen := data.length_le_maxAlloc
  have hsize : data.toList.length = pre.length + bs.length + 1 + rest.length := by
    rw [hdata, List.length_append, List.length_append, List.length_cons]
    omega
  have hend : (pos + Int64.ofNat bs.length).toInt = pos.toInt + bs.length :=
    toInt_add_ofNat (by omega) (by omega) (by omega)
  refine ⟨pos + Int64.ofNat (bs.length + 1), ?_, ?_⟩
  · have hidx : pos.toInt.toNat + 1 = (pre ++ [m]).length := by
      rw [List.length_append, List.length_singleton]
      omega
    rw [readLenEncTail, if_neg (by simp only [ge_iff_le, Slice.len_le_iff]; omega),
      readAfter_eq (by omega) (by omega), Except.ok_bind, hdata, hidx, List.append_cons pre m bs,
      List.append_assoc, List.drop_left, List.take_left]
    rfl
  · rw [toInt_add_ofNat (by omega) (by omega) (by omega), List.length_append, List.length_cons,
      hpos]
    omega

/-- `readLenEncInt` at a byte `m` of the packet: a marker announces 2, 3 or 8 bytes, any other
byte is the value. -/
theorem readLenEncInt_of_append_cons {m : UInt8} (hdata : data.toList = pre ++ m :: rest)
    (hpos : pos.toInt = pre.length) :
    readLenEncInt data pos =
      if m = 0xfc then readLenEncTail data pos 2
      else if m = 0xfd then readLenEncTail data pos 3
      else if m = 0xfe then readLenEncTail data pos 8
      else .ok (m.toUInt64, pos + 1, true) := by
  have hsize : data.toList.length = pre.length + 1 + rest.length := by
    rw [hdata, List.length_append, List.length_cons]
    omega
  rw [readLenEncInt, if_neg (by simp only [ge_iff_le, Slice.len_le_iff]; omega),
    index_of_lt data pos (by omega) (by omega), Except.ok_bind, get_of_append hdata hpos]
  rfl

/-! ### The bytes of a length-encoded integer -/

/-- The two bytes after `0xfc` are the value below `2^16`. -/
theorem littleEndian_two {i : UInt64} (h : i.toNat < 2 ^ 16) :
    littleEndian [i.toUInt8, (i >>> 8).toUInt8] = i.toNat := by
  simp only [littleEndian, UInt64.toNat_toUInt8, UInt64.toNat_shiftRight, Nat.shiftRight_eq_div_pow,
    Nat.reducePow, UInt64.reduceToNat, Nat.reduceMod, Nat.mul_zero, Nat.add_zero]
  omega

/-- The three bytes after `0xfd` are the value below `2^24`. -/
theorem littleEndian_three {i : UInt64} (h : i.toNat < 2 ^ 24) :
    littleEndian [i.toUInt8, (i >>> 8).toUInt8, (i >>> 16).toUInt8] = i.toNat := by
  simp only [littleEndian, UInt64.toNat_toUInt8, UInt64.toNat_shiftRight, Nat.shiftRight_eq_div_pow,
    Nat.reducePow, UInt64.reduceToNat, Nat.reduceMod, Nat.mul_zero, Nat.add_zero]
  omega

/-- The eight bytes after `0xfe` are the value. -/
theorem littleEndian_eight (i : UInt64) :
    littleEndian [i.toUInt8, (i >>> 8).toUInt8, (i >>> 16).toUInt8, (i >>> 24).toUInt8,
      (i >>> 32).toUInt8, (i >>> 40).toUInt8, (i >>> 48).toUInt8, (i >>> 56).toUInt8] =
      i.toNat := by
  have hi := i.toNat_lt
  simp only [littleEndian, UInt64.toNat_toUInt8, UInt64.toNat_shiftRight, Nat.shiftRight_eq_div_pow,
    Nat.reducePow, UInt64.reduceToNat, Nat.reduceMod, Nat.mul_zero, Nat.add_zero]
  omega

/-- A marker case of `readLenEncInt` reads back a value whose bytes follow the marker. -/
theorem readLenEncInt_of_marker {m : UInt8} {bs : List UInt8} {i : UInt64}
    (hdata : data.toList = pre ++ m :: bs ++ rest) (hpos : pos.toInt = pre.length)
    (hmarker : readLenEncInt data pos = readLenEncTail data pos bs.length) (hn : bs.length ≤ 8)
    (hv : littleEndian bs = i.toNat) :
    ∃ p, readLenEncInt data pos = .ok (i, p, true) ∧ p.toInt = (pre ++ m :: bs).length := by
  obtain ⟨p, hp, hplen⟩ := readLenEncTail_of_append hdata hpos hn
  rw [hv, UInt64.ofNat_toNat] at hp
  exact ⟨p, hmarker.trans hp, hplen⟩

theorem readLenEncInt_getLenEncInt {i : UInt64}
    (hdata : data.toList = pre ++ getLenEncInt i ++ rest) (hpos : pos.toInt = pre.length) :
    ∃ p, readLenEncInt data pos = .ok (i, p, true) ∧
      p.toInt = (pre ++ getLenEncInt i).length := by
  have hlen := data.length_le_maxAlloc
  have hcons : ∀ {m : UInt8} {bs : List UInt8}, getLenEncInt i = m :: bs →
      data.toList = pre ++ m :: (bs ++ rest) := fun henc => by
    rw [hdata, henc, List.append_assoc, List.cons_append]
  -- the four cases of `getLenEncInt`, each against the dispatch of `readLenEncInt`
  by_cases h1 : i < 251
  · have henc : getLenEncInt i = [i.toUInt8] := by rw [getLenEncInt, if_pos h1]
    have hi : i.toNat < 251 := UInt64.lt_iff_toNat_lt.mp h1
    have hb : i.toUInt8.toNat = i.toNat := by
      rw [UInt64.toNat_toUInt8]
      omega
    have hne : ∀ c : UInt8, 251 ≤ c.toNat → i.toUInt8 ≠ c := fun c hc heq => by
      rw [← heq] at hc
      omega
    have hsize : data.toList.length = pre.length + 1 + rest.length := by
      rw [hdata, henc, List.length_append, List.length_append, List.length_singleton]
    rw [readLenEncInt_of_append_cons (hcons henc) hpos, if_neg (hne _ (by decide)),
      if_neg (hne _ (by decide)), if_neg (hne _ (by decide))]
    have hval : i.toUInt8.toUInt64 = i := UInt64.toNat_inj.mp (by rw [UInt8.toNat_toUInt64, hb])
    refine ⟨pos + 1, by rw [hval], ?_⟩
    rw [Int64.toInt_add_one_of_lt (by omega), henc, List.length_append, List.length_singleton, hpos]
    omega
  by_cases h2 : i < (1 : UInt64) <<< 16
  · have henc : getLenEncInt i = 0xfc :: [i.toUInt8, (i >>> 8).toUInt8] := by
      rw [getLenEncInt, if_neg h1, if_pos h2]
    have hi : i.toNat < 2 ^ 16 := UInt64.lt_iff_toNat_lt.mp h2
    rw [henc] at hdata ⊢
    exact readLenEncInt_of_marker hdata hpos
      (by rw [readLenEncInt_of_append_cons (hcons henc) hpos, if_pos rfl]; rfl)
      (by simp) (littleEndian_two hi)
  by_cases h3 : i < (1 : UInt64) <<< 24
  · have henc : getLenEncInt i = 0xfd :: [i.toUInt8, (i >>> 8).toUInt8, (i >>> 16).toUInt8] := by
      rw [getLenEncInt, if_neg h1, if_neg h2, if_pos h3]
    have hi : i.toNat < 2 ^ 24 := UInt64.lt_iff_toNat_lt.mp h3
    rw [henc] at hdata ⊢
    exact readLenEncInt_of_marker hdata hpos
      (by rw [readLenEncInt_of_append_cons (hcons henc) hpos, if_neg (by decide), if_pos rfl]; rfl)
      (by simp) (littleEndian_three hi)
  · have henc : getLenEncInt i = 0xfe :: [i.toUInt8, (i >>> 8).toUInt8, (i >>> 16).toUInt8,
        (i >>> 24).toUInt8, (i >>> 32).toUInt8, (i >>> 40).toUInt8, (i >>> 48).toUInt8,
        (i >>> 56).toUInt8] := by
      rw [getLenEncInt, if_neg h1, if_neg h2, if_neg h3]
    rw [henc] at hdata ⊢
    exact readLenEncInt_of_marker hdata hpos
      (by
        rw [readLenEncInt_of_append_cons (hcons henc) hpos, if_neg (by decide), if_neg (by decide),
          if_pos rfl]
        rfl)
      (Nat.le_refl _) (littleEndian_eight i)

/-! ### Two-byte integers and length-encoded strings -/

theorem littleEndian_writeUint16 (v : UInt16) : littleEndian (writeUint16 v) = v.toNat := by
  have hv := v.toNat_lt
  simp only [writeUint16, littleEndian, UInt16.toNat_toUInt8, UInt16.toNat_shiftRight,
    Nat.shiftRight_eq_div_pow, Nat.reducePow, UInt16.reduceToNat, Nat.reduceMod, Nat.mul_zero,
    Nat.add_zero]
  omega

theorem readUint16_writeUint16 {v : UInt16} (hdata : data.toList = pre ++ writeUint16 v ++ rest)
    (hpos : pos.toInt = pre.length) :
    ∃ p, readUint16 data pos = .ok (v, p, true) ∧ p.toInt = (pre ++ writeUint16 v).length := by
  have hlen := data.length_le_maxAlloc
  have hw : (writeUint16 v).length = 2 := rfl
  have hsize : data.toList.length = pre.length + 2 + rest.length := by
    rw [hdata, List.length_append, List.length_append, hw]
  have hfrom : pos.toInt.toNat = pre.length := by omega
  have hto : pos.toInt.toNat + 2 = (pre ++ writeUint16 v).length := by
    rw [List.length_append, hw]
    omega
  refine ⟨pos + Int64.ofNat 2, ?_, ?_⟩
  · rw [readUint16, readFixed_of_le (by omega) (by decide) (by decide) (by omega), hto, hfrom,
      hdata, List.take_left, List.drop_left, littleEndian_writeUint16]
    simp only [Except.map, UInt16.ofNat_toNat]
  · rw [toInt_add_ofNat (by omega) (by omega) (by decide), List.length_append, hw, hpos]
    omega

theorem readLenEncString_getLenEncString {s : List UInt8}
    (hdata : data.toList = pre ++ getLenEncString s ++ rest) (hpos : pos.toInt = pre.length) :
    ∃ p, readLenEncString data pos = .ok (s, p, true) ∧
      p.toInt = (pre ++ getLenEncString s).length := by
  have hlen := data.length_le_maxAlloc
  have hsize : data.toList.length =
      pre.length + (getLenEncInt (UInt64.ofNat s.length)).length + s.length + rest.length := by
    rw [hdata, getLenEncString]
    simp only [List.length_append]
    omega
  have hprefix : data.toList = pre ++ getLenEncInt (UInt64.ofNat s.length) ++ (s ++ rest) := by
    rw [hdata, getLenEncString]
    simp only [List.append_assoc]
  obtain ⟨p, hint, hp⟩ := readLenEncInt_getLenEncInt hprefix hpos
  rw [List.length_append] at hp
  -- the length is below `2^63`, so `int(size)` is the length
  have hnat : (UInt64.ofNat s.length).toNat = s.length := UInt64.toNat_ofNat_of_lt' (by
    change s.length < 2 ^ 64
    omega)
  have hconv : (UInt64.ofNat s.length).toInt64.toInt = s.length := by
    rw [(toInt_lenEnc _).1 (by omega), hnat]
  obtain ⟨t, ht, htl⟩ := @readBytes_of_le data p (UInt64.ofNat s.length).toInt64
    (by omega) (by omega) (by omega)
  have hend : (p + (UInt64.ofNat s.length).toInt64).toInt = p.toInt + s.length := by
    rw [Int64.toInt_add_of_bounds (by omega) (by omega), hconv]
  refine ⟨p + (UInt64.ofNat s.length).toInt64, ?_, ?_⟩
  · -- the subslice is the string
    have hto : (p + (UInt64.ofNat s.length).toInt64).toInt.toNat =
        (pre ++ getLenEncInt (UInt64.ofNat s.length) ++ s).length := by
      simp only [List.length_append]
      omega
    have hfrom : p.toInt.toNat = (pre ++ getLenEncInt (UInt64.ofNat s.length)).length := by
      simp only [List.length_append]
      omega
    have hdata' : data.toList = pre ++ getLenEncInt (UInt64.ofNat s.length) ++ s ++ rest := by
      rw [hdata, getLenEncString]
      simp only [List.append_assoc]
    rw [hto, hfrom, hdata', List.take_left, List.drop_left] at htl
    rw [readLenEncString, readLenEncStringAsBytes_of_ok hint, ht]
    simp only [Except.map, htl]
  · rw [hend, getLenEncString]
    simp only [List.length_append]
    omega

end ReadBack

/-! ## The parser reads back what the writer wrote -/

theorem length_getLenEncInt (i : UInt64) : (getLenEncInt i).length = lenEncIntSize i := by
  unfold getLenEncInt lenEncIntSize
  split_ifs <;> rfl

/-- The writes fill the packet of the `length` the writer computes first: none of them runs
past its end, and none of its bytes is left unwritten. -/
theorem length_writeOKPacketWithHeader (capabilities : UInt32) (packetOk : PacketOK)
    (headerType : UInt8) :
    (writeOKPacketWithHeader capabilities packetOk headerType).length =
      okPacketLength capabilities packetOk := by
  unfold writeOKPacketWithHeader okPacketLength
  cases sessionTrack capabilities <;> cases sessionStateChanged packetOk.statusFlags <;>
    simp only [writeLenEncString, writeLenEncInt, writeUint16, writeEOFString, lenEncStringSize,
      Bool.false_eq_true, ite_false, ite_true, List.length_append, List.length_cons,
      List.length_nil, length_getLenEncInt] <;> omega

section Parse

variable {data : Slice UInt8}

/-- The fields up to the info come back from the writer's bytes, whatever follows them; the
info is what a length-encoded read from there gives. -/
theorem readOKPacketFields_of_append {packetOk : PacketOK} {headerType : UInt8}
    {tail : List UInt8} (enableQueryInfo : Bool)
    (hdata : data.toList = [headerType] ++ writeLenEncInt packetOk.affectedRows ++
      writeLenEncInt packetOk.lastInsertID ++ writeUint16 packetOk.statusFlags ++
      writeUint16 packetOk.warnings ++ tail) :
    ∃ pos : Int64, pos.toInt = (data.toList.length - tail.length : Nat) ∧
      readOKPacketFields enableQueryInfo data = (readLenEncString data pos).map
        fun (info, infoPos, infoOk) =>
          .ok ({ packetOk with
                  info := if enableQueryInfo then info else []
                  sessionStateData := [] }, if infoOk then infoPos else pos) := by
  simp only [writeLenEncInt] at hdata
  -- the fields one after the other, each read where the one before ended
  have hdata₂ : data.toList = [headerType] ++ getLenEncInt packetOk.affectedRows ++
      (getLenEncInt packetOk.lastInsertID ++ writeUint16 packetOk.statusFlags ++
        writeUint16 packetOk.warnings ++ tail) := by
    rw [hdata]
    simp only [List.append_assoc]
  have hpos₂ : (1 : Int64).toInt = ([headerType] : List UInt8).length := by
    rw [List.length_singleton]
    rfl
  obtain ⟨p2, h2, hp2⟩ := readLenEncInt_getLenEncInt hdata₂ hpos₂
  have hdata₃ : data.toList = [headerType] ++ getLenEncInt packetOk.affectedRows ++
      getLenEncInt packetOk.lastInsertID ++
        (writeUint16 packetOk.statusFlags ++ writeUint16 packetOk.warnings ++ tail) := by
    rw [hdata]
    simp only [List.append_assoc]
  obtain ⟨p3, h3, hp3⟩ := readLenEncInt_getLenEncInt hdata₃ hp2
  have hdata₄ : data.toList = [headerType] ++ getLenEncInt packetOk.affectedRows ++
      getLenEncInt packetOk.lastInsertID ++ writeUint16 packetOk.statusFlags ++
        (writeUint16 packetOk.warnings ++ tail) := by
    rw [hdata]
    simp only [List.append_assoc]
  obtain ⟨p4, h4, hp4⟩ := readUint16_writeUint16 hdata₄ hp3
  obtain ⟨p5, h5, hp5⟩ := readUint16_writeUint16 hdata hp4
  refine ⟨p5, by simp only [hp5, hdata, List.length_append]; omega, ?_⟩
  simp only [readOKPacketFields, h2, h3, h4, h5, Except.ok_bind, Bool.not_true,
    Bool.false_eq_true, ite_false]
  cases readLenEncString data p5 <;> rfl

/-- The round at the sub-block of `gtidData` reads the GTIDs and goes on after them. -/
theorem sessionStateRound_gtids {pos : Int64} {pre rest sessionStateData : List UInt8}
    (packet : PacketOK)
    (hdata : data.toList =
      pre ++ (0x03 :: getLenEncString (0x00 :: getLenEncString sessionStateData)) ++ rest)
    (hpos : pos.toInt = pre.length) :
    ∃ p, sessionStateRound data pos packet =
        .ok (.next p { packet with sessionStateData := sessionStateData }) ∧
      p.toInt = (pre ++ 0x03 :: getLenEncString (0x00 :: getLenEncString sessionStateData)).length := by
  -- the sub-block: its type, its length, the encoding specification, the GTIDs
  have hinner : getLenEncString (0x00 :: getLenEncString sessionStateData) =
      getLenEncInt (UInt64.ofNat (0x00 :: getLenEncString sessionStateData).length) ++
        (0x00 :: getLenEncString sessionStateData) := rfl
  have hlayout : data.toList = pre ++ [0x03] ++
      getLenEncInt (UInt64.ofNat (0x00 :: getLenEncString sessionStateData).length) ++ [0x00] ++
      getLenEncString sessionStateData ++ rest := by
    rw [hdata, hinner]
    simp only [List.append_assoc, List.cons_append, List.nil_append]
  have hdata₁ : data.toList = pre ++ [0x03] ++
      (getLenEncString (0x00 :: getLenEncString sessionStateData) ++ rest) := by
    rw [hdata]
    simp only [List.append_assoc, List.cons_append, List.nil_append]
  obtain ⟨p1, h1, hp1⟩ := readByte_of_append hdata₁ hpos
  have hdata₂ : data.toList = pre ++ [0x03] ++
      getLenEncInt (UInt64.ofNat (0x00 :: getLenEncString sessionStateData).length) ++
        ([0x00] ++ getLenEncString sessionStateData ++ rest) := by
    rw [hlayout]
    simp only [List.append_assoc]
  obtain ⟨p2, h2, hp2⟩ := readLenEncInt_getLenEncInt hdata₂ hp1
  have hdata₃ : data.toList = pre ++ [0x03] ++
      getLenEncInt (UInt64.ofNat (0x00 :: getLenEncString sessionStateData).length) ++ [0x00] ++
        (getLenEncString sessionStateData ++ rest) := by
    rw [hlayout]
    simp only [List.append_assoc]
  obtain ⟨p3, h3, hp3⟩ := readByte_of_append hdata₃ hp2
  obtain ⟨p4, h4, hp4⟩ := readLenEncString_getLenEncString hlayout hp3
  refine ⟨p4, ?_, ?_⟩
  · simp only [sessionStateRound, h1, h2, h3, h4, Except.ok_bind, Bool.not_true,
      Bool.false_eq_true, ite_false]
    rfl
  · rw [hp4, hinner]
    simp only [List.length_append, List.length_cons, List.length_nil]
    omega

/-- At the end of the packet no sub-block starts: the loop breaks. -/
theorem sessionStateRound_of_end {pos : Int64} (packet : PacketOK)
    (hpos : pos.toInt = data.toList.length) :
    sessionStateRound data pos packet = .ok .done := by
  rw [sessionStateRound, readByte_of_le (by omega)]
  rfl

/-- The loop at the end of the packet written by `writeOKPacketWithHeader` reads its one
sub-block and stops there, with two rounds of fuel. -/
theorem sessionStateLoop_gtids {pos : Int64} {pre sessionStateData : List UInt8} (fuel : Nat)
    (packet : PacketOK)
    (hdata : data.toList =
      pre ++ (0x03 :: getLenEncString (0x00 :: getLenEncString sessionStateData)))
    (hpos : pos.toInt = pre.length) :
    sessionStateLoop data (fuel + 2) pos packet =
      some (.ok (.ok { packet with sessionStateData := sessionStateData })) := by
  have hdata' : data.toList =
      pre ++ (0x03 :: getLenEncString (0x00 :: getLenEncString sessionStateData)) ++ [] := by
    rw [hdata, List.append_nil]
  obtain ⟨p, hround, hp⟩ := sessionStateRound_gtids packet hdata' hpos
  rw [show fuel + 2 = fuel + 1 + 1 from rfl, sessionStateLoop, hround]
  dsimp only
  rw [sessionStateLoop, sessionStateRound_of_end _ (by rw [hp, hdata])]

/-- **The round trip with session tracking.** With `CapabilityClientSessionTrack`, the packet
`writeOKPacketWithHeader` writes parses back with `enableQueryInfo`: every field comes back,
and the session state does when the status flags announce it; otherwise it is empty. -/
theorem parseOKPacket_writeOKPacketWithHeader {capabilities : UInt32} {packetOk : PacketOK}
    (htrack : sessionTrack capabilities = true)
    (hdata : data.toList = writeOKPacketWithHeader capabilities packetOk OKPacket) :
    parseOKPacket capabilities true data = some (.ok (.ok { packetOk with
      sessionStateData :=
        if sessionStateChanged packetOk.statusFlags then packetOk.sessionStateData else [] })) := by
  have hlen := data.length_le_maxAlloc
  -- what follows the info: the session-state block, if the status flags announce one
  let block := if sessionStateChanged packetOk.statusFlags then
    gtidData packetOk.sessionStateData else []
  let head := [OKPacket] ++ writeLenEncInt packetOk.affectedRows ++
    writeLenEncInt packetOk.lastInsertID ++ writeUint16 packetOk.statusFlags ++
    writeUint16 packetOk.warnings
  have hlayout : data.toList = head ++ (getLenEncString packetOk.info ++ block) := by
    rw [hdata, writeOKPacketWithHeader, htrack, if_pos rfl]
    rfl
  obtain ⟨pos, hpos, hfields⟩ := readOKPacketFields_of_append true hlayout
  have hend : data.toList = head ++ getLenEncString packetOk.info ++ block :=
    hlayout.trans (List.append_assoc _ _ _).symm
  obtain ⟨p, hinfo, hp⟩ := readLenEncString_getLenEncString hend
    (by rw [hpos, hlayout, List.length_append]; omega)
  rw [parseOKPacket, hfields, hinfo]
  simp only [Except.map, htrack, Bool.true_and, ite_true]
  cases hchanged : sessionStateChanged packetOk.statusFlags with
  | false => rfl
  | true =>
    -- the block: its length, then its one sub-block
    have hblock : block = getLenEncInt (UInt64.ofNat
        (0x03 :: getLenEncString (0x00 :: getLenEncString packetOk.sessionStateData)).length) ++
        (0x03 :: getLenEncString (0x00 :: getLenEncString packetOk.sessionStateData)) := by
      simp only [block, hchanged, if_pos]
      rfl
    have hblockAt : data.toList = head ++ getLenEncString packetOk.info ++
        getLenEncInt (UInt64.ofNat
          (0x03 :: getLenEncString (0x00 :: getLenEncString packetOk.sessionStateData)).length) ++
        (0x03 :: getLenEncString (0x00 :: getLenEncString packetOk.sessionStateData)) := by
      rw [hend, hblock, List.append_assoc (head ++ getLenEncString packetOk.info)]
    obtain ⟨q, hlength, hq⟩ := readLenEncInt_getLenEncInt hblockAt hp
    -- the block is not empty, so the loop runs
    have hblen : (0x03 :: getLenEncString (0x00 :: getLenEncString
        packetOk.sessionStateData)).length ≤ data.toList.length := by
      rw [hend, hblock]
      simp only [List.length_append]
      omega
    have hne : (UInt64.ofNat
        (0x03 :: getLenEncString (0x00 :: getLenEncString packetOk.sessionStateData)).length == 0) =
        false := by
      rw [beq_eq_false_iff_ne]
      intro h0
      have hnat := congrArg UInt64.toNat h0
      rw [UInt64.toNat_ofNat_of_lt' (by change _ < 2 ^ 64; omega), List.length_cons] at hnat
      exact Nat.succ_ne_zero _ hnat
    obtain ⟨fuel, hfuel⟩ : ∃ fuel, data.toList.length + 1 = fuel + 2 :=
      ⟨data.toList.length - 1, by
        rw [hdata, writeOKPacketWithHeader]
        simp only [List.length_append, List.length_singleton]
        omega⟩
    rw [if_pos rfl, hlength]
    simp only [Bool.not_true, Bool.false_or, hne, Bool.false_eq_true, ite_false]
    rw [hfuel, sessionStateLoop_gtids fuel _
      (by rw [hend, hblock, ← List.append_assoc]) hq]
    rfl

/-- An OK packet with session tracking whose status flags announce the GTIDs `u`. -/
theorem parseOKPacket_writeOKPacketWithHeader_gtids :
    sessionTrack CapabilityClientSessionTrack = true ∧
      (⟨writeOKPacketWithHeader CapabilityClientSessionTrack
          ⟨1, 2, ServerSessionStateChanged, 0, [0x61], [0x75]⟩ OKPacket, by decide⟩ :
        Slice UInt8).toList =
        writeOKPacketWithHeader CapabilityClientSessionTrack
          ⟨1, 2, ServerSessionStateChanged, 0, [0x61], [0x75]⟩ OKPacket ∧
      parseOKPacket CapabilityClientSessionTrack true
          ⟨writeOKPacketWithHeader CapabilityClientSessionTrack
            ⟨1, 2, ServerSessionStateChanged, 0, [0x61], [0x75]⟩ OKPacket, by decide⟩ =
        some (.ok (.ok { (⟨1, 2, ServerSessionStateChanged, 0, [0x61], [0x75]⟩ : PacketOK) with
          sessionStateData := if sessionStateChanged ServerSessionStateChanged then [0x75]
            else [] })) :=
  ⟨by decide, rfl, parseOKPacket_writeOKPacketWithHeader (by decide) rfl⟩

/-- Both sides of the two-byte boundary, and a session state that comes back. -/
example : parseOKPacket CapabilityClientSessionTrack true
    ⟨writeOKPacketWithHeader CapabilityClientSessionTrack ⟨250, 251, 0x4000, 1, [], [7]⟩ OKPacket,
      by decide⟩ = some (.ok (.ok ⟨250, 251, 0x4000, 1, [], [7]⟩)) := by decide

/-- **The info without session tracking.** Without `CapabilityClientSessionTrack` the writer
puts the info at the end of the packet as it is, and the parser still reads it as a
length-encoded string. The parse panics, on a length that reaches past `2^63`, or returns the
numeric fields; and the info comes back only when it is empty, since a failed read gives an
empty info and a successful one a string shorter than the bytes it is read from. -/
theorem parseOKPacket_writeOKPacketWithHeader_of_not_sessionTrack {capabilities : UInt32}
    {packetOk : PacketOK} (htrack : sessionTrack capabilities = false)
    (hdata : data.toList = writeOKPacketWithHeader capabilities packetOk OKPacket) :
    (∃ e, parseOKPacket capabilities true data = some (.error e)) ∨
      ∃ info, parseOKPacket capabilities true data =
          some (.ok (.ok { packetOk with info := info, sessionStateData := [] })) ∧
        (info = packetOk.info ↔ packetOk.info = []) := by
  have hlayout : data.toList = [OKPacket] ++ writeLenEncInt packetOk.affectedRows ++
      writeLenEncInt packetOk.lastInsertID ++ writeUint16 packetOk.statusFlags ++
      writeUint16 packetOk.warnings ++ packetOk.info := by
    rw [hdata, writeOKPacketWithHeader, htrack, if_neg Bool.false_ne_true]
    rfl
  obtain ⟨pos, hpos, hfields⟩ := readOKPacketFields_of_append true hlayout
  rw [parseOKPacket, hfields]
  cases hinfo : readLenEncString data pos with
  | error e => exact .inl ⟨e, rfl⟩
  | ok r =>
    obtain ⟨info, infoPos, infoOk⟩ := r
    refine .inr ⟨info, by simp only [Except.map, htrack, Bool.false_and, ite_true]; rfl, ?_⟩
    cases infoOk with
    | false =>
      rw [readLenEncString_of_fail hinfo]
      exact eq_comm
    | true =>
      -- the string read lies after its length, among the bytes of the info
      obtain ⟨-, hlt⟩ := readLenEncString_ok_inv hinfo
      have hshort : info.length < packetOk.info.length := by omega
      constructor
      · intro heq
        rw [heq] at hshort
        exact absurd hshort (Nat.lt_irrefl _)
      · intro hnil
        rw [hnil] at hshort
        exact absurd hshort (Nat.not_lt_zero _)

/-- Without session tracking, the info `abc`. -/
theorem parseOKPacket_writeOKPacketWithHeader_of_not_sessionTrack_abc :
    sessionTrack 0 = false ∧
      (⟨writeOKPacketWithHeader 0 ⟨0, 0, 0, 0, [0x61, 0x62, 0x63], []⟩ OKPacket, by decide⟩ :
        Slice UInt8).toList = writeOKPacketWithHeader 0 ⟨0, 0, 0, 0, [0x61, 0x62, 0x63], []⟩ OKPacket ∧
      ((∃ e, parseOKPacket 0 true ⟨writeOKPacketWithHeader 0
          ⟨0, 0, 0, 0, [0x61, 0x62, 0x63], []⟩ OKPacket, by decide⟩ = some (.error e)) ∨
        ∃ info, parseOKPacket 0 true ⟨writeOKPacketWithHeader 0
            ⟨0, 0, 0, 0, [0x61, 0x62, 0x63], []⟩ OKPacket, by decide⟩ =
            some (.ok (.ok { (⟨0, 0, 0, 0, [0x61, 0x62, 0x63], []⟩ : PacketOK) with
              info := info, sessionStateData := [] })) ∧
          (info = [0x61, 0x62, 0x63] ↔ [0x61, 0x62, 0x63] = ([] : List UInt8))) :=
  ⟨by decide, rfl, parseOKPacket_writeOKPacketWithHeader_of_not_sessionTrack (by decide) rfl⟩

/-- The info `abc` without session tracking: its bytes end the packet, and `a` (`0x61`) read
as a length announces 97 bytes that the packet does not have, so the info comes back
empty. -/
theorem parseOKPacket_loses_info :
    writeOKPacketWithHeader 0 ⟨0, 0, 0, 0, [0x61, 0x62, 0x63], []⟩ OKPacket =
        [0x00, 0x00, 0x00, 0x00, 0x00, 0x00, 0x00, 0x61, 0x62, 0x63] ∧
      parseOKPacket 0 true ⟨[0x00, 0x00, 0x00, 0x00, 0x00, 0x00, 0x00, 0x61, 0x62, 0x63], by decide⟩ =
        some (.ok (.ok ⟨0, 0, 0, 0, [], []⟩)) :=
  ⟨by decide, by decide⟩

end Parse

end Wescale.Mysql
