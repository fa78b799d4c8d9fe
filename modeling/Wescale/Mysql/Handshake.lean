import Mathlib
import Wescale.Mysql.Encoding

/-!
# The client handshake (`go/mysql/server.go`)

`parseClientHandshakePacket` reads the handshake response a client sends before it is
authenticated: the capability flags, the maximum packet size, the character set, 23 reserved
bytes, the user name, the auth response in one of three forms, the database name, the auth
method and the connection attributes (`parseConnAttrs`). Each read that reports `!ok` returns
an `INTERNAL` error with its own message; a failure of `parseConnAttrs` is only logged.

The functions run in `ExceptT String (Except Panic)`: the error they return, or a run-time
panic. The connection is reduced to the fields the handshake sets; on the TLS branch the
function returns at once, as the source does after it switches the connection to TLS.

## What is proved

- `parseConnAttrs_returns`: from every position of the packet, `parseConnAttrs` returns
  without a panic: each round of its loop moves forward (`connAttrStep_ok_inv`), which is
  also what makes the loop terminate.
- `handshake_returns`: a packet of at least 32 bytes whose flags do not ask for a
  length-encoded auth response is parsed without a panic.
- `handshake_short_panics`: every packet of 9 to 31 bytes whose flags have
  `CLIENT_PROTOCOL_41` makes the parser panic once TLS is not negotiated: the 23 reserved
  bytes are skipped without a bounds test, and `readNullString` slices past the end.
- `handshake_lenenc_panics`: with a length-encoded auth response, a decoded length that
  reaches `2^63` from its start makes the parser panic in `make`.
-/

set_option autoImplicit false

namespace Wescale.Mysql

open Go

/-! ## Capability flags (`constants.go`) -/

/-- `CapabilityClientFoundRows`. -/
def capabilityClientFoundRows : UInt32 := (1 : UInt32) <<< 1

/-- `CapabilityClientConnectWithDB`. -/
def capabilityClientConnectWithDB : UInt32 := (1 : UInt32) <<< 3

/-- `CapabilityClientProtocol41`. -/
def capabilityClientProtocol41 : UInt32 := (1 : UInt32) <<< 9

/-- `CapabilityClientSSL`. -/
def capabilityClientSSL : UInt32 := (1 : UInt32) <<< 11

/-- `CapabilityClientSecureConnection`. -/
def capabilityClientSecureConnection : UInt32 := (1 : UInt32) <<< 15

/-- `CapabilityClientMultiStatements`. -/
def capabilityClientMultiStatements : UInt32 := (1 : UInt32) <<< 16

/-- `CapabilityClientPluginAuth`. -/
def capabilityClientPluginAuth : UInt32 := (1 : UInt32) <<< 19

/-- `CapabilityClientConnAttr`. -/
def capabilityClientConnAttr : UInt32 := (1 : UInt32) <<< 20

/-- `CapabilityClientPluginAuthLenencClientData`. -/
def capabilityClientPluginAuthLenencClientData : UInt32 := (1 : UInt32) <<< 21

/-- `CapabilityClientDeprecateEOF`. -/
def capabilityClientDeprecateEOF : UInt32 := (1 : UInt32) <<< 24

/-- `MysqlNativePassword`, as bytes. -/
def mysqlNativePassword : List UInt8 :=
  "mysql_native_password".toList.map fun ch => ch.toNat.toUInt8

/-- The fields of `Conn` the handshake sets. -/
structure Conn where
  capabilities : UInt32
  characterSet : UInt8
  schemaName : List UInt8
  deriving DecidableEq, Repr

/-- `v, pos, ok := read(data, pos); if !ok { return ..., vterrors.Errorf(INTERNAL, msg) }`. -/
def orFail {β : Type} (r : Except Panic (β × Int64 × Bool)) (msg : String) :
    ExceptT String (Except Panic) (β × Int64) := do
  let (v, p, ok) ← ExceptT.lift r
  if !ok then throw msg
  return (v, p)

section OrFail

variable {β : Type} {r : Except Panic (β × Int64 × Bool)} {msg : String}

theorem orFail_of_ok {v : β} {p : Int64} (h : r = .ok (v, p, true)) :
    (orFail r msg).run = .ok (.ok (v, p)) := by
  rw [orFail, ExceptT.run_bind, ExceptT.run_lift, h]
  rfl

theorem orFail_of_fail {v : β} {p : Int64} (h : r = .ok (v, p, false)) :
    (orFail r msg).run = .ok (.error msg) := by
  rw [orFail, ExceptT.run_bind, ExceptT.run_lift, h]
  rfl

theorem orFail_of_panic {e : Panic} (h : r = .error e) : (orFail r msg).run = .error e := by
  rw [orFail, ExceptT.run_bind, ExceptT.run_lift, h]
  rfl

/-- What `orFail` returns is what the read returned with `ok`. -/
theorem orFail_ok_inv {v : β} {p : Int64} (h : (orFail r msg).run = .ok (.ok (v, p))) :
    r = .ok (v, p, true) := by
  match r, h with
  | .error e, h => rw [orFail_of_panic rfl] at h; cases h
  | .ok (v', p', false), h => rw [orFail_of_fail rfl] at h; cases h
  | .ok (v', p', true), h => rw [orFail_of_ok rfl] at h; cases h; rfl

/-- A read that does not panic makes `orFail` return its `ok` result, or the error. -/
theorem orFail_returns (h : ∃ x, r = .ok x) :
    Returns (orFail r msg) fun vp => r = .ok (vp.1, vp.2, true) := by
  obtain ⟨⟨v, p, ok⟩, hr⟩ := h
  cases ok with
  | false => exact ⟨.error msg, orFail_of_fail hr, fun _ h => by cases h⟩
  | true => exact ⟨.ok (v, p), orFail_of_ok hr, fun _ h => by cases h; exact hr⟩

end OrFail

theorem Decodes.exists_ok {β : Type} {data : Slice UInt8} {pos : Int64}
    {r : Except Panic (β × Int64 × Bool)} (h : Decodes data pos r) : ∃ x, r = .ok x := by
  obtain ⟨v, p, ok, hr, -⟩ := h
  exact ⟨(v, p, ok), hr⟩

/-! ## Connection attributes -/

/-- The attributes map, from key to value. -/
abbrev ConnAttrs := AList fun _ : List UInt8 => List UInt8

/-- One round of the loop of `parseConnAttrs`: a key and a value, each after its length byte.
It returns the two length bytes, the key, the value and the next position. -/
def connAttrStep (data : Slice UInt8) (pos : Int64) :
    ExceptT String (Except Panic) (UInt8 × UInt8 × List UInt8 × List UInt8 × Int64) := do
  let (keyLen, pos) ← orFail (readByte data pos)
    "parseClientHandshakePacket: can't read connection attribute key length"
  let (connAttrKey, pos) ← orFail (readBytes data pos (Int64.ofNat keyLen.toNat))
    "parseClientHandshakePacket: can't read connection attribute key"
  let (valLen, pos) ← orFail (readByte data pos)
    "parseClientHandshakePacket: can't read connection attribute value length"
  let (connAttrVal, pos) ← orFail (readBytes data pos (Int64.ofNat valLen.toNat))
    "parseClientHandshakePacket: can't read connection attribute value"
  return (keyLen, valLen, connAttrKey.toList, connAttrVal.toList, pos)

/-- A round that returns has moved forward, and stays within the packet. -/
theorem connAttrStep_ok_inv {data : Slice UInt8} {pos : Int64}
    {r : UInt8 × UInt8 × List UInt8 × List UInt8 × Int64}
    (h : (connAttrStep data pos).run = .ok (.ok r)) :
    pos.toInt < r.2.2.2.2.toInt ∧ r.2.2.2.2.toInt ≤ data.toList.length := by
  unfold connAttrStep at h
  obtain ⟨⟨keyLen, p1⟩, h1, h⟩ := run_bind_eq_ok h
  obtain ⟨⟨key, p2⟩, h2, h⟩ := run_bind_eq_ok h
  obtain ⟨⟨valLen, p3⟩, h3, h⟩ := run_bind_eq_ok h
  obtain ⟨⟨val, p4⟩, h4, h⟩ := run_bind_eq_ok h
  cases h
  obtain ⟨-, -, hp1⟩ := readByte_ok_inv (orFail_ok_inv h1)
  obtain ⟨-, hp2, -, -⟩ := readBytes_ok_inv (orFail_ok_inv h2)
  obtain ⟨-, -, hp3⟩ := readByte_ok_inv (orFail_ok_inv h3)
  obtain ⟨-, hp4, hp4', -⟩ := readBytes_ok_inv (orFail_ok_inv h4)
  exact ⟨show pos.toInt < p4.toInt by omega, hp4'⟩

/-- The loop of `parseConnAttrs`: rounds while `attrLenRead < attrLen`. It ends because every
round moves forward in the packet. -/
def connAttrsLoop (data : Slice UInt8) (attrLen : UInt64) (attrs : ConnAttrs)
    (attrLenRead : UInt64) (pos : Int64) : ExceptT String (Except Panic) (ConnAttrs × Int64) :=
  if attrLenRead < attrLen then
    match h : (connAttrStep data pos).run with
    | .error p => ExceptT.mk (.error p)
    | .ok (.error e) => throw e
    | .ok (.ok (keyLen, valLen, key, val, pos')) =>
      connAttrsLoop data attrLen (attrs.insert key val)
        (attrLenRead + keyLen.toUInt64 + 1 + valLen.toUInt64 + 1) pos'
  else return (attrs, pos)
termination_by (data.toList.length - pos.toInt).toNat
decreasing_by
  have := connAttrStep_ok_inv h
  simp only at this
  omega

/-- From a position of the packet, a round of the attribute loop does not panic. -/
theorem connAttrStep_returns {data : Slice UInt8} {pos : Int64} (h0 : 0 ≤ pos.toInt)
    (hle : pos.toInt ≤ data.toList.length) : Returns (connAttrStep data pos) fun _ => True := by
  have hlen := data.length_le_maxAlloc
  unfold connAttrStep
  refine returns_bind (orFail_returns (readByte_decodes h0).exists_ok) ?_
  rintro ⟨keyLen, p1⟩ h1
  dsimp only at h1
  obtain ⟨-, -, hp1⟩ := readByte_ok_inv h1
  have hk := keyLen.toNat_lt
  have hkey : (Int64.ofNat keyLen.toNat).toInt = keyLen.toNat :=
    Int64.toInt_ofNat_of_lt (by omega)
  refine returns_bind (orFail_returns
    (@readBytes_decodes data p1 _ (by omega) (by omega) (by omega)).exists_ok) ?_
  rintro ⟨key, p2⟩ h2
  dsimp only at h2
  obtain ⟨-, hp2, hp2', -⟩ := readBytes_ok_inv h2
  refine returns_bind (orFail_returns (@readByte_decodes data p2 (by omega)).exists_ok) ?_
  rintro ⟨valLen, p3⟩ h3
  dsimp only at h3
  obtain ⟨-, -, hp3⟩ := readByte_ok_inv h3
  have hv := valLen.toNat_lt
  have hval : (Int64.ofNat valLen.toNat).toInt = valLen.toNat :=
    Int64.toInt_ofNat_of_lt (by omega)
  refine returns_bind (orFail_returns
    (@readBytes_decodes data p3 _ (by omega) (by omega) (by omega)).exists_ok) fun _ _ => ?_
  exact returns_pure trivial

/-- From a position of the packet, the attribute loop returns without a panic, at a position
of the packet. -/
theorem connAttrsLoop_returns (data : Slice UInt8) (attrLen : UInt64) (attrs : ConnAttrs)
    (attrLenRead : UInt64) (pos : Int64) (h0 : 0 ≤ pos.toInt)
    (hle : pos.toInt ≤ data.toList.length) :
    Returns (connAttrsLoop data attrLen attrs attrLenRead pos)
      fun r => r.2.toInt ≤ data.toList.length := by
  -- induction along the loop: every round starts at a position of the packet
  fun_induction connAttrsLoop data attrLen attrs attrLenRead pos with
  | case1 attrs attrLenRead pos hlt p hstep =>
    obtain ⟨r, hr, -⟩ := connAttrStep_returns h0 hle
    rw [hstep] at hr
    cases hr
  | case2 attrs attrLenRead pos hlt e hstep => exact returns_throw e
  | case3 attrs attrLenRead pos hlt keyLen valLen key val pos' hstep ih =>
    obtain ⟨hlt', hle'⟩ := connAttrStep_ok_inv hstep
    exact ih (by simp only at hlt'; omega) hle'
  | case4 attrs attrLenRead pos hge => exact returns_pure hle

/-- `parseConnAttrs`. -/
def parseConnAttrs (data : Slice UInt8) (pos : Int64) :
    ExceptT String (Except Panic) (ConnAttrs × Int64) := do
  let (attrLen, pos) ← orFail (readLenEncInt data pos)
    "parseClientHandshakePacket: can't read connection attributes variable length"
  connAttrsLoop data attrLen ∅ 0 pos

/-- From every position of the packet, `parseConnAttrs` returns without a panic, at a
position of the packet. -/
theorem parseConnAttrs_returns {data : Slice UInt8} {pos : Int64} (h0 : 0 ≤ pos.toInt)
    (hle : pos.toInt ≤ data.toList.length) :
    Returns (parseConnAttrs data pos) fun r => r.2.toInt ≤ data.toList.length := by
  unfold parseConnAttrs
  refine returns_bind (orFail_returns (readLenEncInt_decodes h0 hle).exists_ok) ?_
  rintro ⟨attrLen, p⟩ h
  dsimp only at h
  obtain ⟨-, hp, hp'⟩ := readLenEncInt_ok_inv h
  exact connAttrsLoop_returns data attrLen ∅ 0 p (by omega) hp'

/-! ## The handshake -/

/-- The auth-response, in one of its three forms. -/
def readAuthResponse (clientFlags : UInt32) (data : Slice UInt8) (pos : Int64) :
    ExceptT String (Except Panic) (List UInt8 × Int64) :=
  if clientFlags &&& capabilityClientPluginAuthLenencClientData ≠ 0 then do
    let (l, pos) ← orFail (readLenEncInt data pos)
      "parseClientHandshakePacket: can't read auth-response variable length"
    let (authResponse, pos) ← orFail (readBytesCopy data pos l.toInt64)
      "parseClientHandshakePacket: can't read auth-response"
    return (authResponse.toList, pos)
  else if clientFlags &&& capabilityClientSecureConnection ≠ 0 then do
    let (l, pos) ← orFail (readByte data pos)
      "parseClientHandshakePacket: can't read auth-response length"
    let (authResponse, pos) ← orFail (readBytesCopy data pos (Int64.ofNat l.toNat))
      "parseClientHandshakePacket: can't read auth-response"
    return (authResponse.toList, pos)
  else
    orFail (readNullString data pos) "parseClientHandshakePacket: can't read auth-response"

/-- The database name, when the client sends one. -/
def readDbName (clientFlags : UInt32) (c : Conn) (data : Slice UInt8) (pos : Int64) :
    ExceptT String (Except Panic) (Conn × Int64) :=
  if clientFlags &&& capabilityClientConnectWithDB ≠ 0 then do
    let (dbname, pos) ← orFail (readNullString data pos)
      "parseClientHandshakePacket: can't read dbname"
    return ({ c with schemaName := dbname }, pos)
  else return (c, pos)

/-- The auth method: `mysql_native_password`, unless the client names another. -/
def readAuthMethod (clientFlags : UInt32) (data : Slice UInt8) (pos : Int64) :
    ExceptT String (Except Panic) (List UInt8 × Int64) :=
  if clientFlags &&& capabilityClientPluginAuth ≠ 0 then do
    let (authMethodStr, pos) ← orFail (readNullString data pos)
      "parseClientHandshakePacket: can't read authMethod"
    -- the JDBC driver sends an empty name for mysql_native_password
    return (if authMethodStr ≠ [] then authMethodStr else mysqlNativePassword, pos)
  else return (mysqlNativePassword, pos)

/-- `parseClientHandshakePacket`: the connection's new fields, the user name, the auth method
and the auth response. -/
def parseClientHandshakePacket (tlsConfigured firstTime : Bool) (c : Conn) (data : Slice UInt8) :
    ExceptT String (Except Panic) (Conn × List UInt8 × List UInt8 × List UInt8) := do
  -- Client flags, 4 bytes.
  let (clientFlags, pos) ← orFail (readUint32 data 0)
    "parseClientHandshakePacket: can't read client flags"
  if clientFlags &&& capabilityClientProtocol41 = 0 then
    throw "parseClientHandshakePacket: only support protocol 4.1"
  let c := if firstTime then
      { c with capabilities :=
          clientFlags &&& (capabilityClientDeprecateEOF ||| capabilityClientFoundRows) }
    else c
  let c := if clientFlags &&& capabilityClientMultiStatements > 0 then
      { c with capabilities := c.capabilities ||| capabilityClientMultiStatements }
    else c
  -- Max packet size.
  let (_, pos) ← orFail (readUint32 data pos)
    "parseClientHandshakePacket: can't read maxPacketSize"
  let (characterSet, pos) ← orFail (readByte data pos)
    "parseClientHandshakePacket: can't read characterSet"
  let c := { c with characterSet := characterSet }
  -- 23x reserved zero bytes.
  let pos := pos + 23
  if firstTime && tlsConfigured && clientFlags &&& capabilityClientSSL > 0 then
    return ({ c with capabilities := c.capabilities ||| capabilityClientSSL }, [], [], [])
  let (username, pos) ← orFail (readNullString data pos)
    "parseClientHandshakePacket: can't read username"
  let (authResponse, pos) ← readAuthResponse clientFlags data pos
  let (c, pos) ← readDbName clientFlags c data pos
  let (authMethod, pos) ← readAuthMethod clientFlags data pos
  -- a failure to decode the attributes is only logged
  if clientFlags &&& capabilityClientConnAttr ≠ 0 then
    let _ ← ExceptT.lift (parseConnAttrs data pos).run
  return (c, username, authMethod, authResponse)

/-! ## No panic on a long enough packet -/

section Returns

variable {data : Slice UInt8} {pos : Int64}

/-- The auth response is read without a panic, and ends within the packet, unless it is
length-encoded with a length that reaches `2^63` from its start. -/
theorem readAuthResponse_returns {clientFlags : UInt32}
    (hsmall : clientFlags &&& capabilityClientPluginAuthLenencClientData ≠ 0 →
      ∀ l q, readLenEncInt data pos = .ok (l, q, true) → q.toInt + l.toNat < 2 ^ 63)
    (h0 : 0 ≤ pos.toInt) (hle : pos.toInt ≤ data.toList.length) :
    Returns (readAuthResponse clientFlags data pos)
      fun r => pos.toInt ≤ r.2.toInt ∧ r.2.toInt ≤ data.toList.length := by
  have hlen := data.length_le_maxAlloc
  rw [readAuthResponse]
  split
  · -- a length-encoded length, then that many bytes
    rename_i hflag
    refine returns_bind (orFail_returns (readLenEncInt_decodes h0 hle).exists_ok) ?_
    rintro ⟨l, q⟩ hl
    dsimp only at hl
    obtain ⟨-, hq, hq'⟩ := readLenEncInt_ok_inv hl
    have hlq := hsmall hflag l q hl
    have hsize := (toInt_lenEnc l).1 (by omega)
    refine returns_bind (orFail_returns
      (@readBytesCopy_decodes data q _ (by omega) (by omega) (by omega)).exists_ok) ?_
    rintro ⟨authResponse, p2⟩ h2
    dsimp only at h2
    obtain ⟨-, hp2, hp2', -⟩ := readBytesCopy_ok_inv h2
    refine returns_pure ?_
    dsimp only
    constructor <;> omega
  split
  · -- one length byte, then that many bytes
    refine returns_bind (orFail_returns (readByte_decodes h0).exists_ok) ?_
    rintro ⟨l, p1⟩ h1
    dsimp only at h1
    obtain ⟨-, -, hp1⟩ := readByte_ok_inv h1
    have hl := l.toNat_lt
    have hsize : (Int64.ofNat l.toNat).toInt = l.toNat := Int64.toInt_ofNat_of_lt (by omega)
    refine returns_bind (orFail_returns
      (@readBytesCopy_decodes data p1 _ (by omega) (by omega) (by omega)).exists_ok) ?_
    rintro ⟨authResponse, p2⟩ h2
    dsimp only at h2
    obtain ⟨-, hp2, hp2', -⟩ := readBytesCopy_ok_inv h2
    refine returns_pure ?_
    dsimp only
    constructor <;> omega
  · -- a zero-terminated string
    refine returns_mono (orFail_returns (readNullString_decodes h0 hle).exists_ok) ?_
    rintro ⟨a, p1⟩ h1
    obtain ⟨-, hp1, hp1'⟩ := readNullString_ok_inv h1
    exact ⟨by omega, hp1'⟩

theorem readDbName_returns {clientFlags : UInt32} {c : Conn} (h0 : 0 ≤ pos.toInt)
    (hle : pos.toInt ≤ data.toList.length) :
    Returns (readDbName clientFlags c data pos)
      fun r => pos.toInt ≤ r.2.toInt ∧ r.2.toInt ≤ data.toList.length := by
  rw [readDbName]
  split
  · refine returns_bind (orFail_returns (readNullString_decodes h0 hle).exists_ok) ?_
    rintro ⟨dbname, p1⟩ h1
    dsimp only at h1
    obtain ⟨-, hp1, hp1'⟩ := readNullString_ok_inv h1
    refine returns_pure ?_
    dsimp only
    constructor <;> omega
  · exact returns_pure ⟨Int.le_refl _, hle⟩

theorem readAuthMethod_returns {clientFlags : UInt32} (h0 : 0 ≤ pos.toInt)
    (hle : pos.toInt ≤ data.toList.length) :
    Returns (readAuthMethod clientFlags data pos)
      fun r => pos.toInt ≤ r.2.toInt ∧ r.2.toInt ≤ data.toList.length := by
  rw [readAuthMethod]
  split
  · refine returns_bind (orFail_returns (readNullString_decodes h0 hle).exists_ok) ?_
    rintro ⟨authMethodStr, p1⟩ h1
    dsimp only at h1
    obtain ⟨-, hp1, hp1'⟩ := readNullString_ok_inv h1
    refine returns_pure ?_
    dsimp only
    constructor <;> omega
  · exact returns_pure ⟨Int.le_refl _, hle⟩

end Returns

/-- The client flags: the first four bytes of the packet, little-endian. -/
def clientFlagsOf (data : Slice UInt8) : UInt32 :=
  UInt32.ofNat (littleEndian (data.toList.take 4))

/-- The position after the reserved bytes. -/
def afterReserved : Int64 := 0 + Int64.ofNat 4 + Int64.ofNat 4 + 1 + 23

/-- The fixed part of the handshake: with at least 9 bytes, the flags, the maximum packet
size and the character set are read, and the reserved bytes skipped to position 32. -/
theorem handshake_fixed_part {data : Slice UInt8} (hlen : 9 ≤ data.toList.length) :
    readUint32 data 0 = .ok (clientFlagsOf data, 0 + Int64.ofNat 4, true) ∧
      (∃ m, readUint32 data (0 + Int64.ofNat 4) = .ok (m, 0 + Int64.ofNat 4 + Int64.ofNat 4, true)) ∧
      (∃ b, readByte data (0 + Int64.ofNat 4 + Int64.ofNat 4) =
        .ok (b, 0 + Int64.ofNat 4 + Int64.ofNat 4 + 1, true)) ∧
      afterReserved.toInt = 32 := by
  have h4 : (0 + Int64.ofNat 4 : Int64).toInt = 4 := by decide
  have h8 : (0 + Int64.ofNat 4 + Int64.ofNat 4 : Int64).toInt = 8 := by decide
  refine ⟨?_, ?_, ⟨_, readByte_of_lt (by omega) (by omega)⟩, by decide⟩
  · rw [readUint32, readFixed_of_le (by decide) (by decide) (by decide) (by simp; omega)]
    rfl
  · rw [readUint32, readFixed_of_le (by omega) (by decide) (by decide) (by omega)]
    exact ⟨_, rfl⟩

/-- A packet of 9 to 31 bytes with `CLIENT_PROTOCOL_41` makes the parser panic, unless it
switches to TLS: the reserved bytes are skipped to position 32 without a bounds test, and
`readNullString` slices the packet from there. -/
theorem handshake_short_panics (tlsConfigured firstTime : Bool) (c : Conn) (data : Slice UInt8)
    (hlen : 9 ≤ data.toList.length) (hshort : data.toList.length < 32)
    (h41 : clientFlagsOf data &&& capabilityClientProtocol41 ≠ 0)
    (hssl : (firstTime && tlsConfigured &&
      decide (clientFlagsOf data &&& capabilityClientSSL > 0)) = false) :
    (parseClientHandshakePacket tlsConfigured firstTime c data).run =
      .error .sliceBoundsOutOfRange := by
  obtain ⟨h1, ⟨m, h2⟩, ⟨b, h3⟩, h32⟩ := handshake_fixed_part hlen
  -- the parser computes the position as the sum, not by name
  have h32' : (0 + Int64.ofNat 4 + Int64.ofNat 4 + 1 + 23 : Int64).toInt = 32 := h32
  have hnull : readNullString data (0 + Int64.ofNat 4 + Int64.ofNat 4 + 1 + 23) =
      .error .sliceBoundsOutOfRange := readNullString_of_gt (by omega)
  simp only [parseClientHandshakePacket, ExceptT.run_bind, orFail_of_ok h1, Except.ok_bind,
    if_neg h41, Except.pure_eq_ok, orFail_of_ok h2, orFail_of_ok h3, hssl,
    Bool.false_eq_true, if_false, orFail_of_panic hnull, Except.error_bind]

/-- A packet of at least 32 bytes is parsed without a panic, unless its auth response is
length-encoded with a length that reaches `2^63` from its start. -/
theorem handshake_returns (tlsConfigured firstTime : Bool) (c : Conn) (data : Slice UInt8)
    (hlen : 32 ≤ data.toList.length)
    (hsmall : clientFlagsOf data &&& capabilityClientPluginAuthLenencClientData ≠ 0 →
      ∀ username p l q, readNullString data afterReserved = .ok (username, p, true) →
        readLenEncInt data p = .ok (l, q, true) → q.toInt + l.toNat < 2 ^ 63) :
    Returns (parseClientHandshakePacket tlsConfigured firstTime c data) fun _ => True := by
  obtain ⟨h1, ⟨m, h2⟩, ⟨b, h3⟩, h32⟩ := handshake_fixed_part (by omega : 9 ≤ data.toList.length)
  have h32' : (0 + Int64.ofNat 4 + Int64.ofNat 4 + 1 + 23 : Int64).toInt = 32 := h32
  unfold parseClientHandshakePacket
  refine returns_bind (orFail_returns ⟨_, h1⟩) ?_
  rintro ⟨clientFlags, p⟩ hflags
  rw [h1] at hflags
  simp only [Except.ok.injEq, Prod.mk.injEq, and_true] at hflags
  obtain ⟨hcf, rfl⟩ := hflags
  rw [hcf] at hsmall
  dsimp only
  split
  · -- not protocol 4.1: an error, no panic
    exact returns_bind (returns_throw (Q := fun _ => False) _) fun _ h => h.elim
  · -- the maximum packet size and the character set are there
    refine returns_bind (orFail_returns ⟨_, h2⟩) ?_
    rintro ⟨maxPacketSize, p2⟩ hmax
    rw [h2] at hmax
    simp only [Except.ok.injEq, Prod.mk.injEq, and_true] at hmax
    obtain ⟨-, rfl⟩ := hmax
    refine returns_bind (orFail_returns ⟨_, h3⟩) ?_
    rintro ⟨characterSet, p3⟩ hcs
    rw [h3] at hcs
    simp only [Except.ok.injEq, Prod.mk.injEq, and_true] at hcs
    obtain ⟨-, rfl⟩ := hcs
    dsimp only
    split
    · exact returns_pure trivial
    · -- position 32 is in the packet: each later read starts where the last one ended
      refine returns_bind (orFail_returns
        (@readNullString_decodes data _ (by omega) (by omega)).exists_ok) ?_
      rintro ⟨username, p4⟩ h4
      dsimp only at h4 ⊢
      obtain ⟨-, hp4, hp4'⟩ := readNullString_ok_inv h4
      refine returns_bind (readAuthResponse_returns
        (fun hflag l q hl => hsmall hflag username p4 l q h4 hl) (by omega) hp4') ?_
      rintro ⟨authResponse, p5⟩ ⟨hp5, hp5'⟩
      dsimp only at hp5 hp5' ⊢
      refine returns_bind (readDbName_returns (by omega) hp5') ?_
      rintro ⟨c', p6⟩ ⟨hp6, hp6'⟩
      dsimp only at hp6 hp6' ⊢
      refine returns_bind (readAuthMethod_returns (by omega) hp6') ?_
      rintro ⟨authMethod, p7⟩ ⟨hp7, hp7'⟩
      dsimp only at hp7 hp7' ⊢
      split
      · obtain ⟨r, hr, -⟩ := @parseConnAttrs_returns data p7 (by omega) hp7'
        exact returns_bind (returns_lift (Q := fun _ => True) hr trivial)
          fun _ _ => returns_pure trivial
      · exact returns_pure trivial

/-- The 32 bytes of a `CLIENT_PROTOCOL_41` client without a length-encoded auth response. -/
theorem handshake_returns_protocol41 :
    32 ≤ ([0x00, 0x02, 0x00, 0x00] ++ List.replicate 28 0 : List UInt8).length ∧
      (clientFlagsOf ⟨[0x00, 0x02, 0x00, 0x00] ++ List.replicate 28 0, by decide⟩ &&&
          capabilityClientPluginAuthLenencClientData ≠ 0 →
        ∀ username p l q, readNullString ⟨[0x00, 0x02, 0x00, 0x00] ++ List.replicate 28 0, by decide⟩
            afterReserved = .ok (username, p, true) →
          readLenEncInt ⟨[0x00, 0x02, 0x00, 0x00] ++ List.replicate 28 0, by decide⟩ p =
            .ok (l, q, true) → q.toInt + l.toNat < 2 ^ 63) ∧
      Returns (parseClientHandshakePacket false true ⟨0, 0, []⟩
        ⟨[0x00, 0x02, 0x00, 0x00] ++ List.replicate 28 0, by decide⟩) fun _ => True := by
  -- the flags do not ask for a length-encoded auth response
  have hsmall : clientFlagsOf ⟨[0x00, 0x02, 0x00, 0x00] ++ List.replicate 28 0, by decide⟩ &&&
      capabilityClientPluginAuthLenencClientData ≠ 0 →
      ∀ username p l q, readNullString ⟨[0x00, 0x02, 0x00, 0x00] ++ List.replicate 28 0, by decide⟩
          afterReserved = .ok (username, p, true) →
        readLenEncInt ⟨[0x00, 0x02, 0x00, 0x00] ++ List.replicate 28 0, by decide⟩ p =
          .ok (l, q, true) → q.toInt + l.toNat < 2 ^ 63 :=
    fun h => absurd (by decide) h
  exact ⟨by decide, hsmall, handshake_returns false true ⟨0, 0, []⟩ _ (by decide) hsmall⟩

/-- A packet of at least 32 bytes whose auth response is length-encoded with a length that
reaches `2^63` from its start makes the parser panic, unless it switches to TLS: `int(l)` is
negative or its end overflows, the bounds test of `readBytesCopy` passes, and `make` is asked
for an impossible buffer. -/
theorem handshake_lenenc_panics (tlsConfigured firstTime : Bool) (c : Conn) (data : Slice UInt8)
    (username : List UInt8) (p q : Int64) (l : UInt64) (hlen : 32 ≤ data.toList.length)
    (h41 : clientFlagsOf data &&& capabilityClientProtocol41 ≠ 0)
    (hssl : (firstTime && tlsConfigured &&
      decide (clientFlagsOf data &&& capabilityClientSSL > 0)) = false)
    (hflag : clientFlagsOf data &&& capabilityClientPluginAuthLenencClientData ≠ 0)
    (huser : readNullString data afterReserved = .ok (username, p, true))
    (hl : readLenEncInt data p = .ok (l, q, true)) (hbig : 2 ^ 63 < q.toInt + l.toNat) :
    (parseClientHandshakePacket tlsConfigured firstTime c data).run =
      .error .makeSliceLenOutOfRange := by
  obtain ⟨h1, ⟨m, h2⟩, ⟨b, h3⟩, -⟩ := handshake_fixed_part (by omega : 9 ≤ data.toList.length)
  obtain ⟨hp0, hq, hq'⟩ := readLenEncInt_ok_inv hl
  have hcopy : readBytesCopy data q l.toInt64 = .error .makeSliceLenOutOfRange :=
    readBytesCopy_lenEnc_panics hq' hbig
  have huser' : readNullString data (0 + Int64.ofNat 4 + Int64.ofNat 4 + 1 + 23) =
      .ok (username, p, true) := huser
  simp only [parseClientHandshakePacket, ExceptT.run_bind, orFail_of_ok h1, Except.ok_bind,
    if_neg h41, Except.pure_eq_ok, orFail_of_ok h2, orFail_of_ok h3, hssl, Bool.false_eq_true,
    if_false, orFail_of_ok huser', readAuthResponse, if_pos hflag, orFail_of_ok hl,
    orFail_of_panic hcopy, Except.error_bind]

/-! ## Two packets a client can send before it authenticates -/

/-- Nine bytes: `CLIENT_PROTOCOL_41` in the flags, a zero maximum packet size, and character
set `0x21`. -/
def nineBytePacket : Slice UInt8 :=
  ⟨[0x00, 0x02, 0x00, 0x00, 0x00, 0x00, 0x00, 0x00, 0x21], by decide⟩

/-- 42 bytes: the flags `CLIENT_PROTOCOL_41` and `CLIENT_PLUGIN_AUTH_LENENC_CLIENT_DATA`, an
empty user name at position 32, and an auth-response length `0xfe` followed by eight `0xff`
bytes. -/
def lenencPacket : Slice UInt8 :=
  ⟨[0x00, 0x02, 0x20, 0x00, 0x00, 0x00, 0x00, 0x00, 0x21] ++ List.replicate 23 0 ++
    [0x00, 0xfe] ++ List.replicate 8 0xff, by decide⟩

theorem handshake_client_packets_panic (firstTime : Bool) (c : Conn) :
    (parseClientHandshakePacket false firstTime c nineBytePacket).run =
        .error .sliceBoundsOutOfRange ∧
      (parseClientHandshakePacket false firstTime c lenencPacket).run =
        .error .makeSliceLenOutOfRange :=
  ⟨handshake_short_panics false firstTime c nineBytePacket (by decide) (by decide) (by decide)
      (by simp),
    handshake_lenenc_panics false firstTime c lenencPacket [] 33 42 0xffffffffffffffff
      (by decide) (by decide) (by simp) (by decide) (by decide) (by decide) (by decide)⟩

end Wescale.Mysql
