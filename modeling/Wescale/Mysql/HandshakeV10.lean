import Mathlib
import Wescale.Mysql.Writers
import Wescale.Mysql.Handshake

/-!
# The server greeting (`writeHandshakeV10` in `go/mysql/server.go`,
# `parseInitialHandshakePacket` in `go/mysql/client.go`)

The server opens a connection with the `HandshakeV10` packet: the protocol version, its version
string, the connection id, the salt in two parts around the capability flags, the character
set and the status flags, and the name of the auth method. `writeHandshakeV10` announces a
fixed set of capabilities, and `CLIENT_SSL` when TLS is configured; the salt is what `newSalt`
makes of 20 random bytes, and the auth method is the auth server's default when that is
`mysql_native_password` or `caching_sha2_password`, the first otherwise.

The client reads the packet with `parseInitialHandshakePacket`, which sets the server version,
the connection id, the character set and the auth plugin name of its connection, and returns the
capabilities and the salt. It accepts an `ERR` packet in place of the greeting, and an old
greeting that ends after the lower capability flags; each read that fails returns a `SQLError`
with its own code and message.

## What is proved

- `writeHandshakeV10_eq`: the sanity check of the writer never fails: its writes fill the packet
  of the length it computes.
- `parseInitialHandshakePacket_handshakeV10Packet`: the client reads back the greeting of every
  server whose version string has no zero byte: the capabilities the server announced, the salt
  without the zero byte the packet adds, and the version, the connection id, the character set
  and the auth method the server wrote.
-/

set_option autoImplicit false

namespace Wescale.Mysql

open Go

/-! ## Errors -/

/-- `SQLError`: the error number, the SQL state and the message. -/
structure SQLError where
  num : Nat
  state : String
  message : String
  deriving DecidableEq, Repr

/-- `SSUnknownSQLState`. -/
def SSUnknownSQLState : String := "HY000"

/-- `CRVersionError`. -/
def CRVersionError : Nat := 2007

/-- `CRServerHandshakeErr`. -/
def CRServerHandshakeErr : Nat := 2012

/-- `CRMalformedPacket`. -/
def CRMalformedPacket : Nat := 2027

/-- `NewSQLError(number, sqlState, message)`: an empty state is `SSUnknownSQLState`. -/
def newSQLError (number : Nat) (sqlState message : String) : SQLError :=
  ⟨number, if sqlState = "" then SSUnknownSQLState else sqlState, message⟩

/-- A Go string as the text `%v` prints: each byte the character of its code. -/
def bytesString (bs : List UInt8) : String := String.ofList (bs.map fun b => Char.ofNat b.toNat)

/-- `v, pos, ok := read(data, pos); if !ok { return NewSQLError(code, SSUnknownSQLState, msg) }`. -/
def orSQLError {β : Type} (r : Except Panic (β × Int64 × Bool)) (code : Nat) (msg : String) :
    ExceptT SQLError (Except Panic) (β × Int64) := do
  let (v, p, ok) ← ExceptT.lift r
  if !ok then throw (newSQLError code SSUnknownSQLState msg)
  return (v, p)

theorem orSQLError_of_ok {β : Type} {r : Except Panic (β × Int64 × Bool)} {code : Nat}
    {msg : String} {v : β} {p : Int64} (h : r = .ok (v, p, true)) :
    (orSQLError r code msg).run = .ok (.ok (v, p)) := by
  rw [orSQLError, ExceptT.run_bind, ExceptT.run_lift, h]
  rfl

/-! ## Constants -/

/-- `protocolVersion`. -/
def protocolVersion : UInt8 := 10

/-- `ErrPacket`, the header byte of an error packet. -/
def ErrPacket : UInt8 := 0xff

/-- `CapabilityClientLongPassword`. -/
def capabilityClientLongPassword : UInt32 := 1

/-- `CapabilityClientLongFlag`. -/
def capabilityClientLongFlag : UInt32 := (1 : UInt32) <<< 2

/-- `CapabilityClientTransactions`. -/
def capabilityClientTransactions : UInt32 := (1 : UInt32) <<< 13

/-- `CapabilityClientMultiResults`. -/
def capabilityClientMultiResults : UInt32 := (1 : UInt32) <<< 17

/-- `CachingSha2Password`, as bytes. -/
def cachingSha2Password : List UInt8 :=
  "caching_sha2_password".toList.map fun ch => ch.toNat.toUInt8

/-! ## The server's greeting -/

/-- `newSalt`: the 20 bytes of `rand.Read`, each cut to seven bits and moved off `0` and `'$'`,
so that the salt is a legal UTF-8 string. -/
def newSalt (random : Vector UInt8 20) : Vector UInt8 20 :=
  random.map fun b => if b &&& 0x7f = 0 ∨ b &&& 0x7f = 0x24 then (b &&& 0x7f) + 1 else b &&& 0x7f

/-- The capabilities `writeHandshakeV10` announces. -/
def handshakeV10Capabilities (enableTLS : Bool) : UInt32 :=
  let capabilities := capabilityClientLongPassword ||| capabilityClientFoundRows |||
    capabilityClientLongFlag ||| capabilityClientConnectWithDB ||| capabilityClientProtocol41 |||
    capabilityClientTransactions ||| capabilityClientSecureConnection |||
    capabilityClientMultiStatements ||| capabilityClientMultiResults |||
    capabilityClientPluginAuth ||| capabilityClientPluginAuthLenencClientData |||
    capabilityClientDeprecateEOF ||| capabilityClientConnAttr
  if enableTLS then capabilities ||| capabilityClientSSL else capabilities

/-- The auth method of the greeting: the auth server's default, when a client can follow it. -/
def handshakeV10AuthMethod (defaultAuthMethod : List UInt8) : List UInt8 :=
  if defaultAuthMethod ≠ mysqlNativePassword ∧ defaultAuthMethod ≠ cachingSha2Password then
    mysqlNativePassword
  else defaultAuthMethod

/-- The `length` `writeHandshakeV10` starts the packet with. -/
def handshakeV10Length (serverVersion authMethod : List UInt8) : Nat :=
  1 + lenNullString serverVersion + 4 + 8 + 1 + 2 + 1 + 2 + 2 + 1 + 10 + 13 +
    lenNullString authMethod

/-- The bytes `writeHandshakeV10` writes after the packet header, in the order of its writes:
the first 8 bytes of the plugin data before the flags, the other 13 after them. -/
def handshakeV10Packet (connectionID : UInt32) (statusFlags : UInt16) (characterSet : UInt8)
    (serverVersion authMethod : List UInt8) (capabilities : UInt32) (pluginData : List UInt8) :
    List UInt8 :=
  writeByte protocolVersion ++ writeNullString serverVersion ++ writeUint32 connectionID ++
    pluginData.take 8 ++ writeByte 0 ++ writeUint16 capabilities.toUInt16 ++
    writeByte characterSet ++ writeUint16 statusFlags ++
    writeUint16 (capabilities >>> 16).toUInt16 ++ writeByte 21 ++ writeZeroes 10 ++
    pluginData.drop 8 ++ writeNullString authMethod

/-- `writeHandshakeV10`: the greeting it sends and the plugin data it returns, the salt with a
trailing zero. `random` is what `newSalt` reads, `defaultAuthMethod` the auth server's default
method, and `characterSet` the default connection character set of the collation environment. -/
def writeHandshakeV10 (connectionID : UInt32) (statusFlags : UInt16) (characterSet : UInt8)
    (serverVersion defaultAuthMethod : List UInt8) (enableTLS : Bool) (random : Vector UInt8 20) :
    Except String (List UInt8 × List UInt8) :=
  let capabilities := handshakeV10Capabilities enableTLS
  let authMethod := handshakeV10AuthMethod defaultAuthMethod
  let length := handshakeV10Length serverVersion authMethod
  -- plugin data is always defined as having a trailing NULL
  let pluginData := (newSalt random).toList ++ [0]
  let data := handshakeV10Packet connectionID statusFlags characterSet serverVersion authMethod
    capabilities pluginData
  if data.length ≠ length then
    .error ("error building Handshake packet: got " ++ toString (data.length + 4) ++
      " bytes expected " ++ toString (length + 4))
  else .ok (data, pluginData)

/-- **The sanity check never fails**: the writes of `writeHandshakeV10` fill the packet of the
length it computes. -/
theorem writeHandshakeV10_eq (connectionID : UInt32) (statusFlags : UInt16) (characterSet : UInt8)
    (serverVersion defaultAuthMethod : List UInt8) (enableTLS : Bool) (random : Vector UInt8 20) :
    writeHandshakeV10 connectionID statusFlags characterSet serverVersion defaultAuthMethod
        enableTLS random =
      .ok (handshakeV10Packet connectionID statusFlags characterSet serverVersion
        (handshakeV10AuthMethod defaultAuthMethod) (handshakeV10Capabilities enableTLS)
        ((newSalt random).toList ++ [0]), (newSalt random).toList ++ [0]) := by
  have hlen : (handshakeV10Packet connectionID statusFlags characterSet serverVersion
      (handshakeV10AuthMethod defaultAuthMethod) (handshakeV10Capabilities enableTLS)
      ((newSalt random).toList ++ [0])).length =
      handshakeV10Length serverVersion (handshakeV10AuthMethod defaultAuthMethod) := by
    simp only [handshakeV10Packet, handshakeV10Length, List.length_append, length_writeNullString,
      length_writeUint32, List.length_take, List.length_drop, Vector.length_toList,
      List.length_singleton]
    simp [writeByte, writeUint16, writeZeroes]
  rw [writeHandshakeV10]
  exact if_neg (not_not.mpr hlen)

/-! ## The client's reading of it -/

/-- The fields of the client's `Conn` that the handshake reads or sets. -/
structure ClientConn where
  serverVersion : List UInt8
  connectionID : UInt32
  characterSet : UInt8
  authPluginName : List UInt8
  capabilities : UInt32
  salt : List UInt8
  schemaName : List UInt8
  deriving DecidableEq, Repr

/-- The second part of the plugin data: `max(13, length - 8)` bytes, of which the last has to
be zero and is not part of the data. -/
def readAuthPluginDataPart2 (data : Slice UInt8) (pos : Int64) (authPluginDataLength : UInt8) :
    ExceptT SQLError (Except Panic) (List UInt8 × Int64) := do
  let l : Int64 := Int64.ofNat authPluginDataLength.toNat - 8
  let l := if l > 13 then 13 else l
  let (authPluginDataPart2, pos) ← orSQLError (readBytes data pos l) CRMalformedPacket
    "parseInitialHandshakePacket: packet has no auth-plugin-data-part-2"
  let last ← ExceptT.lift (authPluginDataPart2.index (l - 1))
  if last ≠ 0 then
    throw (newSQLError CRMalformedPacket SSUnknownSQLState
      "parseInitialHandshakePacket: auth-plugin-data-part-2 is not 0 terminated")
  let part ← ExceptT.lift (authPluginDataPart2.slice 0 (l - 1))
  return (part.toList, pos)

/-- The auth plugin name: zero-terminated, or running to the byte before the end of the packet
for the servers before 5.5.10 and 5.6.2 that send it without the zero. -/
def readAuthPluginName (data : Slice UInt8) (pos : Int64) :
    ExceptT SQLError (Except Panic) (List UInt8) := do
  let (authPluginName, _, ok) ← ExceptT.lift (readNullString data pos)
  if ok then return authPluginName
  let s ← ExceptT.lift (data.slice pos (data.len - 1))
  return s.toList

/-- `parseInitialHandshakePacket`: the client's connection with the fields the greeting sets,
the capabilities and the auth plugin data. -/
def parseInitialHandshakePacket (c : ClientConn) (data : Slice UInt8) :
    ExceptT SQLError (Except Panic) (ClientConn × UInt32 × List UInt8) := do
  let (pver, pos) ← orSQLError (readByte data 0) CRVersionError
    "parseInitialHandshakePacket: packet has no protocol version"
  -- the server may send an ERR packet at once
  if pver = ErrPacket then
    let (errorCode, pos, _) ← ExceptT.lift (readUint16 data pos)
    let (errorMsg, _, _) ← ExceptT.lift (readEOFString data pos)
    throw (newSQLError CRServerHandshakeErr SSUnknownSQLState
      ("immediate error from server errorCode=" ++ toString errorCode ++ " errorMsg=" ++
        bytesString errorMsg))
  if pver ≠ protocolVersion then
    throw (newSQLError CRVersionError SSUnknownSQLState ("bad protocol version: " ++ toString pver))
  let (serverVersion, pos) ← orSQLError (readNullString data pos) CRMalformedPacket
    "parseInitialHandshakePacket: packet has no server version"
  let (connectionID, pos) ← orSQLError (readUint32 data pos) CRMalformedPacket
    "parseInitialHandshakePacket: packet has no connection id"
  let c := { c with serverVersion := serverVersion, connectionID := connectionID }
  let (authPluginData, pos) ← orSQLError (readBytes data pos 8) CRMalformedPacket
    "parseInitialHandshakePacket: packet has no auth-plugin-data-part-1"
  let (_, pos) ← orSQLError (readByte data pos) CRMalformedPacket
    "parseInitialHandshakePacket: packet has no filler"
  let (capLower, pos) ← orSQLError (readUint16 data pos) CRMalformedPacket
    "parseInitialHandshakePacket: packet has no capability flags (lower 2 bytes)"
  let capabilities := capLower.toUInt32
  -- the packet can end here
  if pos = data.len then return (c, capabilities, authPluginData.toList)
  let (characterSet, pos) ← orSQLError (readByte data pos) CRMalformedPacket
    "parseInitialHandshakePacket: packet has no character set"
  let c := { c with characterSet := characterSet }
  let (_, pos) ← orSQLError (readUint16 data pos) CRMalformedPacket
    "parseInitialHandshakePacket: packet has no status flags"
  let (capUpper, pos) ← orSQLError (readUint16 data pos) CRMalformedPacket
    "parseInitialHandshakePacket: packet has no capability flags (upper 2 bytes)"
  let capabilities := capabilities + (capUpper.toUInt32 <<< 16)
  let (authPluginDataLength, pos) ←
    if capabilities &&& capabilityClientPluginAuth ≠ 0 then
      orSQLError (readByte data pos) CRMalformedPacket
        "parseInitialHandshakePacket: packet has no length of auth-plugin-data"
    else do
      let (_, pos) ← orSQLError (readByte data pos) CRMalformedPacket
        "parseInitialHandshakePacket: packet has no length of auth-plugin-data filler"
      pure (0, pos)
  -- 10 reserved zero bytes
  let pos := pos + 10
  let (authPluginData, pos) ←
    if capabilities &&& capabilityClientSecureConnection ≠ 0 then do
      let (part2, pos) ← readAuthPluginDataPart2 data pos authPluginDataLength
      pure (authPluginData.toList ++ part2, pos)
    else pure (authPluginData.toList, pos)
  let c ←
    if capabilities &&& capabilityClientPluginAuth ≠ 0 then do
      let authPluginName ← readAuthPluginName data pos
      pure { c with authPluginName := authPluginName }
    else pure c
  return (c, capabilities, authPluginData)

/-! ## The client reads back the greeting -/

/-- The two halves of the capability flags make them up again. -/
theorem toUInt32_add_shiftLeft (x : UInt32) :
    x.toUInt16.toUInt32 + ((x >>> 16).toUInt16.toUInt32 <<< 16) = x := by
  apply UInt32.toNat_inj.mp
  have := x.toNat_lt
  simp only [UInt32.toNat_add, UInt16.toNat_toUInt32, UInt32.toNat_toUInt16,
    UInt32.toNat_shiftLeft, UInt32.toNat_shiftRight]
  simp
  omega

theorem zero_not_mem_handshakeV10AuthMethod (defaultAuthMethod : List UInt8) :
    0 ∉ handshakeV10AuthMethod defaultAuthMethod := by
  unfold handshakeV10AuthMethod
  split
  · decide
  · rename_i h
    rcases not_and_or.mp h with h | h
    · rw [not_not.mp h]
      decide
    · rw [not_not.mp h]
      decide

theorem handshakeV10Capabilities_pluginAuth (enableTLS : Bool) :
    handshakeV10Capabilities enableTLS &&& capabilityClientPluginAuth ≠ 0 := by
  cases enableTLS <;> decide

theorem handshakeV10Capabilities_secureConnection (enableTLS : Bool) :
    handshakeV10Capabilities enableTLS &&& capabilityClientSecureConnection ≠ 0 := by
  cases enableTLS <;> decide

section ReadBack

variable {data : Slice UInt8} {pos : Int64} {rest : List UInt8}

/-- The second part of the plugin data of a greeting that announces 21 bytes: its 12 bytes and
the zero after them. -/
theorem readAuthPluginDataPart2_at {part : List UInt8} (hlen : part.length = 12)
    (h : At data pos ((part ++ [0]) ++ rest)) :
    ∃ p, (readAuthPluginDataPart2 data pos 21).run = .ok (.ok (part, p)) ∧ At data p rest := by
  have hl : (Int64.ofNat (21 : UInt8).toNat - 8 : Int64) = 13 := by decide
  obtain ⟨s, p, hs, hslist, hat⟩ :=
    @readBytes_at data pos rest (part ++ [0]) 13 h (by simp [hlen])
  have hlast : s.index (13 - 1) = .ok 0 := by
    rw [index_of_lt s _ (by decide) (by rw [hslist]; simp [hlen])]
    simp only [List.get_eq_getElem, hslist]
    rw [List.getElem_append_right (by simp [hlen])]
    simp [hlen]
  obtain ⟨t, ht, htlist⟩ := slice_of_le s 0 (13 - 1) (by decide) (by decide)
    (by rw [hslist]; simp [hlen])
  have htpart : t.toList = part := by
    rw [htlist, hslist]
    simp [hlen]
  refine ⟨p, ?_, hat⟩
  rw [readAuthPluginDataPart2]
  simp only [hl, ite_self]
  rw [run_bind_of_ok (orSQLError_of_ok hs), run_bind_of_ok (run_lift_of_ok hlast),
    if_neg (not_not.mpr rfl), run_bind_of_ok (run_lift_of_ok ht), htpart]
  rfl

theorem readAuthPluginName_at {name : List UInt8} (hz : 0 ∉ name)
    (h : At data pos (writeNullString name ++ rest)) :
    (readAuthPluginName data pos).run = .ok (.ok name) := by
  obtain ⟨p, hp, -⟩ := readNullString_at hz h
  rw [readAuthPluginName, run_bind_of_ok (run_lift_of_ok hp)]
  rfl

end ReadBack

/-- The greeting field after field, in the order the client reads it. -/
theorem handshakeV10Packet_eq (connectionID : UInt32) (statusFlags : UInt16)
    (characterSet : UInt8) (serverVersion authMethod : List UInt8) (capabilities : UInt32)
    {salt : List UInt8} (hsalt : salt.length = 20) :
    handshakeV10Packet connectionID statusFlags characterSet serverVersion authMethod capabilities
        (salt ++ [0]) =
      protocolVersion :: (writeNullString serverVersion ++ (writeUint32 connectionID ++
        (salt.take 8 ++ ((0 : UInt8) :: (writeUint16 capabilities.toUInt16 ++ (characterSet ::
          (writeUint16 statusFlags ++ (writeUint16 (capabilities >>> 16).toUInt16 ++
            ((21 : UInt8) :: (writeZeroes 10 ++ ((salt.drop 8 ++ [0]) ++
              writeNullString authMethod))))))))))) := by
  rw [handshakeV10Packet, List.take_append_of_le_length (by omega),
    List.drop_append_of_le_length (by omega)]
  simp only [writeByte, List.append_assoc, List.cons_append, List.nil_append]

/-- **The client reads back the greeting.** From the packet `writeHandshakeV10` sends for a
version string without a zero byte, `parseInitialHandshakePacket` returns the capabilities the
server announced and the salt, and sets the server version, the connection id, the character
set and the auth method of the client's connection to those the server wrote. -/
theorem parseInitialHandshakePacket_handshakeV10Packet (c : ClientConn) {data : Slice UInt8}
    {connectionID : UInt32} {statusFlags : UInt16} {characterSet : UInt8}
    {serverVersion defaultAuthMethod : List UInt8} {enableTLS : Bool} {random : Vector UInt8 20}
    (hz : 0 ∉ serverVersion)
    (hdata : data.toList = handshakeV10Packet connectionID statusFlags characterSet serverVersion
      (handshakeV10AuthMethod defaultAuthMethod) (handshakeV10Capabilities enableTLS)
      ((newSalt random).toList ++ [0])) :
    (parseInitialHandshakePacket c data).run = .ok (.ok
      ({ c with
          serverVersion := serverVersion
          connectionID := connectionID
          characterSet := characterSet
          authPluginName := handshakeV10AuthMethod defaultAuthMethod },
        handshakeV10Capabilities enableTLS, (newSalt random).toList)) := by
  set salt := (newSalt random).toList with hsalt_def
  set capabilities := handshakeV10Capabilities enableTLS with hcap_def
  set authMethod := handshakeV10AuthMethod defaultAuthMethod with hauth_def
  have hsalt : salt.length = 20 := Vector.length_toList
  rw [handshakeV10Packet_eq _ _ _ _ _ _ hsalt] at hdata
  -- the fields one after the other, each read where the one before ended
  obtain ⟨p1, h1, hat1⟩ := readByte_at (At.start hdata)
  obtain ⟨p2, h2, hat2⟩ := readNullString_at hz hat1
  obtain ⟨p3, h3, hat3⟩ := readUint32_at hat2
  obtain ⟨part1, p4, h4, hpart1, hat4⟩ := @readBytes_at data p3 _ _ 8 hat3 (by simp [hsalt])
  obtain ⟨p5, h5, hat5⟩ := readByte_at hat4
  obtain ⟨p6, h6, hat6⟩ := readUint16_at hat5
  obtain ⟨p7, h7, hat7⟩ := readByte_at hat6
  obtain ⟨p8, h8, hat8⟩ := readUint16_at hat7
  obtain ⟨p9, h9, hat9⟩ := readUint16_at hat8
  obtain ⟨p10, h10, hat10⟩ := readByte_at hat9
  have hat11 : At data (p10 + 10) _ := hat10.skip
  obtain ⟨p12, h12, hat12⟩ := readAuthPluginDataPart2_at (by simp [hsalt]) hat11
  have h13 := readAuthPluginName_at (zero_not_mem_handshakeV10AuthMethod defaultAuthMethod)
    (by rw [List.append_nil]; exact hat12)
  have hnotEnd : p6 ≠ data.len := fun h => by
    have := (hat6.eq_len_iff).mp h
    cases this
  rw [parseInitialHandshakePacket, run_bind_of_ok (orSQLError_of_ok h1)]
  dsimp only
  rw [if_neg (by decide), if_neg (by decide), run_bind_of_ok (orSQLError_of_ok h2),
    run_bind_of_ok (orSQLError_of_ok h3), run_bind_of_ok (orSQLError_of_ok h4),
    run_bind_of_ok (orSQLError_of_ok h5), run_bind_of_ok (orSQLError_of_ok h6)]
  dsimp only
  rw [if_neg hnotEnd, run_bind_of_ok (orSQLError_of_ok h7), run_bind_of_ok (orSQLError_of_ok h8),
    run_bind_of_ok (orSQLError_of_ok h9)]
  dsimp only
  rw [toUInt32_add_shiftLeft, if_pos (handshakeV10Capabilities_pluginAuth enableTLS),
    run_bind_of_ok (orSQLError_of_ok h10)]
  dsimp only
  rw [if_pos (handshakeV10Capabilities_secureConnection enableTLS), run_bind_of_ok h12, pure_bind]
  dsimp only
  rw [if_pos (handshakeV10Capabilities_pluginAuth enableTLS), run_bind_of_ok h13, pure_bind,
    hpart1, List.take_append_drop]
  rfl

end Wescale.Mysql
