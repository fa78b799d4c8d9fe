import Mathlib
import Wescale.Lib.Flags
import Wescale.Mysql.HandshakeV10

/-!
# The client's handshake response (`writeHandshakeResponse41` and `writeSSLRequest` in
# `go/mysql/client.go`)

After the greeting the client answers with `HandshakeResponse41`: its capability flags, a
maximum packet size of zero, the character set, 23 reserved zero bytes, the user name, the
scrambled password after its length, the database name when the server takes it, and the auth
plugin name the greeting named. The flags are the client's own `CapabilityFlags` with three
taken from the negotiation: `CLIENT_DEPRECATE_EOF` and `CLIENT_SESSION_TRACK` when the client
keeps them from the server's, and `CLIENT_FOUND_ROWS` when the connection parameters ask for it.
The password's length is length-encoded when the server announced
`CLIENT_PLUGIN_AUTH_LENENC_CLIENT_DATA`, a single byte otherwise, though the flags always claim
the length-encoded form.

With TLS the client first sends `SSLRequest`, the first 32 bytes of a response with
`CLIENT_SSL` set; the source writes only the flags, the packet size and the character set, and
the 23 reserved bytes are whatever the pooled buffer held.

## What is proved

- `writeHandshakeResponse41_eq`: the sanity check of the writer never fails.
- `parseClientHandshakePacket_handshakeResponse41Packet`: the server's
  `parseClientHandshakePacket` reads back every response whose strings have no zero byte and
  whose password length reads back: the user name, the auth method, the scrambled password, the
  character set, the database name exactly when the client sent one, and the capabilities it
  keeps of the client's flags.
- `parseClientHandshakePacket_writeSSLRequest`: a server with TLS configured reads an
  `SSLRequest` as the request to switch, and keeps `CLIENT_SSL` with the flags it keeps on a
  first read.
-/

set_option autoImplicit false

namespace Wescale.Mysql

open Go

/-- The fields of `ConnParams` the handshake reads. `sslEnabled` and `sslRequired` are what
`SslEnabled()` and `SslRequired()` compute from the SSL mode. -/
structure ConnParams where
  uname : List UInt8
  pass : List UInt8
  dbName : List UInt8
  flags : UInt64
  disableClientDeprecateEOF : Bool
  sslEnabled : Bool
  sslRequired : Bool
  /-- `Charset`, the name of the connection's character set or collation. -/
  charset : String
  /-- `TLSMinVersion`. -/
  tlsMinVersion : String
  deriving DecidableEq, Repr

/-- `CapabilityFlags`, the capabilities the client always sends. -/
def CapabilityFlags : UInt32 :=
  capabilityClientLongPassword ||| capabilityClientLongFlag ||| capabilityClientProtocol41 |||
    capabilityClientTransactions ||| capabilityClientSecureConnection |||
    capabilityClientMultiStatements ||| capabilityClientMultiResults |||
    capabilityClientPluginAuth ||| capabilityClientPluginAuthLenencClientData

/-- `CapabilityFlagsSsl`. -/
def CapabilityFlagsSsl : UInt32 := CapabilityFlags ||| capabilityClientSSL

/-! ## The response -/

/-- The flags `writeHandshakeResponse41` builds before the database name. -/
def handshakeResponse41Flags (c : ClientConn) (params : ConnParams) : UInt32 :=
  CapabilityFlags ||| c.capabilities &&& capabilityClientDeprecateEOF |||
    capabilityClientFoundRows &&& params.flags.toUInt32 |||
    c.capabilities &&& CapabilityClientSessionTrack

/-- The client sends the database name when it has one and the server supports it. -/
def sendsDbName (capabilities : UInt32) (params : ConnParams) : Bool :=
  decide (params.dbName ≠ [] ∧ capabilities &&& capabilityClientConnectWithDB ≠ 0)

/-- The length of the scrambled password: length-encoded, or one byte. -/
def authResponseLength (lenenc : Bool) (scrambledPassword : List UInt8) : List UInt8 :=
  if lenenc then writeLenEncInt (UInt64.ofNat scrambledPassword.length)
  else [UInt8.ofNat scrambledPassword.length]

/-- The bytes `writeHandshakeResponse41` writes after the packet header, in the order of its
writes. -/
def handshakeResponse41Packet (capabilityFlags : UInt32) (characterSet : UInt8)
    (uname : List UInt8) (lenenc : Bool) (scrambledPassword : List UInt8) (sendDB : Bool)
    (dbName authPluginName : List UInt8) : List UInt8 :=
  writeUint32 capabilityFlags ++ writeZeroes 4 ++ writeByte characterSet ++ writeZeroes 23 ++
    writeNullString uname ++ authResponseLength lenenc scrambledPassword ++ scrambledPassword ++
    (if sendDB then writeNullString dbName else []) ++ writeNullString authPluginName

/-- `writeHandshakeResponse41`: the response and the client's connection, which keeps the
database name it sent. `capabilities` are the server's. -/
def writeHandshakeResponse41 (c : ClientConn) (capabilities : UInt32)
    (scrambledPassword : List UInt8) (characterSet : UInt8) (params : ConnParams) :
    Except SQLError (List UInt8 × ClientConn) :=
  let capabilityFlags := handshakeResponse41Flags c params
  let length := 4 + 4 + 1 + 23 + lenNullString params.uname + scrambledPassword.length +
    c.authPluginName.length + 1
  -- add the DB name if the server supports it
  let sendDB := sendsDbName capabilities params
  let capabilityFlags := if sendDB then capabilityFlags ||| capabilityClientConnectWithDB
    else capabilityFlags
  let length := if sendDB then length + lenNullString params.dbName else length
  let lenenc := capabilities &&& capabilityClientPluginAuthLenencClientData ≠ 0
  let length := if lenenc then length + lenEncIntSize (UInt64.ofNat scrambledPassword.length)
    else length + 1
  let data := handshakeResponse41Packet capabilityFlags characterSet params.uname lenenc
    scrambledPassword sendDB params.dbName c.authPluginName
  let c := if sendDB then { c with schemaName := params.dbName } else c
  if data.length ≠ length then
    .error (newSQLError CRMalformedPacket SSUnknownSQLState
      ("writeHandshakeResponse41: only packed " ++ toString (data.length + 4) ++
        " bytes, out of " ++ toString (length + 4) ++ " allocated"))
  else .ok (data, c)

/-- The flags of the response, the database flag included. -/
def responseFlags (c : ClientConn) (capabilities : UInt32) (params : ConnParams) : UInt32 :=
  if sendsDbName capabilities params then
    handshakeResponse41Flags c params ||| capabilityClientConnectWithDB
  else handshakeResponse41Flags c params

/-- **The sanity check never fails**: the writes of `writeHandshakeResponse41` fill the packet of
the length it computes. -/
theorem writeHandshakeResponse41_eq (c : ClientConn) (capabilities : UInt32)
    (scrambledPassword : List UInt8) (characterSet : UInt8) (params : ConnParams) :
    writeHandshakeResponse41 c capabilities scrambledPassword characterSet params =
      .ok (handshakeResponse41Packet (responseFlags c capabilities params) characterSet
          params.uname (capabilities &&& capabilityClientPluginAuthLenencClientData ≠ 0)
          scrambledPassword (sendsDbName capabilities params) params.dbName c.authPluginName,
        if sendsDbName capabilities params then { c with schemaName := params.dbName } else c) := by
  rw [writeHandshakeResponse41, responseFlags]
  refine if_neg (not_not.mpr ?_)
  simp only [handshakeResponse41Packet, authResponseLength, writeLenEncInt, List.length_append,
    length_writeUint32, length_writeNullString, lenNullString]
  by_cases hdb : sendsDbName capabilities params <;>
    by_cases hl : capabilities &&& capabilityClientPluginAuthLenencClientData ≠ 0 <;>
    simp [hdb, hl, writeZeroes, writeByte, lenNullString, length_getLenEncInt] <;> omega

/-! ## The flags of the response -/

section ResponseFlags

variable (c : ClientConn) (capabilities : UInt32) (params : ConnParams)

/-- A flag of `CapabilityFlags` is set in the response. -/
theorem responseFlags_ne_zero {m : UInt32} (h : CapabilityFlags &&& m ≠ 0) :
    responseFlags c capabilities params &&& m ≠ 0 := by
  have hbase : handshakeResponse41Flags c params &&& m ≠ 0 :=
    Flags.or_and_ne_zero_of_left _ (Flags.or_and_ne_zero_of_left _
      (Flags.or_and_ne_zero_of_left _ h))
  unfold responseFlags
  split
  · exact Flags.or_and_ne_zero_of_left _ hbase
  · exact hbase

/-- A flag that neither the client's constant, nor the three negotiated flags, nor the database
flag (when the name is sent) has, is not set in the response. -/
theorem responseFlags_eq_zero {m : UInt32} (hcf : CapabilityFlags &&& m = 0)
    (hde : capabilityClientDeprecateEOF &&& m = 0) (hfr : capabilityClientFoundRows &&& m = 0)
    (hst : CapabilityClientSessionTrack &&& m = 0)
    (hdb : sendsDbName capabilities params = true → capabilityClientConnectWithDB &&& m = 0) :
    responseFlags c capabilities params &&& m = 0 := by
  have hbase : handshakeResponse41Flags c params &&& m = 0 := by
    simp only [handshakeResponse41Flags, Flags.and_or_distrib_right, UInt32.or_eq_zero_iff]
    exact ⟨⟨⟨hcf, Flags.and_and_eq_zero _ hde⟩, Flags.and_and_eq_zero' _ hfr⟩,
      Flags.and_and_eq_zero _ hst⟩
  unfold responseFlags
  split
  · rename_i hsend
    rw [Flags.and_or_distrib_right, hbase, hdb hsend, UInt32.or_zero]
  · exact hbase

/-- The database flag is set exactly when the client sends the name. -/
theorem responseFlags_connectWithDB :
    responseFlags c capabilities params &&& capabilityClientConnectWithDB ≠ 0 ↔
      sendsDbName capabilities params = true := by
  by_cases hsend : sendsDbName capabilities params = true
  · refine iff_of_true ?_ hsend
    rw [responseFlags, if_pos hsend]
    exact Flags.or_and_ne_zero_of_right _ (by decide)
  · refine iff_of_false (not_not.mpr ?_) hsend
    exact responseFlags_eq_zero c capabilities params (by decide) (by decide) (by decide)
      (by decide) (fun h => absurd h hsend)

/-- What the server keeps of the flags on a first read: the two negotiated flags it follows. -/
theorem responseFlags_kept :
    responseFlags c capabilities params &&&
        (capabilityClientDeprecateEOF ||| capabilityClientFoundRows) =
      c.capabilities &&& capabilityClientDeprecateEOF |||
        capabilityClientFoundRows &&& params.flags.toUInt32 := by
  have hbase : handshakeResponse41Flags c params &&&
      (capabilityClientDeprecateEOF ||| capabilityClientFoundRows) =
      c.capabilities &&& capabilityClientDeprecateEOF |||
        capabilityClientFoundRows &&& params.flags.toUInt32 := by
    simp only [handshakeResponse41Flags, Flags.and_or_distrib_right]
    rw [show CapabilityFlags &&& (capabilityClientDeprecateEOF ||| capabilityClientFoundRows) = 0
        by decide, UInt32.zero_or, Flags.and_and_eq_self _ (by decide),
      Flags.and_and_eq_self' _ (by decide), Flags.and_and_eq_zero _ (by decide), UInt32.or_zero]
  unfold responseFlags
  split
  · rw [Flags.and_or_distrib_right, hbase,
      show capabilityClientConnectWithDB &&&
        (capabilityClientDeprecateEOF ||| capabilityClientFoundRows) = 0 by decide,
      UInt32.or_zero]
  · exact hbase

end ResponseFlags

/-! ## The request to switch to TLS -/

/-- The flags `writeSSLRequest` sends: those of the response, in another order, with
`CLIENT_SSL`. -/
def sslRequestFlags (c : ClientConn) (capabilities : UInt32) (params : ConnParams) : UInt32 :=
  let capabilityFlags := CapabilityFlagsSsl ||| c.capabilities &&& capabilityClientDeprecateEOF |||
    c.capabilities &&& CapabilityClientSessionTrack |||
    capabilityClientFoundRows &&& params.flags.toUInt32
  -- add the DB name if the server supports it
  if sendsDbName capabilities params then capabilityFlags ||| capabilityClientConnectWithDB
  else capabilityFlags

/-- `SSLRequest`: the flags, the packet size and the character set. The 23 reserved bytes are
not written: they are what the pooled buffer held. -/
def writeSSLRequest (c : ClientConn) (capabilities : UInt32) (characterSet : UInt8)
    (params : ConnParams) (reserved : Vector UInt8 23) : List UInt8 :=
  writeUint32 (sslRequestFlags c capabilities params) ++ writeZeroes 4 ++ writeByte characterSet ++
    reserved.toList

theorem sslRequestFlags_eq (c : ClientConn) (capabilities : UInt32) (params : ConnParams) :
    sslRequestFlags c capabilities params =
      responseFlags c capabilities params ||| capabilityClientSSL := by
  unfold sslRequestFlags responseFlags handshakeResponse41Flags CapabilityFlagsSsl
  dsimp only
  split <;> ac_rfl

theorem sslRequestFlags_kept (c : ClientConn) (capabilities : UInt32) (params : ConnParams) :
    sslRequestFlags c capabilities params &&&
        (capabilityClientDeprecateEOF ||| capabilityClientFoundRows) =
      c.capabilities &&& capabilityClientDeprecateEOF |||
        capabilityClientFoundRows &&& params.flags.toUInt32 := by
  rw [sslRequestFlags_eq, Flags.and_or_distrib_right, responseFlags_kept,
    show capabilityClientSSL &&& (capabilityClientDeprecateEOF ||| capabilityClientFoundRows) = 0
      by decide, UInt32.or_zero]

/-- The `SSLRequest` field after field, in the order the server reads it. -/
theorem writeSSLRequest_eq (c : ClientConn) (capabilities : UInt32) (characterSet : UInt8)
    (params : ConnParams) (reserved : Vector UInt8 23) :
    writeSSLRequest c capabilities characterSet params reserved =
      writeUint32 (sslRequestFlags c capabilities params) ++ (writeUint32 0 ++ (characterSet ::
        (reserved.toList ++ []))) := by
  have hzero : writeZeroes 4 = writeUint32 0 := by decide
  simp only [writeSSLRequest, hzero, writeByte, List.append_assoc, List.cons_append,
    List.nil_append, List.append_nil]

section SSLRequest

variable (sc : Conn) (c : ClientConn) (capabilities : UInt32) (characterSet : UInt8)
  (params : ConnParams) (reserved : Vector UInt8 23) {data : Slice UInt8}

/-- The reads of an `SSLRequest` up to the reserved bytes: its flags, the packet size and the
character set, and the position after the reserved bytes, the end of the packet. -/
theorem readSSLRequest_fixed_part
    (hdata : data.toList = writeSSLRequest c capabilities characterSet params reserved) :
    ∃ p1 p2 p3, readUint32 data 0 = .ok (sslRequestFlags c capabilities params, p1, true) ∧
      readUint32 data p1 = .ok (0, p2, true) ∧ readByte data p2 = .ok (characterSet, p3, true) ∧
      At data (p3 + 23) [] := by
  rw [writeSSLRequest_eq] at hdata
  obtain ⟨p1, h1, hat1⟩ := readUint32_at (At.start hdata)
  obtain ⟨p2, h2, hat2⟩ := readUint32_at hat1
  obtain ⟨p3, h3, hat3⟩ := readByte_at hat2
  have hskip := hat3.skip
  rw [Vector.length_toList] at hskip
  exact ⟨p1, p2, p3, h1, h2, h3, hskip⟩

/-- **A server with TLS configured reads an `SSLRequest` as the request to switch**: on the
first read it keeps the two negotiated flags, `CLIENT_MULTI_STATEMENTS` and `CLIENT_SSL`, sets
the character set, and returns no user, auth method or auth response. -/
theorem parseClientHandshakePacket_writeSSLRequest
    (hdata : data.toList = writeSSLRequest c capabilities characterSet params reserved) :
    (parseClientHandshakePacket true true sc data).run = .ok (.ok
      ({ sc with
          capabilities := c.capabilities &&& capabilityClientDeprecateEOF |||
            capabilityClientFoundRows &&& params.flags.toUInt32 ||| capabilityClientMultiStatements |||
            capabilityClientSSL
          characterSet := characterSet }, [], [], [])) := by
  obtain ⟨p1, p2, p3, h1, h2, h3, -⟩ :=
    readSSLRequest_fixed_part c capabilities characterSet params reserved hdata
  have hflags := sslRequestFlags_eq c capabilities params
  have hp41 : sslRequestFlags c capabilities params &&& capabilityClientProtocol41 ≠ 0 := by
    rw [hflags]
    exact Flags.or_and_ne_zero_of_left _ (responseFlags_ne_zero c capabilities params (by decide))
  have hmulti : sslRequestFlags c capabilities params &&& capabilityClientMultiStatements > 0 := by
    rw [hflags]
    exact UInt32.pos_iff_ne_zero.mpr
      (Flags.or_and_ne_zero_of_left _ (responseFlags_ne_zero c capabilities params (by decide)))
  have hssl : sslRequestFlags c capabilities params &&& capabilityClientSSL > 0 := by
    rw [hflags]
    exact UInt32.pos_iff_ne_zero.mpr (Flags.or_and_ne_zero_of_right _ (by decide))
  rw [parseClientHandshakePacket, run_bind_of_ok (orFail_of_ok h1)]
  dsimp only
  rw [if_neg hp41, if_pos hmulti, run_bind_of_ok (orFail_of_ok h2)]
  dsimp only
  rw [run_bind_of_ok (orFail_of_ok h3)]
  dsimp only
  rw [if_pos (by simp [hssl]), sslRequestFlags_kept]
  rfl

/-- **A server without TLS cannot read an `SSLRequest`**: it reads on past the reserved bytes
for a user name, finds the end of the packet, and fails. -/
theorem parseClientHandshakePacket_writeSSLRequest_of_not_tls (firstTime : Bool)
    (hdata : data.toList = writeSSLRequest c capabilities characterSet params reserved) :
    (parseClientHandshakePacket false firstTime sc data).run =
      .ok (.error "parseClientHandshakePacket: can't read username") := by
  obtain ⟨p1, p2, p3, h1, h2, h3, hend⟩ :=
    readSSLRequest_fixed_part c capabilities characterSet params reserved hdata
  have hp41 : sslRequestFlags c capabilities params &&& capabilityClientProtocol41 ≠ 0 := by
    rw [sslRequestFlags_eq]
    exact Flags.or_and_ne_zero_of_left _ (responseFlags_ne_zero c capabilities params (by decide))
  rw [parseClientHandshakePacket, run_bind_of_ok (orFail_of_ok h1)]
  dsimp only
  rw [if_neg hp41, run_bind_of_ok (orFail_of_ok h2)]
  dsimp only
  rw [run_bind_of_ok (orFail_of_ok h3)]
  dsimp only
  rw [if_neg (by simp), ExceptT.run_bind, orFail_of_fail (readNullString_at_end hend)]
  rfl

end SSLRequest

/-! ## The server reads back the response -/

/-- A one-byte length below 251 is its own length encoding. -/
theorem authResponseLength_eq {lenenc : Bool} {scrambledPassword : List UInt8}
    (h : lenenc = true ∨ scrambledPassword.length < 251) :
    authResponseLength lenenc scrambledPassword =
      getLenEncInt (UInt64.ofNat scrambledPassword.length) := by
  cases lenenc with
  | true => rfl
  | false =>
    have hlt : scrambledPassword.length < 251 := by simpa using h
    have hsmall : UInt64.ofNat scrambledPassword.length < 251 := by
      rw [UInt64.lt_iff_toNat_lt, UInt64.toNat_ofNat_of_lt' (by change _ < 2 ^ 64; omega)]
      exact hlt
    rw [authResponseLength, getLenEncInt, if_pos hsmall, if_neg Bool.false_ne_true]
    congr 1
    apply UInt8.toNat_inj.mp
    have hnat : (UInt64.ofNat scrambledPassword.length).toNat = scrambledPassword.length :=
      UInt64.toNat_ofNat_of_lt' (by change _ < 2 ^ 64; omega)
    simp only [UInt8.toNat_ofNat', UInt64.toNat_toUInt8, hnat]

/-- The response field after field, in the order the server reads it. -/
theorem handshakeResponse41Packet_eq (capabilityFlags : UInt32) (characterSet : UInt8)
    (uname : List UInt8) (lenenc : Bool) (scrambledPassword : List UInt8) (sendDB : Bool)
    (dbName authPluginName : List UInt8) :
    handshakeResponse41Packet capabilityFlags characterSet uname lenenc scrambledPassword sendDB
        dbName authPluginName =
      writeUint32 capabilityFlags ++ (writeUint32 0 ++ (characterSet :: (writeZeroes 23 ++
        (writeNullString uname ++ (authResponseLength lenenc scrambledPassword ++
          (scrambledPassword ++ ((if sendDB then writeNullString dbName else []) ++
            writeNullString authPluginName))))))) := by
  have hzero : writeZeroes 4 = writeUint32 0 := by decide
  simp only [handshakeResponse41Packet, hzero, writeByte, List.append_assoc, List.cons_append,
    List.nil_append]

section ServerReads

variable {data : Slice UInt8} {pos : Int64} {rest : List UInt8}

/-- A length-encoded auth response reads back. -/
theorem readAuthResponse_at {clientFlags : UInt32} {authResponse : List UInt8}
    (hflag : clientFlags &&& capabilityClientPluginAuthLenencClientData ≠ 0)
    (h : At data pos (getLenEncInt (UInt64.ofNat authResponse.length) ++ (authResponse ++ rest))) :
    ∃ p, (readAuthResponse clientFlags data pos).run = .ok (.ok (authResponse, p)) ∧
      At data p rest := by
  obtain ⟨p1, h1, hat1⟩ := readLenEncInt_at h
  have hend := hat1.length_eq
  have hlen := data.length_le_maxAlloc
  rw [List.length_append] at hend
  push_cast at hend
  have hnonneg := hat1.nonneg
  have hnat : (UInt64.ofNat authResponse.length).toNat = authResponse.length :=
    UInt64.toNat_ofNat_of_lt' (by change _ < 2 ^ 64; omega)
  have hsize : (UInt64.ofNat authResponse.length).toInt64.toInt = authResponse.length := by
    rw [(toInt_lenEnc _).1 (by omega), hnat]
  obtain ⟨s, p2, h2, hs, hat2⟩ := readBytesCopy_at hat1 hsize
  refine ⟨p2, ?_, hat2⟩
  rw [readAuthResponse, if_pos hflag, run_bind_of_ok (orFail_of_ok h1)]
  dsimp only
  rw [run_bind_of_ok (orFail_of_ok h2), hs]
  rfl

theorem readDbName_at {clientFlags : UInt32} {sc : Conn} {dbName : List UInt8}
    (hflag : clientFlags &&& capabilityClientConnectWithDB ≠ 0) (hz : 0 ∉ dbName)
    (h : At data pos (writeNullString dbName ++ rest)) :
    ∃ p, (readDbName clientFlags sc data pos).run = .ok (.ok ({ sc with schemaName := dbName }, p)) ∧
      At data p rest := by
  obtain ⟨p, hp, hat⟩ := readNullString_at hz h
  refine ⟨p, ?_, hat⟩
  rw [readDbName, if_pos hflag, run_bind_of_ok (orFail_of_ok hp)]
  rfl

theorem readDbName_of_not_flag {clientFlags : UInt32} {sc : Conn}
    (hflag : ¬clientFlags &&& capabilityClientConnectWithDB ≠ 0) :
    (readDbName clientFlags sc data pos).run = .ok (.ok (sc, pos)) := by
  rw [readDbName, if_neg hflag]
  rfl

theorem readAuthMethod_at {clientFlags : UInt32} {name : List UInt8}
    (hflag : clientFlags &&& capabilityClientPluginAuth ≠ 0) (hz : 0 ∉ name)
    (h : At data pos (writeNullString name ++ rest)) :
    ∃ p, (readAuthMethod clientFlags data pos).run =
      .ok (.ok (if name ≠ [] then name else mysqlNativePassword, p)) ∧ At data p rest := by
  obtain ⟨p, hp, hat⟩ := readNullString_at hz h
  refine ⟨p, ?_, hat⟩
  rw [readAuthMethod, if_pos hflag, run_bind_of_ok (orFail_of_ok hp)]
  rfl

end ServerReads

/-- **The server reads back the response.** From the bytes `writeHandshakeResponse41` sends,
`parseClientHandshakePacket` returns the user name, the auth plugin the client named (or
`mysql_native_password` for an empty name) and the scrambled password, and sets the character
set, the database name exactly when the client sent one, and the capabilities: on a first read
the two negotiated flags it keeps of the client's, and `CLIENT_MULTI_STATEMENTS` in any case.
The strings must have no zero byte, and the password's length must read back: length-encoded,
or a single byte below 251. -/
theorem parseClientHandshakePacket_handshakeResponse41Packet (tlsConfigured firstTime : Bool)
    (sc : Conn) (c : ClientConn) (capabilities : UInt32) (scrambledPassword : List UInt8)
    (characterSet : UInt8) (params : ConnParams) {data : Slice UInt8}
    (huname : 0 ∉ params.uname) (hplugin : 0 ∉ c.authPluginName)
    (hdb : sendsDbName capabilities params = true → 0 ∉ params.dbName)
    (hlen : capabilities &&& capabilityClientPluginAuthLenencClientData ≠ 0 ∨
      scrambledPassword.length < 251)
    (hdata : data.toList = handshakeResponse41Packet (responseFlags c capabilities params)
      characterSet params.uname (capabilities &&& capabilityClientPluginAuthLenencClientData ≠ 0)
      scrambledPassword (sendsDbName capabilities params) params.dbName c.authPluginName) :
    (parseClientHandshakePacket tlsConfigured firstTime sc data).run = .ok (.ok
      ({ sc with
          capabilities := (if firstTime then c.capabilities &&& capabilityClientDeprecateEOF |||
              capabilityClientFoundRows &&& params.flags.toUInt32 else sc.capabilities) |||
            capabilityClientMultiStatements
          characterSet := characterSet
          schemaName := if sendsDbName capabilities params then params.dbName else sc.schemaName },
        params.uname, (if c.authPluginName ≠ [] then c.authPluginName else mysqlNativePassword),
        scrambledPassword)) := by
  set flags := responseFlags c capabilities params with hflags
  rw [handshakeResponse41Packet_eq, authResponseLength_eq (by simpa using hlen)] at hdata
  -- the fields one after the other, each read where the one before ended
  obtain ⟨p1, h1, hat1⟩ := readUint32_at (At.start hdata)
  obtain ⟨p2, h2, hat2⟩ := readUint32_at hat1
  obtain ⟨p3, h3, hat3⟩ := readByte_at hat2
  have hat4 : At data (p3 + 23) _ := hat3.skip
  obtain ⟨p5, h5, hat5⟩ := readNullString_at huname hat4
  obtain ⟨p6, h6, hat6⟩ :=
    readAuthResponse_at (responseFlags_ne_zero c capabilities params (by decide)) hat5
  have hssl : ¬(firstTime && tlsConfigured && flags &&& capabilityClientSSL > 0) = true := by
    have hzero : flags &&& capabilityClientSSL = 0 :=
      responseFlags_eq_zero c capabilities params (by decide) (by decide) (by decide) (by decide)
        (fun _ => by decide)
    simp [hzero]
  have hmulti : flags &&& capabilityClientMultiStatements > 0 := by
    have := responseFlags_ne_zero c capabilities params
      (m := capabilityClientMultiStatements) (by decide)
    exact UInt32.pos_iff_ne_zero.mpr this
  rw [parseClientHandshakePacket, run_bind_of_ok (orFail_of_ok h1)]
  dsimp only
  rw [if_neg (responseFlags_ne_zero c capabilities params (by decide)), if_pos hmulti,
    run_bind_of_ok (orFail_of_ok h2)]
  dsimp only
  rw [run_bind_of_ok (orFail_of_ok h3)]
  dsimp only
  rw [if_neg hssl, run_bind_of_ok (orFail_of_ok h5), run_bind_of_ok h6]
  dsimp only
  have hattr : ¬flags &&& capabilityClientConnAttr ≠ 0 :=
    not_not.mpr (responseFlags_eq_zero c capabilities params (by decide) (by decide) (by decide)
      (by decide) (fun _ => by decide))
  have hkept := responseFlags_kept c capabilities params
  rw [← hflags] at hkept
  -- the database name is there exactly when the client sent it
  rcases Bool.eq_false_or_eq_true (sendsDbName capabilities params) with hsend | hsend
  · rw [if_pos hsend] at hat6
    obtain ⟨p7, h7, hat7⟩ := readDbName_at ((responseFlags_connectWithDB c capabilities params).mpr
      hsend) (hdb hsend) hat6
    obtain ⟨p8, h8, -⟩ := readAuthMethod_at (responseFlags_ne_zero c capabilities params
      (by decide)) hplugin (by rw [List.append_nil]; exact hat7)
    rw [run_bind_of_ok h7, run_bind_of_ok h8]
    dsimp only
    rw [if_neg hattr, if_pos hsend]
    cases firstTime <;> simp [hkept]
  · have hsend' : ¬sendsDbName capabilities params = true := by simp [hsend]
    rw [if_neg hsend', List.nil_append] at hat6
    have hnot : ¬flags &&& capabilityClientConnectWithDB ≠ 0 := fun h =>
      hsend' ((responseFlags_connectWithDB c capabilities params).mp h)
    obtain ⟨p8, h8, -⟩ := readAuthMethod_at (responseFlags_ne_zero c capabilities params
      (by decide)) hplugin (by rw [List.append_nil]; exact hat6)
    rw [run_bind_of_ok (readDbName_of_not_flag hnot), run_bind_of_ok h8]
    dsimp only
    rw [if_neg hattr, if_neg hsend']
    cases firstTime <;> simp [hkept]

end Wescale.Mysql
