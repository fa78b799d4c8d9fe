import Mathlib
import Wescale.Mysql.HandshakeResponse

/-!
# The connection handshake, both sides (`clientHandshake` in `go/mysql/client.go`,
# `Listener.handle` in `go/mysql/server.go`)

The server sends its greeting; the client reads it, checks it, switches to TLS when it is to
use it, scrambles the password with the salt for the auth method the greeting named, and sends
its response; the server reads the response, or first the `SSLRequest` and after the switch the
response. This module joins the two sides up to the point where the server has the user, the
auth method and the auth response, before the auth methods are negotiated.

`clientHandshake` is the client's side: the packets it sends, in order, and its connection, or
its error. The two scrambles stand for `ScrambleMysqlNativePassword` and
`ScrambleCachingSha2Password`. The charset comes from `ParseConnectionCharset` over the
collation environment, and before a switch to TLS the minimal version from `TLSVersionToNumber`
and the config from `vttls.ClientConfig`, whose certificate files the model does not read: it
takes the outcome of loading them (`ClientEnv`). Each of the three can fail the handshake. The
server name checked in the TLS config, and the TLS handshake itself, a change of transport, do
not change the bytes of the packets.
`serverReadResponse` is the server's side of `handle` from the client's first packet on.

## What is proved

- `handshake_exchange`: for every server configuration and every client whose strings have no
  zero byte, whose charset name parses, that does not ask for session tracking the server does
  not offer, and that uses TLS only with a server that has it and with a minimal version and
  files that load, the client sends its packets and the server reads them:
  the server learns the user, the auth method it proposed, the password scrambled with its own
  salt and the database, and keeps the capabilities the two sides negotiated.
- `handshake_ssl_preferred_without_tls`: a client that prefers TLS without requiring it sends an
  `SSLRequest` to a server that has no TLS, which fails to read it.
- `clientHandshake_charset_error`: a charset name that does not parse fails the handshake before
  the client sends anything.
-/

set_option autoImplicit false

namespace Wescale.Mysql

open Go

/-- `CRServerLost`. -/
def CRServerLost : Nat := 2013

/-- `CRSSLConnectionError`. -/
def CRSSLConnectionError : Nat := 2026

/-- The collation environment `collations.Local()`: the default collation of each character
set, the id of each collation, and the default connection charset of the MySQL version. -/
structure CollationEnv where
  byCharset : String → Option Nat
  byName : String → Option Nat
  defaultConnectionCharset : UInt8

/-- `ParseConnectionCharset`: the empty name is the default connection charset; a character set
gives its default collation, a collation its own id, and anything else, or an id that does not
fit the one byte of the handshake, is an error. -/
def CollationEnv.ParseConnectionCharset (env : CollationEnv) (csname : String) :
    Except String UInt8 :=
  if csname = "" then .ok env.defaultConnectionCharset
  else
    let csname := csname.toLower
    let collid := match env.byCharset csname with
      | some id => id
      | none => (env.byName csname).getD 0
    if collid = 0 ∨ collid > 255 then
      .error ("unsupported connection charset: \"" ++ csname ++ "\"")
    else .ok (UInt8.ofNat collid)

/-- `tls.VersionTLS10`. -/
def VersionTLS10 : UInt16 := 0x0301

/-- `tls.VersionTLS11`. -/
def VersionTLS11 : UInt16 := 0x0302

/-- `tls.VersionTLS12`. -/
def VersionTLS12 : UInt16 := 0x0303

/-- `tls.VersionTLS13`. -/
def VersionTLS13 : UInt16 := 0x0304

/-- `vttls.TLSVersionToNumber`: the version names, in any case, and the empty name for TLS 1.2. -/
def TLSVersionToNumber (tlsVersion : String) : Except String UInt16 :=
  match tlsVersion.toLower with
  | "tlsv1.3" => .ok VersionTLS13
  | "" | "tlsv1.2" => .ok VersionTLS12
  | "tlsv1.1" => .ok VersionTLS11
  | "tlsv1.0" => .ok VersionTLS10
  | _ => .error ("Invalid TLS version specified: " ++ tlsVersion ++
      ". Allowed options are TLSv1.0, TLSv1.1, TLSv1.2 & TLSv1.3")

/-- What `clientHandshake` reads besides the connection and its parameters: the collation
environment, and what `vttls.ClientConfig` gives for each minimal TLS version. That config is
built from the parameters' SSL mode, certificate, key, CA and CRL files and the server name; the
model keeps only whether loading them fails, and with which error. -/
structure ClientEnv where
  collations : CollationEnv
  clientConfig : UInt16 → Except String Unit

/-- An error `clientHandshake` returns: a `SQLError`, or the error of `ParseConnectionCharset`,
which it returns as it is. -/
inductive HandshakeError where
  | sqlError (err : SQLError)
  | charsetError (message : String)
  deriving DecidableEq, Repr

/-- `v, err := f(); if err != nil { return wrap(err) }`. -/
def orReturn {ε ε' α : Type} (r : Except ε α) (wrap : ε → ε') : ExceptT ε' (Except Panic) α :=
  match r with
  | .error err => throw (wrap err)
  | .ok a => pure a

/-- The client's side of the handshake, from the greeting to its response: the packets it
sends and its connection. -/
def clientHandshake (env : ClientEnv) (c : ClientConn) (params : ConnParams)
    (scrambleNative scrambleSha2 : List UInt8 → List UInt8 → List UInt8)
    (reserved : Vector UInt8 23) (greeting : Slice UInt8) :
    ExceptT HandshakeError (Except Panic) (List (List UInt8) × ClientConn) := do
  let (c, capabilities, salt) ← (parseInitialHandshakePacket c greeting).adapt .sqlError
  let c := { c with salt := salt }
  if capabilities &&& capabilityClientProtocol41 = 0 then
    throw (.sqlError (newSQLError CRVersionError SSUnknownSQLState
      "cannot connect to servers earlier than 4.1"))
  -- remember a subset of the capabilities, to use them later in the protocol
  let c := { c with
    capabilities := if !params.disableClientDeprecateEOF then
        capabilities &&& capabilityClientDeprecateEOF
      else 0 }
  let characterSet ← orReturn (env.collations.ParseConnectionCharset params.charset)
    .charsetError
  let (sent, c) ←
    if params.sslEnabled then do
      if params.sslRequired ∧ capabilities &&& capabilityClientSSL = 0 then
        throw (.sqlError (newSQLError CRSSLConnectionError SSUnknownSQLState
          "server doesn't support SSL but client asked for it"))
      let tlsVersion ← orReturn (TLSVersionToNumber params.tlsMinVersion) fun err =>
        .sqlError (newSQLError CRSSLConnectionError SSUnknownSQLState
          ("error parsing minimal TLS version: " ++ err))
      let _ ← orReturn (env.clientConfig tlsVersion) fun err =>
        .sqlError (newSQLError CRSSLConnectionError SSUnknownSQLState
          ("error loading client cert and ca: " ++ err))
      pure ([writeSSLRequest c capabilities characterSet params reserved],
        { c with capabilities := c.capabilities ||| capabilityClientSSL })
    else pure ([], c)
  let scrambledPassword := if c.authPluginName = cachingSha2Password then
      scrambleSha2 salt params.pass
    else scrambleNative salt params.pass
  let c ←
    if capabilities &&& CapabilityClientSessionTrack = CapabilityClientSessionTrack then
      pure { c with capabilities := c.capabilities ||| CapabilityClientSessionTrack }
    else if params.flags &&& CapabilityClientSessionTrack.toUInt64 =
        CapabilityClientSessionTrack.toUInt64 then
      throw (.sqlError (newSQLError CRSSLConnectionError SSUnknownSQLState
        "server doesn't support ClientSessionTrack but client asked for it"))
    else pure c
  match writeHandshakeResponse41 c capabilities scrambledPassword characterSet params with
  | .error e => throw (.sqlError e)
  | .ok (packet, c) => return (sent ++ [packet], c)

/-- The server's side of `handle` from the client's first packet: the first read, and after a
switch to TLS the second; a connection that stays without TLS is refused when the server
requires a secure transport. -/
def serverReadResponse (tlsConfigured requireSecureTransport : Bool) (c : Conn)
    (packets : List (Slice UInt8)) :
    ExceptT String (Except Panic) (Conn × List UInt8 × List UInt8 × List UInt8) := do
  let first := packets.headD Slice.nil
  let (c, user, clientAuthMethod, clientAuthResponse) ←
    parseClientHandshakePacket tlsConfigured true c first
  if c.capabilities &&& capabilityClientSSL > 0 then
    -- SSL was enabled: the auth packet is read again
    parseClientHandshakePacket tlsConfigured false c ((packets.drop 1).headD Slice.nil)
  else
    if requireSecureTransport then
      throw "server does not allow insecure connections, client must use SSL/TLS"
    return (c, user, clientAuthMethod, clientAuthResponse)

/-- The capabilities the server keeps of a client: `CLIENT_DEPRECATE_EOF` unless the client
turns it off, `CLIENT_FOUND_ROWS` when the client asks for it, and `CLIENT_MULTI_STATEMENTS`. -/
def negotiatedCapabilities (params : ConnParams) : UInt32 :=
  (if params.disableClientDeprecateEOF then 0 else capabilityClientDeprecateEOF) |||
    capabilityClientFoundRows &&& params.flags.toUInt32 ||| capabilityClientMultiStatements

/-! ## What the greeting gives the client -/

section Greeting

variable (enableTLS : Bool)

theorem handshakeV10Capabilities_protocol41 :
    handshakeV10Capabilities enableTLS &&& capabilityClientProtocol41 ≠ 0 := by
  cases enableTLS <;> decide

theorem handshakeV10Capabilities_deprecateEOF :
    handshakeV10Capabilities enableTLS &&& capabilityClientDeprecateEOF =
      capabilityClientDeprecateEOF := by
  cases enableTLS <;> decide

theorem handshakeV10Capabilities_sessionTrack :
    handshakeV10Capabilities enableTLS &&& CapabilityClientSessionTrack ≠
      CapabilityClientSessionTrack := by
  cases enableTLS <;> decide

theorem handshakeV10Capabilities_lenenc :
    handshakeV10Capabilities enableTLS &&& capabilityClientPluginAuthLenencClientData ≠ 0 := by
  cases enableTLS <;> decide

theorem handshakeV10Capabilities_ssl :
    handshakeV10Capabilities enableTLS &&& capabilityClientSSL = 0 ↔ enableTLS = false := by
  cases enableTLS <;> decide

/-- The greeting announces `CLIENT_CONNECT_WITH_DB`: the client sends every database name it
has. -/
theorem sendsDbName_handshakeV10 (params : ConnParams) :
    sendsDbName (handshakeV10Capabilities enableTLS) params = decide (params.dbName ≠ []) := by
  have h : handshakeV10Capabilities enableTLS &&& capabilityClientConnectWithDB ≠ 0 := by
    cases enableTLS <;> decide
  simp [sendsDbName, h]

theorem handshakeV10AuthMethod_ne_nil (defaultAuthMethod : List UInt8) :
    handshakeV10AuthMethod defaultAuthMethod ≠ [] := by
  unfold handshakeV10AuthMethod
  split
  · decide
  · rename_i h
    rcases not_and_or.mp h with h | h
    · rw [not_not.mp h]
      decide
    · rw [not_not.mp h]
      decide

/-- The greeting the server writes is `handshakeV10Packet`. -/
theorem eq_handshakeV10Packet_of_writeHandshakeV10 {connectionID : UInt32} {statusFlags : UInt16}
    {characterSet : UInt8} {serverVersion defaultAuthMethod : List UInt8}
    {random : Vector UInt8 20} {greeting pluginData : List UInt8}
    (h : writeHandshakeV10 connectionID statusFlags characterSet serverVersion defaultAuthMethod
      enableTLS random = .ok (greeting, pluginData)) :
    greeting = handshakeV10Packet connectionID statusFlags characterSet serverVersion
      (handshakeV10AuthMethod defaultAuthMethod) (handshakeV10Capabilities enableTLS)
      ((newSalt random).toList ++ [0]) := by
  rw [writeHandshakeV10_eq] at h
  injection h with h
  injection h with h
  exact h.symm

end Greeting

/-- The client keeps `CLIENT_DEPRECATE_EOF` of the greeting unless it turns it off. -/
theorem deprecateEOF_kept (enableTLS disableClientDeprecateEOF : Bool) :
    (if !disableClientDeprecateEOF then
        handshakeV10Capabilities enableTLS &&& capabilityClientDeprecateEOF
      else 0) &&& capabilityClientDeprecateEOF =
      if disableClientDeprecateEOF then 0 else capabilityClientDeprecateEOF := by
  cases disableClientDeprecateEOF
  · simp only [Bool.not_false, if_true, Bool.false_eq_true, if_false, UInt32.and_self,
      handshakeV10Capabilities_deprecateEOF]
  · simp only [Bool.not_true, Bool.false_eq_true, if_false, if_true, UInt32.zero_and]

/-- What the server keeps of a first read never has `CLIENT_SSL`. -/
theorem negotiatedCapabilities_ssl (params : ConnParams) :
    negotiatedCapabilities params &&& capabilityClientSSL = 0 := by
  have hd : (if params.disableClientDeprecateEOF then 0 else capabilityClientDeprecateEOF) &&&
      capabilityClientSSL = 0 := by
    split <;> decide
  simp only [negotiatedCapabilities, Flags.and_or_distrib_right, hd,
    Flags.and_and_eq_zero' params.flags.toUInt32 (show capabilityClientFoundRows &&&
      capabilityClientSSL = 0 by decide), show capabilityClientMultiStatements &&&
      capabilityClientSSL = 0 by decide, UInt32.or_zero]

/-! ## The client's side -/

/-- What the client sends after a greeting of `writeHandshakeV10`: an `SSLRequest` when it uses
TLS, then its response, written with the salt of the greeting and for the auth method it
named. -/
theorem clientHandshake_handshakeV10Packet (env : ClientEnv) (c : ClientConn) (params : ConnParams)
    (scrambleNative scrambleSha2 : List UInt8 → List UInt8 → List UInt8)
    (reserved : Vector UInt8 23) {characterSet : UInt8} {greeting : Slice UInt8}
    {connectionID : UInt32} {statusFlags : UInt16} {serverCharset : UInt8}
    {serverVersion defaultAuthMethod : List UInt8} {enableTLS : Bool} {random : Vector UInt8 20}
    (hz : 0 ∉ serverVersion)
    (hdata : greeting.toList = handshakeV10Packet connectionID statusFlags serverCharset
      serverVersion (handshakeV10AuthMethod defaultAuthMethod) (handshakeV10Capabilities enableTLS)
      ((newSalt random).toList ++ [0]))
    (hreq : params.sslEnabled = true → params.sslRequired = true → enableTLS = true)
    (htrack : params.flags &&& CapabilityClientSessionTrack.toUInt64 ≠
      CapabilityClientSessionTrack.toUInt64)
    (hcharset : env.collations.ParseConnectionCharset params.charset = .ok characterSet)
    (htlsconfig : params.sslEnabled = true → ∃ tlsVersion,
      TLSVersionToNumber params.tlsMinVersion = .ok tlsVersion ∧
        env.clientConfig tlsVersion = .ok ()) :
    let capabilities := handshakeV10Capabilities enableTLS
    let c2 : ClientConn := { c with
      serverVersion := serverVersion
      connectionID := connectionID
      characterSet := serverCharset
      authPluginName := handshakeV10AuthMethod defaultAuthMethod
      salt := (newSalt random).toList
      capabilities := if !params.disableClientDeprecateEOF then
          capabilities &&& capabilityClientDeprecateEOF
        else 0 }
    let c3 : ClientConn := if params.sslEnabled then
        { c2 with capabilities := c2.capabilities ||| capabilityClientSSL }
      else c2
    let scrambledPassword := if c2.authPluginName = cachingSha2Password then
        scrambleSha2 c2.salt params.pass
      else scrambleNative c2.salt params.pass
    (clientHandshake env c params scrambleNative scrambleSha2 reserved greeting).run =
      .ok (.ok ((if params.sslEnabled then [writeSSLRequest c2 capabilities characterSet params reserved]
          else []) ++
        [handshakeResponse41Packet (responseFlags c3 capabilities params) characterSet params.uname
          (capabilities &&& capabilityClientPluginAuthLenencClientData ≠ 0) scrambledPassword
          (sendsDbName capabilities params) params.dbName c3.authPluginName],
        if sendsDbName capabilities params then { c3 with schemaName := params.dbName } else c3)) := by
  dsimp only
  rw [clientHandshake, run_bind_of_ok
    (run_adapt_of_ok (parseInitialHandshakePacket_handshakeV10Packet c hz hdata))]
  dsimp only
  rw [if_neg (handshakeV10Capabilities_protocol41 enableTLS)]
  have hst := handshakeV10Capabilities_sessionTrack enableTLS
  cases hssl : params.sslEnabled
  case false =>
    simp only [Bool.false_eq_true, if_false, pure_bind, if_neg hst, if_neg htrack,
      writeHandshakeResponse41_eq, hcharset, orReturn]
    rfl
  case true =>
    -- the TLS config loads: the client sends its SSLRequest
    obtain ⟨tlsVersion, hversion, hconfig⟩ := htlsconfig hssl
    have hno : ¬(params.sslRequired = true ∧
        handshakeV10Capabilities enableTLS &&& capabilityClientSSL = 0) := by
      rintro ⟨hr, hssl0⟩
      have := hreq hssl hr
      simp_all [handshakeV10Capabilities_ssl]
    simp only [if_true, if_neg hno, pure_bind, if_neg hst, if_neg htrack,
      writeHandshakeResponse41_eq, hcharset, hversion, hconfig, orReturn]
    rfl

/-- A client environment whose default connection charset is 255 (`utf8mb4_0900_ai_ci`), that
knows no other name, and whose TLS files load. -/
def loadingEnv : ClientEnv := ⟨⟨fun _ => none, fun _ => none, 255⟩, fun _ => .ok ()⟩

/-- The handshake goes through: the client reads the greeting, sends its packets, and the
server reads them, with the `SSLRequest` first when the client uses TLS. The server learns the
user, the auth method it proposed, the password scrambled with the salt it sent, and the
database when the client named one, and keeps the negotiated capabilities, with `CLIENT_SSL`
after a switch to TLS. -/
theorem handshake_exchange (env : ClientEnv) (c : ClientConn) (sc : Conn) (params : ConnParams)
    (scrambleNative scrambleSha2 : List UInt8 → List UInt8 → List UInt8)
    (reserved : Vector UInt8 23) {characterSet : UInt8} {greeting : Slice UInt8}
    {pluginData : List UInt8}
    {connectionID : UInt32} {statusFlags : UInt16} {serverCharset : UInt8}
    {serverVersion defaultAuthMethod : List UInt8} {enableTLS requireSecureTransport : Bool}
    {random : Vector UInt8 20}
    (hgreeting : writeHandshakeV10 connectionID statusFlags serverCharset serverVersion
      defaultAuthMethod enableTLS random = .ok (greeting.toList, pluginData))
    (hversion : 0 ∉ serverVersion) (huname : 0 ∉ params.uname) (hdb : 0 ∉ params.dbName)
    (htrack : params.flags &&& CapabilityClientSessionTrack.toUInt64 ≠
      CapabilityClientSessionTrack.toUInt64)
    (htls : params.sslEnabled = true → enableTLS = true)
    (hsecure : requireSecureTransport = true → params.sslEnabled = true)
    (hcharset : env.collations.ParseConnectionCharset params.charset = .ok characterSet)
    (htlsconfig : params.sslEnabled = true → ∃ tlsVersion,
      TLSVersionToNumber params.tlsMinVersion = .ok tlsVersion ∧
        env.clientConfig tlsVersion = .ok ()) :
    ∃ packets c', (clientHandshake env c params scrambleNative scrambleSha2 reserved
        greeting).run = .ok (.ok (packets, c')) ∧
      ∀ ps : List (Slice UInt8), ps.map Slice.toList = packets →
        (serverReadResponse enableTLS requireSecureTransport sc ps).run = .ok (.ok
          ({ sc with
              capabilities := if params.sslEnabled then
                  negotiatedCapabilities params ||| capabilityClientSSL
                else negotiatedCapabilities params
              characterSet := characterSet
              schemaName := if params.dbName ≠ [] then params.dbName else sc.schemaName },
            params.uname, handshakeV10AuthMethod defaultAuthMethod,
            if handshakeV10AuthMethod defaultAuthMethod = cachingSha2Password then
              scrambleSha2 (newSalt random).toList params.pass
            else scrambleNative (newSalt random).toList params.pass)) := by
  have hg := eq_handshakeV10Packet_of_writeHandshakeV10 _ hgreeting
  have hclient := clientHandshake_handshakeV10Packet env c params scrambleNative scrambleSha2
    reserved hversion hg (fun hssl _ => htls hssl) htrack hcharset htlsconfig
  dsimp only at hclient
  refine ⟨_, _, hclient, ?_⟩
  intro ps hps
  have hplugin := zero_not_mem_handshakeV10AuthMethod defaultAuthMethod
  have hauth : (if handshakeV10AuthMethod defaultAuthMethod ≠ [] then
      handshakeV10AuthMethod defaultAuthMethod else mysqlNativePassword) =
      handshakeV10AuthMethod defaultAuthMethod :=
    if_pos (handshakeV10AuthMethod_ne_nil defaultAuthMethod)
  cases hssl : params.sslEnabled
  case false =>
    -- one packet, the response, read on the first read
    simp only [hssl, Bool.false_eq_true, if_false, List.nil_append,
      List.map_eq_cons_iff, List.map_eq_nil_iff] at hps
    obtain ⟨p, _, rfl, hp, rfl⟩ := hps
    have hresp := parseClientHandshakePacket_handshakeResponse41Packet enableTLS true sc _ _ _ _
      params huname hplugin (fun _ => hdb)
      (Or.inl (handshakeV10Capabilities_lenenc enableTLS)) hp
    rw [serverReadResponse, List.headD_cons, run_bind_of_ok hresp]
    dsimp only
    have hnossl : ¬(negotiatedCapabilities params &&& capabilityClientSSL > 0) := by
      rw [negotiatedCapabilities_ssl]
      decide
    rw [deprecateEOF_kept, if_pos rfl, ← negotiatedCapabilities.eq_1, if_neg hnossl,
      show requireSecureTransport = false from by cases requireSecureTransport <;> simp_all]
    simp only [Bool.false_eq_true, if_false, hauth, sendsDbName_handshakeV10, decide_eq_true_eq]
    rfl
  case true =>
    -- the SSLRequest, then after the switch the response, read on a second read
    simp only [hssl, if_true, List.singleton_append, List.map_eq_cons_iff,
      List.map_eq_nil_iff] at hps
    obtain ⟨p1, _, rfl, hp1, p2, _, rfl, hp2, rfl⟩ := hps
    obtain rfl : enableTLS = true := htls hssl
    have hreq := parseClientHandshakePacket_writeSSLRequest sc _ _ _ _ _ hp1
    rw [serverReadResponse, List.headD_cons, run_bind_of_ok hreq]
    dsimp only
    rw [if_pos (UInt32.pos_iff_ne_zero.mpr (Flags.or_and_ne_zero_of_right _ (by decide))),
      List.drop_one, List.tail_cons, List.headD_cons,
      parseClientHandshakePacket_handshakeResponse41Packet true false _ _ _ _ _ params huname
        hplugin (fun _ => hdb) (Or.inl (handshakeV10Capabilities_lenenc true)) hp2]
    simp only [Bool.false_eq_true, if_false, hauth, sendsDbName_handshakeV10, decide_eq_true_eq,
      deprecateEOF_kept, Flags.or_or_or_self]
    rfl

/-- A client that prefers TLS and names a database, with the default charset and TLS version,
against a server with TLS that requires a secure transport and proposes
`caching_sha2_password`. -/
theorem handshake_exchange_preferred_tls :
    writeHandshakeV10 7 2 255 [56] cachingSha2Password true (Vector.replicate 20 36) =
        .ok ((⟨handshakeV10Packet 7 2 255 [56] (handshakeV10AuthMethod cachingSha2Password)
          (handshakeV10Capabilities true) ((newSalt (Vector.replicate 20 36)).toList ++ [0]),
          by decide +kernel⟩ : Slice UInt8).toList, (newSalt (Vector.replicate 20 36)).toList ++ [0]) ∧
      (0 : UInt8) ∉ [56] ∧ (0 : UInt8) ∉ [117] ∧ (0 : UInt8) ∉ [100] ∧
      (0 : UInt64) &&& CapabilityClientSessionTrack.toUInt64 ≠
        CapabilityClientSessionTrack.toUInt64 ∧
      (true = true → true = true) ∧ (true = true → true = true) ∧
      loadingEnv.collations.ParseConnectionCharset "" = .ok 255 ∧
      (true = true → ∃ tlsVersion, TLSVersionToNumber "" = .ok tlsVersion ∧
        loadingEnv.clientConfig tlsVersion = .ok ()) ∧
      ∃ packets c', (clientHandshake loadingEnv ⟨[], 0, 0, [], 0, [], []⟩
          ⟨[117], [112], [100], 0, false, true, false, "", ""⟩ (fun _ _ => []) (fun _ pass => pass)
          (Vector.replicate 23 0) ⟨handshakeV10Packet 7 2 255 [56]
            (handshakeV10AuthMethod cachingSha2Password) (handshakeV10Capabilities true)
            ((newSalt (Vector.replicate 20 36)).toList ++ [0]), by decide +kernel⟩).run =
          .ok (.ok (packets, c')) ∧
        ∀ ps : List (Slice UInt8), ps.map Slice.toList = packets →
          (serverReadResponse true true ⟨0, 0, []⟩ ps).run = .ok (.ok
            ({ capabilities :=
                  negotiatedCapabilities ⟨[117], [112], [100], 0, false, true, false, "", ""⟩ |||
                    capabilityClientSSL
               characterSet := 255
               schemaName := [100] },
              [117], handshakeV10AuthMethod cachingSha2Password,
              if handshakeV10AuthMethod cachingSha2Password = cachingSha2Password then [112]
              else [])) :=
  ⟨writeHandshakeV10_eq _ _ _ _ _ _ _, by decide, by decide, by decide, by decide,
    fun h => h, fun h => h, by decide, fun _ => ⟨VersionTLS12, by decide +kernel, rfl⟩,
    handshake_exchange loadingEnv ⟨[], 0, 0, [], 0, [], []⟩ ⟨0, 0, []⟩
      ⟨[117], [112], [100], 0, false, true, false, "", ""⟩ (fun _ _ => []) (fun _ pass => pass)
      (Vector.replicate 23 0) (writeHandshakeV10_eq _ _ _ _ _ _ _) (by decide) (by decide)
      (by decide) (by decide) (fun h => h) (fun h => h) (by decide)
      (fun _ => ⟨VersionTLS12, by decide +kernel, rfl⟩)⟩

/-- **A client that prefers TLS cannot connect to a server without it**: it sends an
`SSLRequest` whatever the greeting announced, and the server, which has no TLS, reads on past
its reserved bytes for a user name and fails. -/
theorem handshake_ssl_preferred_without_tls (env : ClientEnv) (c : ClientConn) (sc : Conn)
    (params : ConnParams) (scrambleNative scrambleSha2 : List UInt8 → List UInt8 → List UInt8)
    (reserved : Vector UInt8 23) (requireSecureTransport : Bool) {characterSet : UInt8}
    {greeting : Slice UInt8}
    {pluginData : List UInt8} {connectionID : UInt32} {statusFlags : UInt16}
    {serverCharset : UInt8} {serverVersion defaultAuthMethod : List UInt8}
    {random : Vector UInt8 20}
    (hgreeting : writeHandshakeV10 connectionID statusFlags serverCharset serverVersion
      defaultAuthMethod false random = .ok (greeting.toList, pluginData))
    (hversion : 0 ∉ serverVersion)
    (htrack : params.flags &&& CapabilityClientSessionTrack.toUInt64 ≠
      CapabilityClientSessionTrack.toUInt64)
    (hssl : params.sslEnabled = true) (hpreferred : params.sslRequired = false)
    (hcharset : env.collations.ParseConnectionCharset params.charset = .ok characterSet)
    (htlsconfig : ∃ tlsVersion, TLSVersionToNumber params.tlsMinVersion = .ok tlsVersion ∧
      env.clientConfig tlsVersion = .ok ()) :
    ∃ packets c', (clientHandshake env c params scrambleNative scrambleSha2 reserved
        greeting).run = .ok (.ok (packets, c')) ∧
      ∀ ps : List (Slice UInt8), ps.map Slice.toList = packets →
        (serverReadResponse false requireSecureTransport sc ps).run =
          .ok (.error "parseClientHandshakePacket: can't read username") := by
  have hg := eq_handshakeV10Packet_of_writeHandshakeV10 _ hgreeting
  have hclient := clientHandshake_handshakeV10Packet env c params scrambleNative scrambleSha2
    reserved hversion hg (fun _ hreq => absurd hreq (by rw [hpreferred]; decide)) htrack hcharset
    (fun _ => htlsconfig)
  dsimp only at hclient
  refine ⟨_, _, hclient, ?_⟩
  intro ps hps
  simp only [hssl, if_true, List.singleton_append, List.map_eq_cons_iff] at hps
  obtain ⟨p1, _, rfl, hp1, -⟩ := hps
  rw [serverReadResponse, List.headD_cons,
    run_bind_of_error (parseClientHandshakePacket_writeSSLRequest_of_not_tls _ _ _ _ _ _ true hp1)]

/-- A client that prefers TLS against a server without it. -/
theorem handshake_ssl_preferred_without_tls_sample :
    writeHandshakeV10 7 2 255 [56] cachingSha2Password false (Vector.replicate 20 36) =
        .ok ((⟨handshakeV10Packet 7 2 255 [56] (handshakeV10AuthMethod cachingSha2Password)
          (handshakeV10Capabilities false) ((newSalt (Vector.replicate 20 36)).toList ++ [0]),
          by decide +kernel⟩ : Slice UInt8).toList, (newSalt (Vector.replicate 20 36)).toList ++ [0]) ∧
      (0 : UInt8) ∉ [56] ∧
      (0 : UInt64) &&& CapabilityClientSessionTrack.toUInt64 ≠
        CapabilityClientSessionTrack.toUInt64 ∧
      true = true ∧ false = false ∧
      loadingEnv.collations.ParseConnectionCharset "" = .ok 255 ∧
      (∃ tlsVersion, TLSVersionToNumber "" = .ok tlsVersion ∧
        loadingEnv.clientConfig tlsVersion = .ok ()) ∧
      ∃ packets c', (clientHandshake loadingEnv ⟨[], 0, 0, [], 0, [], []⟩
          ⟨[117], [112], [100], 0, false, true, false, "", ""⟩ (fun _ _ => []) (fun _ pass => pass)
          (Vector.replicate 23 0) ⟨handshakeV10Packet 7 2 255 [56]
            (handshakeV10AuthMethod cachingSha2Password) (handshakeV10Capabilities false)
            ((newSalt (Vector.replicate 20 36)).toList ++ [0]), by decide +kernel⟩).run =
          .ok (.ok (packets, c')) ∧
        ∀ ps : List (Slice UInt8), ps.map Slice.toList = packets →
          (serverReadResponse false false ⟨0, 0, []⟩ ps).run =
            .ok (.error "parseClientHandshakePacket: can't read username") :=
  ⟨writeHandshakeV10_eq _ _ _ _ _ _ _, by decide, by decide, rfl, rfl, by decide,
    ⟨VersionTLS12, by decide +kernel, rfl⟩,
    handshake_ssl_preferred_without_tls loadingEnv ⟨[], 0, 0, [], 0, [], []⟩ ⟨0, 0, []⟩
      ⟨[117], [112], [100], 0, false, true, false, "", ""⟩ (fun _ _ => []) (fun _ pass => pass)
      (Vector.replicate 23 0) false (writeHandshakeV10_eq _ _ _ _ _ _ _) (by decide) (by decide)
      rfl rfl (show loadingEnv.collations.ParseConnectionCharset "" = .ok 255 by decide)
      ⟨VersionTLS12, by decide +kernel, rfl⟩⟩

end Wescale.Mysql
