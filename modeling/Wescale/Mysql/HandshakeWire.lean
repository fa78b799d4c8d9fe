import Mathlib
import Wescale.Mysql.HandshakeExchange
import Wescale.Mysql.Packets

/-!
# The handshake on the wire (`clientHandshake` in `go/mysql/client.go`, `Listener.handle` in
# `go/mysql/server.go`, over `writePacket` and the readers of `go/mysql/conn.go`)

`HandshakeExchange` joins the two sides of the handshake packet by packet. Here the packets
travel as the frames of `Packets`: the server writes its greeting from sequence number 0, the
client reads it with `readPacket`, and every packet it then writes with `writeEphemeralPacket`
takes the next sequence numbers; the server reads the first packet back with
`readEphemeralPacketDirect`, which takes one frame only, and after a switch to TLS the second
with `readEphemeralPacket`. TLS changes the transport and not the bytes of the frames.

`handleHandshakeResponse` is the part of `handle` from the first read to the auth method
negotiation, with the bookkeeping of the pooled read buffer. A panic of that bookkeeping is
recovered by the deferred function of `handle`, which closes the connection as an error return
does, so both end the model's run with the message.

## What is proved

`handleHandshakeResponse_writePackets`: the wire-level server refines the packet-level one:
whenever `serverReadResponse` accepts a list of packets whose first fits in one frame, the
server reading their frames accepts with the same result.
-/

set_option autoImplicit false

namespace Wescale.Mysql

open Go

/-- The frames of packets written one after another by `writeEphemeralPacket`, from a
sequence number on, and the sequence number after them. The buffer of each holds
`packetHeaderSize` bytes before the packet, which `writePacket` overwrites. -/
def writePackets : List (List UInt8) → UInt8 → List UInt8 × UInt8
  | [], sequence => ([], sequence)
  | p :: ps, sequence =>
    let first := writePacketLoop p sequence
    let rest := writePackets ps first.2
    (first.1 ++ rest.1, rest.2)

/-- A packet read off the wire as the Go slice it is read into, which is no longer than one
allocation. -/
def toSlice (data : List UInt8) : Except Panic (Slice UInt8) :=
  if h : data.length ≤ maxAlloc then .ok ⟨data, h⟩ else .error .makeSliceLenOutOfRange

/-- `recycleReadPacket`: the pooled buffer goes back unused after a read. -/
def recycleReadPacket (policy : EphemeralPolicy) : Except String EphemeralPolicy :=
  if policy ≠ .ephemeralRead then
    .error ("trying to call recycleReadPacket while currentEphemeralPolicy is " ++
      toString policy.toNat)
  else .ok .ephemeralUnused

/-- A panic of the buffer bookkeeping, recovered by `handle`, or a failed read, both of which
end `handle`. -/
def orClose {α : Type} (r : Except String α) : ExceptT String (Except Panic) α :=
  match r with
  | .error message => throw message
  | .ok a => pure a

/-- The server's side of `handle` on the wire, from the client's first packet to the auth method
negotiation: the first read, and after a switch to TLS the second; a connection that stays
without TLS is refused when the server requires a secure transport. -/
def handleHandshakeResponse (tlsConfigured requireSecureTransport : Bool) (c : Conn)
    (sequence : UInt8) (stream : List UInt8) :
    ExceptT String (Except Panic) (Conn × List UInt8 × List UInt8 × List UInt8) := do
  -- a direct read, so that the TLS negotiation is not buffered
  let (policy, response) ← orClose (readEphemeralPacketDirect .ephemeralUnused sequence stream)
  let (response, sequence, stream) ← orClose (response.mapError ReadError.message)
  let response ← ExceptT.lift (toSlice response)
  let (c, user, clientAuthMethod, clientAuthResponse) ←
    parseClientHandshakePacket tlsConfigured true c response
  let policy ← orClose (recycleReadPacket policy)
  if c.capabilities &&& capabilityClientSSL > 0 then
    -- SSL was enabled: the auth packet is read again
    let (policy, response) ← orClose (readEphemeralPacket policy sequence stream)
    let (response, _, _) ← orClose (response.mapError ReadError.message)
    let response ← ExceptT.lift (toSlice response)
    let r ← parseClientHandshakePacket tlsConfigured false c response
    let _ ← orClose (recycleReadPacket policy)
    return r
  else
    if requireSecureTransport then
      throw "server does not allow insecure connections, client must use SSL/TLS"
    return (c, user, clientAuthMethod, clientAuthResponse)

/-- The client's side on the wire: `c.readPacket()` of the greeting, `clientHandshake` on it,
and the frames of the packets it sends, with the sequence number after them. -/
def clientHandshakeWire (env : ClientEnv) (c : ClientConn) (params : ConnParams)
    (scrambleNative scrambleSha2 : List UInt8 → List UInt8 → List UInt8)
    (reserved : Vector UInt8 23) (stream : List UInt8) :
    ExceptT HandshakeError (Except Panic) (List UInt8 × UInt8 × ClientConn) := do
  let (data, sequence, _) ← orReturn (readPacket 0 stream) fun err =>
    .sqlError (newSQLError CRServerLost "" ("initial packet read failed: " ++ err.message))
  let greeting ← ExceptT.lift (toSlice data)
  let (packets, c) ← clientHandshake env c params scrambleNative scrambleSha2 reserved greeting
  let (frames, sequence) := writePackets packets sequence
  return (frames, sequence, c)

@[simp] theorem writePackets_cons (p : List UInt8) (ps : List (List UInt8)) (sequence : UInt8) :
    writePackets (p :: ps) sequence =
      ((writePacketLoop p sequence).1 ++ (writePackets ps (writePacketLoop p sequence).2).1,
        (writePackets ps (writePacketLoop p sequence).2).2) := rfl

theorem toSlice_toList (s : Slice UInt8) : toSlice s.toList = .ok s := by
  rw [toSlice, dif_pos s.length_le]

theorem orClose_mapError_ok {ε α : Type} (f : ε → String) (a : α) :
    (orClose ((Except.ok a : Except ε α).mapError f)).run = .ok (.ok a) := rfl

theorem orClose_recycleReadPacket :
    (orClose (recycleReadPacket .ephemeralRead)).run = .ok (.ok .ephemeralUnused) := rfl

/-- No packet: the parser cannot read the client flags of an empty slice. -/
theorem parseClientHandshakePacket_nil (tlsConfigured firstTime : Bool) (c : Conn) :
    (parseClientHandshakePacket tlsConfigured firstTime c Slice.nil).run =
      .ok (.error "parseClientHandshakePacket: can't read client flags") := by
  rw [parseClientHandshakePacket, ExceptT.run_bind,
    orFail_of_fail (show readUint32 Slice.nil 0 = .ok (0, 0, false) by decide)]
  rfl

/-- **The server on the wire refines the server on packets.** Whenever the packet-level
`serverReadResponse` accepts a list of packets whose first fits in one frame, the server reading
the frames those packets are written as, from any sequence number and whatever follows them,
accepts with the same result. The induction is on the reads: the first packet is read
directly, and the second, after a switch to TLS, through the pooled buffer. -/
theorem handleHandshakeResponse_writePackets {tlsConfigured requireSecureTransport : Bool}
    {c : Conn} {ps : List (Slice UInt8)} {r : Conn × List UInt8 × List UInt8 × List UInt8}
    (h : (serverReadResponse tlsConfigured requireSecureTransport c ps).run = .ok (.ok r))
    (hfirst : (ps.headD Slice.nil).toList.length < MaxPacketSize) (sequence : UInt8)
    (rest : List UInt8) :
    (handleHandshakeResponse tlsConfigured requireSecureTransport c sequence
      ((writePackets (ps.map Slice.toList) sequence).1 ++ rest)).run = .ok (.ok r) := by
  cases ps with
  | nil =>
    -- no packet: the packet-level server fails on the client flags
    rw [serverReadResponse, List.headD_nil,
      run_bind_of_error (parseClientHandshakePacket_nil _ _ _)] at h
    cases h
  | cons p ps =>
    rw [serverReadResponse, List.headD_cons] at h
    rw [List.headD_cons] at hfirst
    obtain ⟨⟨c1, user, method, response⟩, hparse, hrest⟩ := run_bind_eq_ok h
    rw [List.map_cons, writePackets_cons, List.append_assoc, handleHandshakeResponse,
      run_bind_of_ok (by rw [readEphemeralPacketDirect_writePacketLoop_of_lt hfirst]; rfl)]
    dsimp only
    rw [run_bind_of_ok (orClose_mapError_ok _ _), run_bind_of_ok (run_lift_of_ok (toSlice_toList p)),
      run_bind_of_ok hparse, run_bind_of_ok orClose_recycleReadPacket]
    dsimp only at hrest ⊢
    by_cases hssl : c1.capabilities &&& capabilityClientSSL > 0
    · rw [if_pos hssl] at hrest ⊢
      cases ps with
      | nil =>
        -- no second packet: the packet-level server fails on it too
        rw [List.drop_one, List.tail_cons, List.headD_nil,
          parseClientHandshakePacket_nil] at hrest
        cases hrest
      | cons q ps =>
        rw [List.drop_one, List.tail_cons, List.headD_cons] at hrest
        rw [List.map_cons, writePackets_cons, List.append_assoc,
          run_bind_of_ok (by rw [readEphemeralPacket_writePacketLoop]; rfl)]
        dsimp only
        rw [run_bind_of_ok (orClose_mapError_ok _ _),
          run_bind_of_ok (run_lift_of_ok (toSlice_toList q)), run_bind_of_ok hrest]
        rfl
    · rw [if_neg hssl] at hrest ⊢
      exact hrest

/-- A response of `u` with a native password scramble and no database, without TLS. -/
def nativeResponse : Slice UInt8 :=
  ⟨handshakeResponse41Packet CapabilityFlags 255 [117] true [112] false [] mysqlNativePassword,
    by decide⟩

/-- The server without TLS reads `nativeResponse` off the wire from sequence number 1. -/
theorem handleHandshakeResponse_writePackets_native :
    (serverReadResponse false false ⟨0, 0, []⟩ [nativeResponse]).run =
        .ok (.ok (⟨capabilityClientMultiStatements, 255, []⟩, [117], mysqlNativePassword, [112])) ∧
      ([nativeResponse].headD Slice.nil).toList.length < MaxPacketSize ∧
      (handleHandshakeResponse false false ⟨0, 0, []⟩ 1
          ((writePackets ([nativeResponse].map Slice.toList) 1).1 ++ [])).run =
        .ok (.ok (⟨capabilityClientMultiStatements, 255, []⟩, [117], mysqlNativePassword, [112])) := by
  have h : (serverReadResponse false false ⟨0, 0, []⟩ [nativeResponse]).run =
      .ok (.ok (⟨capabilityClientMultiStatements, 255, []⟩, [117], mysqlNativePassword, [112])) := by
    decide +kernel
  exact ⟨h, by decide, handleHandshakeResponse_writePackets h (by decide) 1 []⟩

end Wescale.Mysql
