import ClockSync.Client.Session
import ClockSync.Proofs.Addresses
import ClockSync.Proofs.Reflector.Requests

/-!
# Endpoints there and back

The address of an endpoint is written in the normal form and read by the strict
reader, and a host is looked up by the lenient one. The normal form is read by
both, so an endpoint that is made of a socket address names that socket address
(`Endpoint.toSocketAddress?_ofSocketAddress`), and the look-up of its address
finds it again (`Name.lookup_dotted`).

Endpoints are made in two places only, where a host is resolved
(`Name.resolve_eq_ok_iff`) and where a datagram is received. So an address in
another form, which is what makes a socket refuse an endpoint, comes from
neither of them (`DatagramSocket.connect_ofSocketAddress`,
`DatagramSocket.sendTo_ofSocketAddress`).
-/

namespace ClockSync.Net

/-! ## Resolving -/

namespace Name

/-- The normal form of an address is looked up as that address. -/
theorem lookup_dotted (ip : IPv4) : lookup ip.dotted = .ok ip := by
  rw [lookup, IPv4.beforeZero_dotted, IPv4.ofNumeric?_dotted]

variable {host : String} {port : UInt16} {answer : Answer}

theorem resolve_eq_ok_iff {endpoint : Endpoint} :
    resolve host port answer = .ok endpoint ↔
      ∃ ip, answer = .ok (some ip) ∧
        endpoint = .ofSocketAddress ⟨ip, port⟩ := by
  rcases answer with code | _ | ip <;> simp [resolve, eq_comm]

/-- What the error of a resolution names besides the host, if there is an
error. -/
def reason? : Answer → Option String
  | .error code => some code.text
  | .ok none => some "no address"
  | .ok (some _) => none

/-- The error of a resolution names the host as it was given. -/
theorem message_of_resolve_eq_error {unresolved : Unresolved}
    (h : resolve host port answer = .error unresolved) :
    ∃ reason, reason? answer = some reason ∧
      unresolved.message =
        "failed to resolve host \"" ++ host ++ "\": " ++ reason := by
  rcases answer with code | _ | ip
  · cases h
    exact ⟨_, rfl, rfl⟩
  · cases h
    exact ⟨_, rfl, rfl⟩
  · cases h

/-- An endpoint that was resolved is resolved to itself. -/
theorem resolve_ofSocketAddress (a : SocketAddress) :
    resolve (Endpoint.ofSocketAddress a).address
      (Endpoint.ofSocketAddress a).port
      ((lookup (Endpoint.ofSocketAddress a).address).map some) =
        .ok (.ofSocketAddress a) := by
  rw [show (Endpoint.ofSocketAddress a).address = a.ip.dotted from rfl,
    lookup_dotted]
  rfl

/-- What a resolution that goes well leaves behind. -/
theorem resolveInto_eq_true_iff {out endpoint : Endpoint}
    {wording wording' : Option String} :
    resolveInto out wording host port answer = (true, endpoint, wording') ↔
      resolve host port answer = .ok endpoint ∧ wording' = wording := by
  rw [resolveInto]
  cases resolve host port answer <;> simp [eq_comm]

/-- What a resolution that fails leaves behind. -/
theorem resolveInto_eq_false_iff {out endpoint : Endpoint}
    {wording wording' : Option String} :
    resolveInto out wording host port answer = (false, endpoint, wording') ↔
      endpoint = out ∧
      ∃ unresolved, resolve host port answer = .error unresolved ∧
        wording' = wording.map fun _ => unresolved.message := by
  rw [resolveInto]
  cases resolve host port answer <;> simp [eq_comm]

end Name

/-- An endpoint names a socket address: its address is the normal form, it is
read as the socket address, and it is what the look-up of its own address
resolves to. -/
structure Endpoint.Names (endpoint : Endpoint) (a : SocketAddress) : Prop where
  address : endpoint.address = a.ip.dotted
  port : endpoint.port = a.port
  toSocketAddress? : endpoint.toSocketAddress? = some a
  resolveInto (out : Endpoint) (wording : Option String) :
    Name.resolveInto out wording endpoint.address endpoint.port
      ((Name.lookup endpoint.address).map some) = (true, endpoint, wording)

theorem Endpoint.Names.ofSocketAddress (a : SocketAddress) :
    (Endpoint.ofSocketAddress a).Names a where
  address := rfl
  port := rfl
  toSocketAddress? := toSocketAddress?_ofSocketAddress a
  resolveInto _ _ :=
    Name.resolveInto_eq_true_iff.mpr ⟨Name.resolve_ofSocketAddress a, rfl⟩

/-! ## Sockets -/

namespace DatagramSocket

theorem fst_settle {α : Type} (s : DatagramSocket) (sys : System)
    (result : Except SocketError α) :
    (s.settle sys result).1 = result := by
  cases result <;> rfl

variable (s : DatagramSocket) (sys : System)

/-- A socket is connected to the socket address that an endpoint was made of. -/
theorem connect_ofSocketAddress {h : Handle} (hopen : s.handle = some h)
    (a : SocketAddress) :
    s.connect sys (.ofSocketAddress a) =
      s.settle (sys.connect h a).2 ((sys.connect h a).1.mapError .connect) := by
  rw [connect, hopen, Endpoint.toSocketAddress?_ofSocketAddress]

/-- A datagram is sent to the socket address that an endpoint was made of. -/
theorem sendTo_ofSocketAddress {h : Handle} (hopen : s.handle = some h)
    (a : SocketAddress) (payload : List UInt8) :
    s.sendTo sys (.ofSocketAddress a) payload =
      s.settle (sys.sendTo h a payload).2
        (checkSent payload.length (sys.sendTo h a payload).1) := by
  rw [sendTo, hopen, Endpoint.toSocketAddress?_ofSocketAddress]

theorem connect_ofSocketAddress_ne_invalidAddress (a : SocketAddress)
    (address : String) :
    (s.connect sys (.ofSocketAddress a)).1 ≠
      .error (.invalidAddress address) := by
  cases hopen : s.handle with
  | none =>
    rw [connect, hopen]
    simp [fst_settle]
  | some h =>
    rw [connect_ofSocketAddress s sys hopen, fst_settle]
    cases (sys.connect h a).1 <;> simp [Except.mapError]

end DatagramSocket

end ClockSync.Net

namespace ClockSync

open Net Wire

/-- A channel is never left unconnected for want of an address in the normal
form. -/
theorem Client.Session.attempt_ne_invalidAddress (system : System)
    (host : String) (port : UInt16) (h : Handle) (address : String) :
    (attempt system host port).1 ≠
      .notConnected h (.invalidAddress address) := by
  rw [attempt]
  generalize system.lookup host = looked
  obtain ⟨answer, system₁⟩ := looked
  dsimp only
  split
  · simp
  · next remote hresolve =>
    obtain ⟨ip, -, rfl⟩ := Name.resolve_eq_ok_iff.mp hresolve
    generalize ({} : DatagramSocket).create system₁ = created
    obtain ⟨_ | _, socket, system₂⟩ := created
    · simp
    · have hconnect := socket.connect_ofSocketAddress_ne_invalidAddress
        system₂ ⟨ip, port⟩ address
      dsimp only
      generalize socket.connect system₂ (.ofSocketAddress ⟨ip, port⟩) =
        connected at hconnect ⊢
      obtain ⟨e | _, _, system₃⟩ := connected
      · rintro ⟨⟩
        exact hconnect rfl
      · generalize hpaired : system₃.pair = paired
        obtain ⟨_ | _, _⟩ := paired <;> simp [hpaired]

/-- A reply goes to the endpoint of the sender of what is answered. -/
theorem Reflector.receiver_of_reply {r : Reflector} {clock : Readings}
    {d : Datagram} {send : Endpoint → Bytes → Except SocketError Unit}
    {receiver : Endpoint} {reply : Bytes}
    (h : (r.handle clock (.ok d) send).reply = some (receiver, reply)) :
    receiver = .ofSocketAddress d.sender := by
  rw [handle_eq] at h
  dsimp only at h
  split at h
  · exact (Prod.mk.inj (Option.some.inj h)).1.symm
  · cases h

open Net.Name in
/-- Endpoints that were resolved or received go there and back:

- an endpoint names a socket address if its address is the normal form of that,
  and only then,
- a resolution that goes well gives an endpoint that names the address which was
  found, at the port that was asked for, and a socket connects to just that,
- one that fails leaves the endpoint as it was, and its error names the host as
  it was given,
- so a channel to a host is never refused for want of an address in the normal
  form, and
- the reply to a datagram names the sender of the datagram, and is sent to just
  that. -/
theorem endpoints_round_trip (host : String) (port : UInt16) (answer : Answer)
    (out : Endpoint) (wording : Option String) :
    (∀ (e : Endpoint) (a : SocketAddress), e.toSocketAddress? = some a ↔
      Text.beforeZero e.address = a.ip.dotted ∧ e.port = a.port) ∧
    (∀ endpoint wording',
      resolveInto out wording host port answer = (true, endpoint, wording') →
      ∃ ip, answer = .ok (some ip) ∧ wording' = wording ∧
        endpoint.Names ⟨ip, port⟩ ∧
        ∀ (s : DatagramSocket) (sys : System),
          (∀ address, (s.connect sys endpoint).1 ≠
            .error (.invalidAddress address)) ∧
          ∀ h, s.handle = some h → s.connect sys endpoint =
            s.settle (sys.connect h ⟨ip, port⟩).2
              ((sys.connect h ⟨ip, port⟩).1.mapError .connect)) ∧
    (∀ endpoint wording',
      resolveInto out wording host port answer = (false, endpoint, wording') →
      endpoint = out ∧ ∃ reason, reason? answer = some reason ∧ wording' =
        wording.map fun _ => "failed to resolve host \"" ++
          host ++ "\": " ++ reason) ∧
    (∀ system h address, (Client.Session.attempt system host port).1 ≠
      .notConnected h (.invalidAddress address)) ∧
    ∀ (r : Reflector) (clock : Readings) (d : Datagram)
      (send : Endpoint → Bytes → Except SocketError Unit)
      (receiver : Endpoint) (reply : Bytes),
      (r.handle clock (.ok d) send).reply = some (receiver, reply) →
        receiver.Names d.sender ∧
        ∀ (s : DatagramSocket) (sys : System) (h : Handle), s.handle = some h →
          s.sendTo sys receiver reply = s.settle (sys.sendTo h d.sender reply).2
            (checkSent reply.length (sys.sendTo h d.sender reply).1) := by
  refine ⟨fun e a => Endpoint.toSocketAddress?_eq_some_iff,
    ?_, ?_, fun system h address => ?_, ?_⟩
  · intro endpoint wording' hresolved
    obtain ⟨hresolve, hwording⟩ := resolveInto_eq_true_iff.mp hresolved
    obtain ⟨ip, hanswer, rfl⟩ := resolve_eq_ok_iff.mp hresolve
    refine ⟨ip, hanswer, hwording, .ofSocketAddress _,
      fun s sys => ⟨fun address => ?_, ?_⟩⟩
    · exact s.connect_ofSocketAddress_ne_invalidAddress sys _ address
    · intro h hopen
      exact s.connect_ofSocketAddress sys hopen _
  · intro endpoint wording' hfailed
    obtain ⟨hout, unresolved, hresolve, hwording⟩ :=
      resolveInto_eq_false_iff.mp hfailed
    obtain ⟨reason, hreason, hmessage⟩ := message_of_resolve_eq_error hresolve
    exact ⟨hout, reason, hreason, by rw [hwording, hmessage]⟩
  · exact Client.Session.attempt_ne_invalidAddress system host port h address
  · intro r clock d send receiver reply hreply
    obtain rfl := Reflector.receiver_of_reply hreply
    refine ⟨.ofSocketAddress _, fun s sys h hopen => ?_⟩
    exact s.sendTo_ofSocketAddress sys hopen d.sender reply

/-- A host in hexadecimal and of two parts is resolved to the normal form of its
address. -/
theorem endpoints_round_trip_of_hexadecimal :
    Name.lookup "0x7f.1" = .ok .loopback ∧
      (⟨"127.0.0.1", 319⟩ : Endpoint).Names ⟨.loopback, 319⟩ ∧
      Name.resolveInto {} (some "") "0x7f.1." 319
        ((Name.lookup "0x7f.1.").map some) =
        (false, {}, some
          "failed to resolve host \"0x7f.1.\": Name or service not known") := by
  have hlookup : Name.lookup "0x7f.1" = .ok .loopback := by decide +kernel
  refine ⟨hlookup, ?_, by decide +kernel⟩
  obtain ⟨ip, hip, -, hnames, -⟩ := (endpoints_round_trip "0x7f.1" 319
    ((Name.lookup "0x7f.1").map some) {} none).2.1 ⟨"127.0.0.1", 319⟩ none
      (by decide +kernel)
  rw [hlookup] at hip
  cases hip
  exact hnames

end ClockSync
