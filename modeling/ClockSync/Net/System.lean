import ClockSync.Net.Host
import ClockSync.Net.Name
import ClockSync.Net.Script

/-!
# System calls

A host together with a script of outcomes. Each call ends as the script says; a
call that the script says nothing about does on the host what it does.
-/

namespace ClockSync.Net

/-- A host, and the outcomes in store for calls on it. -/
structure System where
  host : Host
  script : Script := []
deriving Repr

namespace System

/-- Makes a call: scripted if the script has an outcome for it, else natural. -/
def call {α : Type} (sys : System) (kind : Call) (scripted : Scripted → α)
    (natural : Host → α × Host) : α × System :=
  match sys.script.next kind with
  | some (outcome, rest) => (scripted outcome, { sys with script := rest })
  | none =>
    let (result, host) := natural sys.host
    (result, { sys with host })

/-- A scripted outcome of a call that returns nothing of its own. -/
def done (outcome : Scripted) : Except Errno Unit :=
  outcome.value.map fun _ => ()

/-- Looks up the address of a host name. -/
def lookup (sys : System) (name : String) : Name.Answer × System :=
  sys.call .lookup
    (fun outcome =>
      let code := match outcome with
        | .fails errno => errno.code
        | .returns value _ => value
      if code = 0 then .ok none else .error ⟨code⟩)
    (fun host => ((Name.lookup name).map some, host))

/-- Opens a datagram socket. -/
def socket (sys : System) : Except Errno Handle × System :=
  sys.call .socket (·.value.map Int.toNat)
    (fun host => let (h, host) := host.socket; (.ok h, host))

/-- Gives a socket a port. -/
def bind (sys : System) (h : Handle) (port : UInt16) :
    Except Errno Unit × System :=
  sys.call .bind done (·.bind h port)

/-- Connects a socket. -/
def connect (sys : System) (h : Handle) (target : SocketAddress) :
    Except Errno Unit × System :=
  sys.call .connect done (·.connect h target)

/-- Asks for the port of a socket; zero if that fails. -/
def localPort (sys : System) (h : Handle) : UInt16 × System :=
  sys.call .localName (fun _ => 0) (fun host => (host.localPort h, host))

/-- Opens a pair to wake another thread by. A call that only says it has done so
gives no descriptors. -/
def pair (sys : System) : Except Errno (Option (Handle × Handle)) × System :=
  sys.call .pair
    (fun outcome => match outcome.value with
      | .ok 0 => .ok none
      | .ok _ => .error default
      | .error errno => .error errno)
    (fun host => let (ends, host) := host.pair; (.ok (some ends), host))

/-- Sends on a connected socket. -/
def send (sys : System) (h : Handle) (payload : List UInt8) :
    Except Errno Int × System :=
  sys.call .send Scripted.value (·.send h payload)

/-- Sends to an address. -/
def sendTo (sys : System) (h : Handle) (target : SocketAddress)
    (payload : List UInt8) :
    Except Errno Int × System :=
  sys.call .sendTo Scripted.value (·.sendTo h target payload)

/-- The first `count` bytes of a buffer of `max` bytes into which nothing was
received: what it held before, as far as there was something, and then zeros. -/
def leftOver (before : List UInt8) (max count : Nat) : List UInt8 :=
  let kept := before.take (min max count)
  kept ++ List.replicate (count - kept.length) 0

@[simp] theorem length_leftOver (before : List UInt8) (max count : Nat) :
    (leftOver before max count).length = count := by
  simp only [leftOver, List.length_append, List.length_take,
    List.length_replicate]
  omega

/-- Receives a datagram of at most `max` bytes into a buffer that held other
bytes before; `none` if the call does not return. Of those bytes something is
seen only where a call says that it has received, and has not. -/
def receive (sys : System) (h : Handle) (max : Nat) (before : List UInt8) :
    Option (Except Errno Datagram) × System :=
  sys.call .receive
    (fun outcome => some (outcome.value.map fun count =>
      { Host.nothing with payload := leftOver before max count.toNat }))
    (·.receive h max)

/-- Polls a socket for as long as it takes; `none` if the poll does not return.
The result is the count of descriptors with events and the events. -/
def poll (sys : System) (h : Handle) :
    Option (Except Errno (Int × Nat)) × System :=
  sys.call .poll
    (fun outcome =>
      some (outcome.value.map fun count => (count, outcome.events.headD 0)))
    (fun host =>
      (if host.events h = 0 then none else some (.ok (1, host.events h)), host))

/-- Polls a socket and the reading end of a pair for as long as it takes; `none`
if the poll does not return. -/
def pollBoth (sys : System) (h reader : Handle) :
    Option (Except Errno (Nat × Nat)) × System :=
  sys.call .poll
    (fun outcome => some (outcome.value.map fun _ =>
      (outcome.events.headD 0, (outcome.events.drop 1).headD 0)))
    (fun host =>
      let events := (host.events h, host.wakeEvents reader)
      (if events = (0, 0) then none else some (.ok events), host))

/-- Writes a byte into a pair. -/
def wake (sys : System) (h : Handle) : Except Errno Int × System :=
  sys.call .wake Scripted.value (·.wake h)

/-- The outcomes of a call that is repeated as long as it is interrupted, at
most `fuel` times; the list ends early if the call does not return. -/
def repeated {α : Type} (make : System → Option (Except Errno α) × System) :
    Nat → System → List (Except Errno α) × System
  | 0, sys => ([], sys)
  | fuel + 1, sys =>
    match make sys with
    | (none, sys) => ([], sys)
    | (some (.error errno), sys) =>
      if errno = .interrupted then
        let (outcomes, sys) := repeated make fuel sys
        (.error errno :: outcomes, sys)
      else ([.error errno], sys)
    | (some (.ok a), sys) => ([.ok a], sys)

/-- How often a call can be made before it is not scripted any more. -/
def attempts (sys : System) : Nat := sys.script.length + 1

/-- Shuts a socket down. -/
def shutdown (sys : System) (h : Handle) : System :=
  { sys with host := sys.host.shutdown h }

/-- Closes a descriptor. -/
def close (sys : System) (h : Handle) : System :=
  { sys with host := sys.host.close h }

end System

end ClockSync.Net
