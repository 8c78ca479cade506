/-!
# Counters of a reflector
-/

namespace ClockSync.Reflector

/-- What a reflector did so far. The numbers have no bound; as long as fewer
than 2^64 of a kind were counted, they are those of a counter of 64 bits. -/
structure Counters where
  /-- Well-formed requests. -/
  received : Nat := 0
  /-- Replies that were sent. -/
  sent : Nat := 0
  /-- Receives that failed. -/
  receiveErrors : Nat := 0
  /-- Datagrams dropped because they had not the size of a packet. -/
  incomplete : Nat := 0
  /-- Datagrams dropped because they did not start with the signature. -/
  mismatched : Nat := 0
  /-- Datagrams dropped because they were replies. -/
  replies : Nat := 0
  /-- Replies that could not be sent, or not all of them. -/
  sendErrors : Nat := 0
deriving DecidableEq, Repr, Inhabited

/-- The counters as one line of a report, with the last error if there was
one. -/
def Counters.text (c : Counters) (lastError : String) : String :=
  s!"rx={c.received}, tx={c.sent}, rx_err={c.receiveErrors}, short={c.incomplete}, " ++
    s!"bad_magic={c.mismatched}, replies={c.replies}, tx_err={c.sendErrors}" ++
    (if lastError.isEmpty then "" else s!", err='{lastError}'")

end ClockSync.Reflector
