/-!
# Counters of a client's exchanges
-/

namespace ClockSync

/-- How many requests were sent, how many replies came back, and how many of
these were not used. The numbers have no bound; as long as fewer than 2^64 of a
kind were counted, they are those of a counter of 64 bits. -/
structure Statistics where
  sent : Nat := 0
  received : Nat := 0
  rejected : Nat := 0
deriving DecidableEq, Repr, Inhabited

namespace Statistics

/-- The requests without a reply; none if more replies came than were asked
for. -/
def lost (s : Statistics) : Nat := s.sent - s.received

/-- The counters as one line of a report. -/
def text (s : Statistics) : String :=
  s!"sent={s.sent}, received={s.received}, lost={s.lost}, rejected={s.rejected}"

end Statistics

end ClockSync
