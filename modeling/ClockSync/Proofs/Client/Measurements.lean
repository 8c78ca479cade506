import ClockSync.Proofs.Client.Runs

/-!
# Which measurements a client keeps

An act may add a measurement, or have all of them forgotten; `marks` lists what
the acts of a run do so. The monitor of a client keeps the last measurements
since they were forgotten, and counts all there ever were
(`keeps_measurements`).
-/

namespace ClockSync.Client

open Net Wire

/-- What an act does to the measurements of a client. -/
inductive Mark where
  | forgotten
  | measured (value : Float)

/-- The value that is added. -/
def Mark.value? : Mark → Option Float
  | forgotten => none
  | measured value => some value

/-- The mark that an act makes, if any: measurements are forgotten at a start,
and when they are asked for with the wish to forget them while the client
measures. -/
def mark? (c : Client) : Act → Option Mark
  | .start source options attempt =>
    if (c.start source options attempt).ok then some .forgotten else none
  | .turn clock polls received =>
    (c.exchange? (.turn clock polls received)).bind fun x =>
      if c.Measures x then some (.measured (c.measured clock x)) else none
  | .askAccuracy _ forgets =>
    if forgets = true ∧ c.options.measuresAccuracy = true then
      some .forgotten
    else none
  | _ => none

/-- The marks that the acts of a run make, oldest first. -/
def marks (c : Client) : List Act → List Mark
  | [] => []
  | act :: acts => (c.mark? act).toList ++ marks (c.step act) acts

/-- The values that were added since they were last forgotten. -/
def sinceForgotten (marks : List Mark) : List Float :=
  (marks.rtakeWhile fun m => m.value?.isSome).filterMap Mark.value?

theorem sinceForgotten_concat_forgotten (marks : List Mark) :
    sinceForgotten (marks ++ [.forgotten]) = [] := by
  rw [sinceForgotten, List.rtakeWhile_concat_neg _ _ _ (by decide)]
  rfl

theorem sinceForgotten_concat_measured (marks : List Mark) (value : Float) :
    sinceForgotten (marks ++ [.measured value]) =
      sinceForgotten marks ++ [value] := by
  rw [sinceForgotten, List.rtakeWhile_concat_pos _ _ _ rfl,
    List.filterMap_append]
  rfl

/-! ## What the monitor keeps -/

/-- The monitor keeps what the marks say. -/
structure Keeps (m : AccuracyMonitor Float) (marks : List Mark) : Prop where
  measurements : m.measurements.toList = (sinceForgotten marks).rtake 10
  generation : m.generation = (marks.filterMap Mark.value?).length

namespace Keeps

variable {m : AccuracyMonitor Float} {marks : List Mark}

theorem clear (h : Keeps m marks) : Keeps m.clear (marks ++ [.forgotten]) := by
  constructor
  · rw [sinceForgotten_concat_forgotten]
    rfl
  · rw [List.filterMap_append, List.length_append, ← h.generation]
    rfl

theorem record (h : Keeps m marks) (value : Float) :
    Keeps (m.record value) (marks ++ [.measured value]) := by
  constructor
  · rw [sinceForgotten_concat_measured, ← rtake_append_rtake, ← h.measurements]
    exact Window.toList_push m.measurements value
  · rw [List.filterMap_append, List.length_append, ← h.generation]
    rfl

/-- The mark of an act says what the act does to the monitor. -/
theorem step {c : Client} (h : Keeps c.monitor marks) (act : Act) :
    Keeps (c.step act).monitor (marks ++ (c.mark? act).toList) := by
  have hsame : Keeps c.monitor (marks ++ (none : Option Mark).toList) := by
    rwa [Option.toList_none, List.append_nil]
  cases act with
  | start source options attempt =>
    rw [Client.step, mark?]
    rcases c.start_cases source options attempt with
      ⟨hfail, error, heq⟩ | ⟨hok, _, _, _, _, _, _, heq⟩
    · rw [heq, hfail]
      exact hsame
    · rw [heq, hok]
      exact h.clear
  | setOptions options => exact hsame
  | request clock call =>
    obtain ⟨error, heq⟩ := c.sendRequest_client clock call
    rw [Client.step]
    split
    · rw [heq]
      exact hsame
    · exact hsame
  | turn clock polls received =>
    rw [mark?]
    rcases c.step_turn_cases clock polls received with
      ⟨x, hx, heq⟩ | ⟨hnone, error, heq⟩
    · rw [hx, heq, Option.bind_some]
      dsimp only
      split
      · exact h.record _
      · exact hsame
    · rw [hnone, heq]
      exact hsame
  | askAccuracy waits forgets =>
    rw [Client.step, askAccuracy_client, mark?]
    split
    · exact h.clear
    · exact hsame
  | shutdown writes lastPolls =>
    rcases c.step_shutdown_cases writes lastPolls with
      ⟨_, channel, heq⟩ | ⟨_, heq⟩
    · rw [heq]
      exact hsame
    · rw [heq]
      exact hsame

theorem run {c : Client} (h : Keeps c.monitor marks) (acts : List Act) :
    Keeps (c.run acts).monitor (marks ++ c.marks acts) := by
  induction acts generalizing c marks with
  | nil => rwa [Client.marks, List.append_nil]
  | cons act acts ih =>
    rw [Client.marks, ← List.append_assoc]
    exact ih (h.step act)

end Keeps

/-- After any acts, a client keeps the last ten measurements since they were
last forgotten, and has counted all there ever were. The next datagram adds a
measurement exactly if it carries a reply, the client measures its accuracy and
has a sample, and the exchange is accepted. The datagram takes one reading, and
an exchange those that it needs besides. -/
theorem keeps_measurements (acts : List Act) :
    let c := ({} : Client).run acts
    Keeps c.monitor (({} : Client).marks acts) ∧
    ∀ clock polls payload, c.Listening → waitEnd? polls = some .readable →
      let x := c.exchangeOf clock payload
      let taken := (c.takeTurn clock polls (.ok payload)).2
      taken.client.monitor =
        (if CarriesReply payload ∧ c.options.measuresAccuracy = true ∧
            (c.estimator.ingest x).1 = .accepted ∧
            c.estimator.samples.toList ≠ [] then
          c.monitor.record (c.measured clock x)
        else c.monitor) ∧
      taken.clock =
        if CarriesReply payload then
          Readings.advance^[c.readingsFor x + 1] clock
        else clock.advance := by
  intro c
  have hnew : Keeps ({} : Client).monitor [] := ⟨rfl, rfl⟩
  refine ⟨hnew.run acts, fun clock polls payload hlisten hready => ?_⟩
  by_cases hreply : CarriesReply payload
  · simp only [hreply, true_and, if_true]
    rw [takeTurn_of_carriesReply hlisten clock hready hreply, takeExchange_eq]
    exact ⟨rfl, rfl⟩
  · simp only [hreply, false_and, if_false]
    rw [takeTurn_of_not_carriesReply hlisten clock hready hreply]
    exact ⟨rfl, rfl⟩

/-- The first of two replies is no measurement, and the second one is. It takes
all five readings. -/
theorem keeps_measurement_of_second_reply :
    let options := { Options.default with measuresAccuracy := true }
    let c := ({} : Client).run
      [.start (.given 0) options (.complete {} 3 (some (4, 5))),
        .turn ⟨300, [301, 302], 0⟩ [.ok (1, 0)]
          (.ok ((Packet.request 100).reply 5000).serialize)]
    let clock : Readings := ⟨600, [601, 602, 603, 604], 0⟩
    let payload := ((Packet.request 400).reply 5300).serialize
    let taken := (c.takeTurn clock [.ok (1, 0)] (.ok payload)).2
    c.monitor.generation = 0 ∧
      taken.client.monitor =
        c.monitor.record (c.measured clock (c.exchangeOf clock payload)) ∧
      taken.clock.taken = 5 := by
  intro options c clock payload taken
  obtain ⟨hkeeps, harrival⟩ := keeps_measurements
    [.start (.given 0) options (.complete {} 3 (some (4, 5))),
      .turn ⟨300, [301, 302], 0⟩ [.ok (1, 0)]
        (.ok ((Packet.request 100).reply 5000).serialize)]
  obtain ⟨hmonitor, hclock⟩ :=
    harrival clock [.ok (1, 0)] payload (by decide +kernel) (by decide)
  refine ⟨?_, ?_, ?_⟩
  · rw [hkeeps.generation]
    decide +kernel
  · rw [hmonitor]
    exact if_pos (by decide +kernel)
  · rw [hclock]
    decide +kernel

end ClockSync.Client
