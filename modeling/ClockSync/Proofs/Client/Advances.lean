import ClockSync.Proofs.Checked
import ClockSync.Proofs.Client.Measurements

/-!
# By how much the local clock advances around an exchange

A measurement takes the reading after an exchange off the one before it, as
signed words. Both readings are whatever the clock shows, so the difference need
not be a signed word. It is one if all readings lie within half the range of the
words (`isWord_of_within`), and then nothing is lost. Else a whole turn of the
words is lost, and with it goes the measurement (`measures_exactly_iff`).
-/

namespace ClockSync

/-- A measurement step by step, with the difference of the local times
checked. -/
def Checked.measurement (localBefore : Int64) (globalBefore : Float)
    (localAfter : Int64) (globalAfter : Float) : Except Fault Float := do
  let advance ← Checked.sub localBefore localAfter
  pure (Float.abs ((globalBefore - globalAfter) - Scalar.ofInt64 advance))

section Advances

variable {before after : Int64}

theorem Checked.measurement_eq (h : IsWord (before.toInt - after.toInt))
    (globalBefore globalAfter : Float) :
    Checked.measurement before globalBefore after globalAfter =
      .ok (AccuracyMonitor.measurement before globalBefore
        after globalAfter) := by
  rw [Checked.measurement, Checked.sub_eq h]
  rfl

theorem Checked.measurement_of_not_isWord
    (h : ¬ IsWord (before.toInt - after.toInt))
    (globalBefore globalAfter : Float) :
    Checked.measurement before globalBefore after globalAfter =
      .error .overflow := by
  rw [Checked.measurement, Checked.sub, Checked.word, if_neg h]
  rfl

/-- Two words lie less than a turn apart, so a difference that does not fit is
off by one turn. -/
theorem toInt_sub_of_not_isWord (h : ¬ IsWord (before.toInt - after.toInt)) :
    (before - after).toInt = before.toInt - after.toInt - 2 ^ 64 ∨
      (before - after).toInt = before.toInt - after.toInt + 2 ^ 64 := by
  have hbefore := before.toInt_lt
  have hbefore' := before.le_toInt
  have hafter := after.toInt_lt
  have hafter' := after.le_toInt
  rw [IsWord] at h
  rw [Int64.toInt_sub, Int.bmod_def]
  omega

theorem isWord_of_within {low : Int}
    (hbefore : low ≤ before.toInt ∧ before.toInt < low + 2 ^ 63)
    (hafter : low ≤ after.toInt ∧ after.toInt < low + 2 ^ 63) :
    IsWord (before.toInt - after.toInt) := by
  constructor <;> omega

end Advances

namespace Client

open Net Wire

/-- In every run, the value that the next measured datagram adds is the one that
checked arithmetic gives exactly if the two readings around the exchange differ
by a signed word. They do if all readings lie within half the range of the
words. If they do not, the advance that is measured against is a whole turn
off. -/
theorem measures_exactly_iff (acts : List Act) :
    let c := ({} : Client).run acts
    ∀ clock polls payload, c.Listening → waitEnd? polls = some .readable →
      CarriesReply payload → c.Measures (c.exchangeOf clock payload) →
      let later := (c.takeTurn clock polls (.ok payload)).2.client
      let before := c.reading clock 1
      let after := c.reading clock 4
      let checked :=
        Checked.measurement before (c.estimator.globalAt (c.reading clock 2))
        after (later.estimator.globalAt (c.reading clock 3))
      ∃ value, later.monitor = c.monitor.record value ∧
        (checked = .ok value ↔ IsWord (before.toInt - after.toInt)) ∧
        (∀ low : Int, (∀ i, low ≤ (c.reading clock i).toInt ∧
            (c.reading clock i).toInt < low + 2 ^ 63) → checked = .ok value) ∧
        (checked ≠ .ok value → checked = .error .overflow ∧
          ((before - after).toInt = before.toInt - after.toInt - 2 ^ 64 ∨
            (before - after).toInt = before.toInt - after.toInt + 2 ^ 64)) := by
  intro c clock polls payload hlisten hready hreply hmeasures
    later before after checked
  have htaken := takeTurn_of_carriesReply hlisten clock hready hreply
  rw [takeExchange_eq] at htaken
  have hestimator : later.estimator =
      (c.estimator.ingest (c.exchangeOf clock payload)).2 :=
    congrArg (·.2.client.estimator) htaken
  have hmonitor : later.monitor =
      c.monitor.record (c.measured clock (c.exchangeOf clock payload)) :=
    (congrArg (·.2.client.monitor) htaken).trans (if_pos hmeasures)
  have hok (hword : IsWord (before.toInt - after.toInt)) :
      checked = .ok (c.measured clock (c.exchangeOf clock payload)) := by
    refine (Checked.measurement_eq hword _ _).trans ?_
    rw [hestimator]
    rfl
  have hfault (hword : ¬ IsWord (before.toInt - after.toInt)) :
      checked = .error .overflow :=
    Checked.measurement_of_not_isWord hword _ _
  refine ⟨_, hmonitor, ⟨fun hvalue => ?_, hok⟩, fun low hwithin => ?_,
    fun hne => ?_⟩
  · by_contra hword
    rw [hfault hword] at hvalue
    cases hvalue
  · exact hok (isWord_of_within (hwithin 1) (hwithin 4))
  · have hword : ¬ IsWord (before.toInt - after.toInt) :=
      fun hword => hne (hok hword)
    exact ⟨hfault hword, toInt_sub_of_not_isWord hword⟩

/-- The second reply to a client is measured by the readings 601 and 604. -/
theorem measures_exactly_of_second_reply :
    let options := { Options.default with measuresAccuracy := true }
    let c := ({} : Client).run
      [.start (.given 0) options (.complete {} 3 (some (4, 5))),
        .turn ⟨300, [301, 302], 0⟩ [.ok (1, 0)]
          (.ok ((Packet.request 100).reply 5000).serialize)]
    let clock : Readings := ⟨600, [601, 602, 603, 604], 0⟩
    let payload := ((Packet.request 400).reply 5300).serialize
    let later := (c.takeTurn clock [.ok (1, 0)] (.ok payload)).2.client
    c.Listening ∧ CarriesReply payload ∧
    c.Measures (c.exchangeOf clock payload) ∧
      ∃ value, later.monitor = c.monitor.record value ∧
        Checked.measurement (c.reading clock 1)
          (c.estimator.globalAt (c.reading clock 2))
          (c.reading clock 4) (later.estimator.globalAt (c.reading clock 3)) =
            .ok value := by
  intro options c clock payload later
  have hlisten : c.Listening := by decide +kernel
  have hreply : CarriesReply payload := by decide +kernel
  have hmeasures : c.Measures (c.exchangeOf clock payload) := by decide +kernel
  obtain ⟨value, hmonitor, hiff, -, -⟩ := measures_exactly_iff
    [.start (.given 0) options (.complete {} 3 (some (4, 5))),
      .turn ⟨300, [301, 302], 0⟩ [.ok (1, 0)]
        (.ok ((Packet.request 100).reply 5000).serialize)]
    clock [.ok (1, 0)] payload hlisten (by decide) hreply hmeasures
  exact ⟨hlisten, hreply, hmeasures, value, hmonitor,
    hiff.mpr (by decide +kernel)⟩

/-- The clock jumps from the least word to the greatest one around the exchange.
The advance is taken to be one, backwards, and measured against. -/
theorem not_measures_exactly_of_extremes :
    let options := { Options.default with measuresAccuracy := true }
    let c := ({} : Client).run
      [.start (.given 0) options (.complete {} 3 (some (4, 5))),
        .turn ⟨300, [301, 302], 0⟩ [.ok (1, 0)]
          (.ok ((Packet.request 100).reply 5000).serialize)]
    let clock : Readings := ⟨600, [Int64.minValue, 0, 0, Int64.maxValue], 0⟩
    let payload := ((Packet.request 400).reply 5300).serialize
    let before := c.reading clock 1
    let after := c.reading clock 4
    c.Listening ∧ CarriesReply payload ∧
    c.Measures (c.exchangeOf clock payload) ∧
      (c.takeTurn clock [.ok (1, 0)]
        (.ok payload)).2.client.monitor.generation = 1 ∧
      ¬ IsWord (before.toInt - after.toInt) ∧
      Checked.sub before after = .error .overflow ∧ before - after = 1 := by
  decide +kernel

end Client

end ClockSync
