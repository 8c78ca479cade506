import ClockSync.Proofs.Client.Sessions

/-!
# Waiting for the accuracy

A query that waits for a measurement leaves the lock of its client to others.
What one of those does while holding it is a `Hold`; every act of a client is a
few of them (`exists_holds`). The query itself may look at the client at any
time, and its time may be over: these are the `Move`s of one call and of
everybody else.

The count of measurements is what carries the argument. It grows by one with
each of them and by nothing else, whoever forgets the measurements and however
often (`Since`), so a query that still waits sees by the count whether there was
one (`answered_by_newest`).

Shutdowns are not counted. A query that has the lock before the next start is
told nothing (`told_nothing_of_quitting`), but a start leaves nothing by which a
query that waited before the shutdown could tell that there was one
(`not_endsWait_of_restart`).
-/

namespace ClockSync.Client

open Net

/-! ## What others do -/

/-- What is done to a client by one who holds its lock. -/
inductive Hold where
  | start (source : ClockSource) (options : Options) (attempt : Attempt)
  | setOptions (options : Options)
  | noteSent
  | ingest (x : Exchange)
  | record (measured : Float)
  | askAccuracy (waits forgets : Bool)
  /-- The loops are told to end. -/
  | quit
  /-- Something came of the channel, for which nobody needs the lock. -/
  | useChannel (channel : Channel)

/-- The measurement that is recorded, if one is. -/
def Hold.measurement? : Hold → Option Float
  | record measured => some measured
  | _ => none

/-- What one who holds the lock makes of a client. -/
def hold (c : Client) : Hold → Client
  | .start source options attempt => (c.start source options attempt).client
  | .setOptions options => c.setOptions options
  | .noteSent => { c with estimator := c.estimator.noteSent }
  | .ingest x => { c with estimator := (c.estimator.ingest x).2 }
  | .record measured => { c with monitor := c.monitor.record measured }
  | .askAccuracy waits forgets => (c.askAccuracy waits forgets).2
  | .quit => if c.running then c.beginShutdown else c
  | .useChannel channel => { c with channel }

/-- Between the holds of an act, others may have the lock. -/
theorem exists_holds (c : Client) (act : Act) :
    ∃ holds : List Hold, c.step act = holds.foldl hold c := by
  cases act with
  | start source options attempt => exact ⟨[.start source options attempt], rfl⟩
  | setOptions options => exact ⟨[.setOptions options], rfl⟩
  | request clock call =>
    obtain ⟨error, heq⟩ := c.sendRequest_client clock call
    rw [step]
    split
    · rw [heq]
      exact ⟨[.noteSent, .useChannel { c.channel with lastError := error }],
        rfl⟩
    · exact ⟨[], rfl⟩
  | turn clock polls received =>
    rcases c.step_turn_cases clock polls received with
      ⟨x, _, heq⟩ | ⟨_, error, heq⟩
    · rw [heq]
      by_cases hmeasures : c.Measures x
      · rw [if_pos hmeasures]
        exact ⟨[.ingest x, .record (c.measured clock x)], rfl⟩
      · rw [if_neg hmeasures]
        exact ⟨[.ingest x], rfl⟩
    · rw [heq]
      exact ⟨[.useChannel { c.channel with lastError := error }], rfl⟩
  | askAccuracy waits forgets => exact ⟨[.askAccuracy waits forgets], rfl⟩
  | shutdown writes lastPolls =>
    rcases c.step_shutdown_cases writes lastPolls with
      ⟨hrunning, channel, heq⟩ | ⟨_, heq⟩
    · refine ⟨[.quit, .useChannel channel], ?_⟩
      rw [heq, List.foldl_cons, hold, if_pos hrunning]
      rfl
    · exact ⟨[], heq⟩

/-! ## A call and everybody else -/

/-- A query, and the client of which it was made. -/
structure Asked where
  client : Client
  query : Query

/-- Asks for the accuracy, and waits for a measurement. -/
def awaitAccuracy (c : Client) (forgets : Bool) : Asked where
  client := (c.askAccuracy true forgets).2
  query := (c.askAccuracy true forgets).1

/-- What may happen next. -/
inductive Move where
  /-- Somebody else has the lock. -/
  | hold (what : Hold)
  /-- The query has the lock again. -/
  | look
  /-- The time of the query is over. -/
  | expire

/-- The measurement that is recorded, if one is. -/
def Move.measurement? : Move → Option Float
  | hold what => what.measurement?
  | _ => none

/-- The measurements that are recorded, oldest first. -/
def recorded (moves : List Move) : List Float :=
  moves.filterMap Move.measurement?

theorem recorded_concat (moves : List Move) (move : Move) :
    recorded (moves ++ [move]) =
      recorded moves ++ move.measurement?.toList := by
  rw [recorded, List.filterMap_append]
  cases hmove : move.measurement? <;> simp [recorded, hmove]

namespace Asked

/-- What a move makes of a query and its client. -/
def step (a : Asked) : Move → Asked
  | .hold what => { a with client := a.client.hold what }
  | .look => { a with query := a.query.look a.client }
  | .expire => { a with query := .answered (a.query.expire a.client) }

/-- What moves one after the other make of a query and its client. -/
def run (a : Asked) (moves : List Move) : Asked := moves.foldl step a

@[simp] theorem run_nil (a : Asked) : a.run [] = a := rfl

theorem run_append (a : Asked) (moves later : List Move) :
    a.run (moves ++ later) = (a.run moves).run later := List.foldl_append

theorem run_concat (a : Asked) (moves : List Move) (move : Move) :
    a.run (moves ++ [move]) = (a.run moves).step move := by
  rw [run_append]
  rfl

theorem run_holds (a : Asked) (holds : List Hold) :
    a.run (holds.map .hold) =
      { a with client := holds.foldl Client.hold a.client } := by
  induction holds generalizing a with
  | nil => rfl
  | cons what holds ih => exact ih _

end Asked

/-! ## Sessions -/

/-- Whatever acts come to, holds of the lock do. -/
theorem Reaches.exists_holds {c c' : Client} (h : Reaches c c') :
    ∃ holds : List Hold, holds.foldl hold c = c' := by
  obtain ⟨acts, rfl⟩ := h
  induction acts generalizing c with
  | nil => exact ⟨[], rfl⟩
  | cons act acts ih =>
    obtain ⟨first, hfirst⟩ := c.exists_holds act
    obtain ⟨rest, hrest⟩ := ih (c := c.step act)
    refine ⟨first ++ rest, ?_⟩
    rw [List.foldl_append, ← hfirst, hrest]
    rfl

/-- While a query of a session waits, all that happens are moves. -/
theorem Session.disturbAll_run {s s' : Session} {q q' : Query} {log : Log}
    {during : List (List Int64 × Script × Disturbance)}
    (hhonest : ∀ item ∈ during, item.2.1.Honest receiveLimit)
    (h : disturbAll q s during = .ok (q', s', log)) :
    ∃ moves, (⟨s.client, q⟩ : Asked).run moves = ⟨s'.client, q'⟩ := by
  induction during generalizing q s log with
  | nil =>
    cases h
    exact ⟨[], rfl⟩
  | cons item during ih =>
    obtain ⟨readings, script, what⟩ := item
    obtain ⟨hfirst, hlater⟩ := List.forall_mem_cons.mp hhonest
    rw [disturbAll] at h
    obtain ⟨⟨t, firstLog⟩, hdisturb, h⟩ := exists_of_bind_eq_ok h
    obtain ⟨⟨q'', s'', restLog⟩, hrest, h⟩ := exists_of_bind_eq_ok h
    cases h
    obtain ⟨holds, hholds⟩ :=
      (disturb_reaches (s := s.prepare readings script)
        hfirst hdisturb).exists_holds
    obtain ⟨moves, hmoves⟩ := ih hlater hrest
    refine ⟨holds.map .hold ++ .look :: moves, ?_⟩
    have hclient : holds.foldl Client.hold s.client = t.client := hholds
    rw [Asked.run_append, Asked.run_holds, hclient]
    exact hmoves

/-! ## What the monitor has come to -/

/-- The monitor after some measurements more, of which it may have forgotten
some: it has counted them all, and keeps the last ones. -/
structure Since (before : AccuracyMonitor Float) (values : List Float)
    (m : AccuracyMonitor Float) : Prop where
  generation : m.generation = before.generation + values.length
  measurements : m.measurements.toList <:+ before.measurements.toList ++ values

namespace Since

variable {before m : AccuracyMonitor Float} {values : List Float}

theorem refl (m : AccuracyMonitor Float) : Since m [] m :=
  ⟨rfl, by simp⟩

/-- Where nothing was recorded there are no more measurements. -/
theorem nothing (h : Since before values m) :
    Since before (values ++ (none : Option Float).toList) m := by
  rwa [Option.toList_none, List.append_nil]

theorem clear (h : Since before values m) : Since before values m.clear :=
  ⟨h.generation, List.nil_suffix⟩

theorem record (h : Since before values m) (value : Float) :
    Since before (values ++ [value]) (m.record value) := by
  constructor
  · rw [AccuracyMonitor.record, h.generation, List.length_append, Nat.add_assoc]
    rfl
  · have hpush : (m.measurements.push value).toList <:+ m.measurements.toList ++
        [value] := by
      rw [Window.toList_push]
      exact List.drop_suffix _ _
    obtain ⟨old, hold⟩ := h.measurements
    refine hpush.trans ⟨old, ?_⟩
    rw [← List.append_assoc, hold, List.append_assoc]

theorem hold {c : Client} (h : Since before values c.monitor) (what : Hold) :
    Since before (values ++ what.measurement?.toList)
      (c.hold what).monitor := by
  cases what with
  | start source options attempt =>
    rw [Client.hold]
    rcases c.start_cases source options attempt with
      ⟨_, error, heq⟩ | ⟨_, _, _, _, _, _, _, heq⟩
    · rw [heq]
      exact h.nothing
    · rw [heq]
      exact h.clear.nothing
  | askAccuracy waits forgets =>
    rw [Client.hold, askAccuracy_client]
    split
    · exact h.clear.nothing
    · exact h.nothing
  | record measured => exact h.record measured
  | quit =>
    rw [Client.hold]
    split <;> exact h.nothing
  | _ => exact h.nothing

theorem step {a : Asked} (h : Since before values a.client.monitor)
    (move : Move) :
    Since before (values ++ move.measurement?.toList)
      (a.step move).client.monitor := by
  cases move with
  | hold what => exact h.hold what
  | _ => exact h.nothing

theorem run (a : Asked) (moves : List Move) :
    Since a.client.monitor (recorded moves) (a.run moves).client.monitor := by
  induction moves using List.reverseRecOn with
  | nil => exact .refl _
  | append_singleton moves move ih =>
    rw [Asked.run_concat, recorded_concat]
    exact ih.step move

/-- There was a measurement just if the count has changed. -/
theorem generation_ne_iff (h : Since before values m) :
    m.generation ≠ before.generation ↔ values ≠ [] := by
  rw [h.generation, Ne, Ne, Nat.add_eq_left, List.length_eq_zero_iff]

/-- As long as any measurement is kept, the newest is. -/
theorem newest? (h : Since before values m) (hkept : m.measurements.toList ≠ [])
    (hvalues : values ≠ []) : m.measurements.newest? = values.getLast? := by
  obtain ⟨old, heq⟩ := h.measurements
  have hlast := congrArg List.getLast? heq
  rwa [List.getLast?_append_of_ne_nil _ hkept,
    List.getLast?_append_of_ne_nil _ hvalues] at hlast

end Since

/-! ## Queries that wait -/

/-- A query is answered at once if the client does not measure or is to end, and
waits otherwise. -/
theorem awaitAccuracy_cases (c : Client) (forgets : Bool) :
    (c.awaitAccuracy forgets).query = .answered .none ∨
    c.awaitAccuracy forgets =
      ⟨{ c with monitor := if forgets then c.monitor.clear else c.monitor },
        .waiting c.monitor.generation⟩ := by
  obtain ⟨options, clock, estimator, monitor, running, quitting, channel⟩ := c
  cases hon : options.measuresAccuracy <;> cases quitting <;> cases forgets <;>
    simp [awaitAccuracy, askAccuracy, hon, AccuracyMonitor.clear]

/-- What a query waits for: that the client is to end, or that there was a
measurement after so many others. -/
def EndsWait (c : Client) (generation : Nat) : Prop :=
  c.quitting = true ∨ c.monitor.generation ≠ generation

instance (c : Client) (generation : Nat) : Decidable (c.EndsWait generation) :=
  inferInstanceAs (Decidable (_ ∨ _))

/-- What a client tells a query that need not wait any longer. -/
def told (c : Client) : Accuracy Float :=
  if c.quitting then .none else c.accuracy

/-- What is told is nothing, or what the kept measurements sum up to. -/
theorem told_cases (c : Client) :
    c.told = .none ∨ c.quitting = false ∧ c.monitor.measurements.toList ≠ [] ∧
      c.told = c.monitor.summarize.scaled c.options.scale := by
  rw [told, accuracy]
  split
  · exact Or.inl rfl
  · next hquitting =>
    split
    · exact Or.inl rfl
    · next hcount =>
      exact Or.inr ⟨Bool.eq_false_iff.mpr hquitting, fun hnil => hcount (by
        rw [AccuracyMonitor.count, Window.size, hnil]
        rfl), rfl⟩

theorem look_waiting (c : Client) (generation : Nat) :
    (Query.waiting generation).look c =
      if c.EndsWait generation then .answered c.told
      else .waiting generation := by
  by_cases hquitting : c.quitting = true
  · rw [Query.look, told, if_pos hquitting, if_pos hquitting,
      if_pos (show c.EndsWait generation from Or.inl hquitting)]
  · rw [Query.look, told, if_neg hquitting, if_neg hquitting]
    simp only [EndsWait, or_iff_right hquitting]

theorem expire_waiting (c : Client) (generation : Nat) :
    (Query.waiting generation).expire c =
      if c.EndsWait generation then c.told else .none := by
  rw [Query.expire, look_waiting]
  by_cases hends : c.EndsWait generation
  · rw [if_pos hends, if_pos hends]
  · rw [if_neg hends, if_neg hends]

namespace Asked

/-- Only a query that waits is answered. -/
theorem step_answered {a : Asked} {answer : Accuracy Float}
    (h : a.query = .answered answer) (move : Move) :
    (a.step move).query = .answered answer := by
  cases move with
  | hold what => exact h
  | look =>
    rw [step, h]
    rfl
  | expire =>
    rw [step, h]
    rfl

/-- A query goes on waiting as before, or is answered. -/
theorem step_waiting {a : Asked} {generation : Nat}
    (h : a.query = .waiting generation) (move : Move) :
    (a.step move).query = .waiting generation ∨
    (a.step move).query = .answered .none ∨
    a.client.EndsWait generation ∧
    (a.step move).query = .answered a.client.told := by
  cases move with
  | hold what => exact Or.inl h
  | look =>
    rw [step, h, look_waiting]
    dsimp only
    split
    · next hends => exact Or.inr (Or.inr ⟨hends, rfl⟩)
    · exact Or.inl rfl
  | expire =>
    rw [step, h, expire_waiting]
    dsimp only
    split
    · next hends => exact Or.inr (Or.inr ⟨hends, rfl⟩)
    · exact Or.inr (Or.inl rfl)

/-- A query that still waits does so for what it waited for at first. -/
theorem waiting_of_run {a : Asked} {moves : List Move} {generation : Nat}
    (h : (a.run moves).query = .waiting generation) :
    a.query = .waiting generation := by
  induction moves using List.reverseRecOn with
  | nil => exact h
  | append_singleton moves move ih =>
    rw [run_concat] at h
    refine ih ?_
    cases hquery : (a.run moves).query with
    | answered answer =>
      rw [step_answered hquery] at h
      cases h
    | waiting earlier =>
      rcases step_waiting hquery move with hsame | hnone | ⟨_, htold⟩
      · rw [← hsame, h]
      · rw [hnone] at h
        cases h
      · rw [htold] at h
        cases h

/-- A query that has been told something was told it when its wait ended. -/
theorem answered_of_run {a : Asked} {moves : List Move}
    {answer : Accuracy Float} (h : (a.run moves).query = .answered answer) :
    a.query = .answered answer ∨ answer = .none ∨
    ∃ before move later generation, moves = before ++ move :: later ∧
      (a.run before).query = .waiting generation ∧
      ((a.run before).step move).query = .answered answer ∧
      (a.run before).client.EndsWait generation ∧
      answer = (a.run before).client.told := by
  induction moves using List.reverseRecOn with
  | nil => exact Or.inl h
  | append_singleton moves move ih =>
    rw [run_concat] at h
    cases hquery : (a.run moves).query with
    | answered earlier =>
      rw [step_answered hquery] at h
      cases h
      rcases ih hquery with
        hfirst | hnone | ⟨before, ended, later, generation, rfl, hended⟩
      · exact Or.inl hfirst
      · exact Or.inr (Or.inl hnone)
      · exact Or.inr (Or.inr ⟨before, ended, later ++ [move],
          generation, by simp, hended⟩)
    | waiting generation =>
      rcases step_waiting hquery move with hsame | hnone | ⟨hends, htold⟩
      · rw [hsame] at h
        cases h
      · rw [hnone] at h
        cases h
        exact Or.inr (Or.inl rfl)
      · have hstep := h
        rw [htold] at h
        cases h
        exact Or.inr (Or.inr ⟨moves, move, [], generation,
          rfl, hquery, hstep, hends, rfl⟩)

end Asked

section Waits

variable {c : Client} {forgets : Bool} {moves : List Move} {generation : Nat}

/-- What has been recorded since a query began to wait. -/
theorem since_awaitAccuracy
    (h : ((c.awaitAccuracy forgets).run moves).query = .waiting generation) :
    Since { measurements := if forgets then .empty else c.monitor.measurements,
            generation }
      (recorded moves)
        ((c.awaitAccuracy forgets).run moves).client.monitor := by
  have hsince := Since.run (c.awaitAccuracy forgets) moves
  have hfirst := Asked.waiting_of_run h
  rcases c.awaitAccuracy_cases forgets with hnone | heq
  · rw [hnone] at hfirst
    cases hfirst
  · rw [heq] at hfirst hsince ⊢
    cases hfirst
    cases forgets <;> exact hsince

/-- While a query waits, it need not go on if the client is to end, or if
anything was recorded since. -/
theorem endsWait_iff
    (h : ((c.awaitAccuracy forgets).run moves).query = .waiting generation) :
    ((c.awaitAccuracy forgets).run moves).client.EndsWait generation ↔
      ((c.awaitAccuracy forgets).run moves).client.quitting = true ∨
      recorded moves ≠ [] := by
  rw [EndsWait, (since_awaitAccuracy h).generation_ne_iff]

end Waits

/-- What a query that waits is told. A client that does not measure tells it
nothing, at once. Once a measurement was recorded the query need not wait any
longer, whatever else happens, and is told something when it looks or when its
time is over. If that is not nothing, it is the accuracy by the measurements
that the client keeps just then: the newest since the query was made is one of
them, and all of them are since if the query forgot the earlier ones. -/
theorem answered_by_newest (c : Client) (forgets : Bool) (moves : List Move) :
    let first := c.awaitAccuracy forgets
    (c.options.measuresAccuracy = false → first = ⟨c, .answered .none⟩) ∧
    (∀ generation, (first.run moves).query = .waiting generation →
      recorded moves ≠ [] →
      (first.run moves).client.EndsWait generation ∧
      ∀ move, move = .look ∨ move = .expire →
        ((first.run moves).step move).query =
          .answered (first.run moves).client.told) ∧
    ∀ answer, (first.run moves).query = .answered answer → answer = .none ∨
      ∃ before move later, moves = before ++ move :: later ∧
        (∃ generation, (first.run before).query = .waiting generation) ∧
        ((first.run before).step move).query = .answered answer ∧
        recorded before ≠ [] ∧
        let kept := (first.run before).client.monitor
        answer = kept.summarize.scaled (first.run before).client.options.scale ∧
        kept.measurements.newest? = (recorded before).getLast? ∧
        (forgets = true → kept.measurements.toList <:+ recorded before) := by
  intro first
  refine ⟨?_, ?_, ?_⟩
  · intro hoff
    simp [first, awaitAccuracy, askAccuracy, hoff]
  · intro generation hwaits hrecorded
    have hends := (endsWait_iff hwaits).mpr (Or.inr hrecorded)
    refine ⟨hends, ?_⟩
    rintro move (rfl | rfl)
    · rw [Asked.step, hwaits, look_waiting, if_pos hends]
    · rw [Asked.step, hwaits, expire_waiting, if_pos hends]
  · intro answer hanswered
    rcases Asked.answered_of_run hanswered with
      hfirst | hnone | ⟨before, move, later, generation,
        hmoves, hwaits, hstep, hends, htold⟩
    · rcases c.awaitAccuracy_cases forgets with hnone | heq
      · rw [hnone] at hfirst
        cases hfirst
        exact Or.inl rfl
      · rw [show first = _ from heq] at hfirst
        cases hfirst
    · exact Or.inl hnone
    · rcases (first.run before).client.told_cases with
        hnone | ⟨hquitting, hkept, hsummary⟩
      · exact Or.inl (htold.trans hnone)
      · have hsince := since_awaitAccuracy hwaits
        have hrecorded : recorded before ≠ [] :=
          ((endsWait_iff hwaits).mp hends).resolve_left
            (by rw [hquitting]; decide)
        refine Or.inr ⟨before, move, later, hmoves, ⟨generation, hwaits⟩,
          hstep, hrecorded,
          htold.trans hsummary, hsince.newest? hkept hrecorded, ?_⟩
        rintro rfl
        exact hsince.measurements

/-- A window that was full when a query was made, and was emptied by others and
filled again since. -/
theorem answered_by_newest_of_refilled_window :
    let c : Client :=
      { options := { Options.default with measuresAccuracy := true }
        quitting := false
        monitor := (List.replicate 10 1).foldl AccuracyMonitor.record {} }
    let refill : List Move :=
      (.askAccuracy false true :: List.replicate 10 (.record 2)).map .hold
    let first := c.awaitAccuracy true
    let now := first.run refill
    c.monitor.count = 10 ∧ now.client.monitor.count = 10 ∧
    now.query = .waiting 10 ∧
      now.client.EndsWait 10 ∧
      (now.step .look).query = .answered now.client.told ∧
      ∃ before move later, refill ++ [.look] = before ++ move :: later ∧
        recorded before ≠ [] ∧
        now.client.told = (first.run before).client.monitor.summarize.scaled
          (first.run before).client.options.scale ∧
        (first.run before).client.monitor.measurements.toList
          <:+ recorded before := by
  intro c refill first now
  have hwaits : now.query = .waiting 10 := by rfl
  have hsome : (now.client.told.least == 0) = false := by decide +kernel
  obtain ⟨_, hends, _⟩ := answered_by_newest c true refill
  obtain ⟨hends, htold⟩ := hends 10 hwaits (List.cons_ne_nil _ _)
  have hlook : (now.step .look).query = .answered now.client.told :=
    htold .look (Or.inl rfl)
  obtain ⟨_, _, hanswered⟩ := answered_by_newest c true (refill ++ [.look])
  rw [Asked.run_concat] at hanswered
  refine ⟨by decide +kernel, by decide +kernel, hwaits, hends, hlook, ?_⟩
  rcases hanswered _ hlook with
    hnone | ⟨before, move, later, hmoves, _, _, hrecorded, hsummary, _, hkept⟩
  · rw [show now.client.told = .none from hnone] at hsome
    exact absurd hsome (by decide +kernel)
  · exact ⟨before, move, later, hmoves, hrecorded, hsummary, hkept rfl⟩

/-! ## Shutdowns -/

/-- Whether the client is started. -/
def Move.isStart : Move → Bool
  | hold (.start _ _ _) => true
  | _ => false

theorem quitting_step {a : Asked} (h : a.client.quitting = true) {move : Move}
    (hmove : move.isStart = false) : (a.step move).client.quitting = true := by
  cases move with
  | hold what =>
    cases what with
    | start source options attempt => cases hmove
    | askAccuracy waits forgets =>
      show (a.client.askAccuracy waits forgets).2.quitting = true
      rw [askAccuracy_client]
      split <;> exact h
    | quit =>
      rw [Asked.step, Client.hold]
      split
      · rfl
      · exact h
    | _ => exact h
  | _ => exact h

/-- A query that waits when the client is told to end is told nothing, if it has
the lock again before the next start. -/
theorem told_nothing_of_quitting {a : Asked} {generation : Nat}
    (hquitting : a.client.quitting = true)
    (hwaits : a.query = .waiting generation) {moves : List Move}
    (hmoves : ∀ move ∈ moves, move.isStart = false) :
    ((a.run moves).step .look).query = .answered .none := by
  -- it has been told nothing already, or goes on waiting for a client that is
  -- still to end
  have hstands : (a.run moves).client.quitting = true ∧
      ((a.run moves).query = .waiting generation ∨
        (a.run moves).query = .answered .none) := by
    induction moves using List.reverseRecOn with
    | nil => exact ⟨hquitting, Or.inl hwaits⟩
    | append_singleton moves move ih =>
      obtain ⟨hbefore, hmove⟩ := List.forall_mem_append.mp hmoves
      obtain ⟨hstill, hquery⟩ := ih hbefore
      rw [Asked.run_concat]
      refine ⟨quitting_step hstill (hmove move (List.mem_singleton_self move)),
        ?_⟩
      rcases hquery with hquery | hnone
      · rcases Asked.step_waiting hquery move with hsame | hnone | ⟨_, htold⟩
        · exact Or.inl hsame
        · exact Or.inr hnone
        · rw [told, if_pos hstill] at htold
          exact Or.inr htold
      · exact Or.inr (Asked.step_answered hnone move)
  obtain ⟨hstill, hquery | hnone⟩ := hstands
  · rw [Asked.step, hquery, look_waiting, told, if_pos hstill,
      if_pos (show EndsWait _ generation from Or.inl hstill)]
  · exact Asked.step_answered hnone .look

/-- A query that does not have the lock between a shutdown and the next start
goes on waiting: the start leaves nothing by which to tell that there was a
shutdown. -/
theorem not_endsWait_of_restart {c : Client} {generation : Nat}
    (h : ¬ c.EndsWait generation) (hrunning : c.running = true)
    {channel : Channel} {source : ClockSource} {options : Options}
    {attempt : Attempt}
    (hok : (((c.hold .quit).hold (.useChannel channel)).start
      source options attempt).ok = true) :
    ¬ (((c.hold .quit).hold (.useChannel channel)).hold
      (.start source options attempt)).EndsWait generation := by
  have hcount : c.monitor.generation = generation := by
    by_contra hne
    exact h (Or.inr hne)
  rw [hold, if_pos hrunning] at hok ⊢
  rcases Client.start_cases (hold c.beginShutdown (.useChannel channel))
    source options attempt with
    ⟨hfail, _⟩ | ⟨_, _, _, _, _, _, _, heq⟩
  · rw [hok] at hfail
    cases hfail
  · rintro (hquitting | hne)
    · rw [hold, heq] at hquitting
      cases hquitting
    · rw [hold, heq] at hne
      exact hne hcount

/-- After a shutdown and a start at once, a query that waited before them is
told a measurement of the new session. -/
example :
    let options : Options := { Options.default with measuresAccuracy := true }
    let start : Hold := .start .standard options (.complete {} 3 (some (4, 5)))
    let c := ({} : Client).hold start
    let now := (c.awaitAccuracy false).run
      ([.quit, .useChannel c.channel.close.channel, start, .record 2].map .hold)
    now.query = .waiting 0 ∧ now.client.told.least = 2 ∧
      (now.step .look).query = .answered now.client.told :=
  ⟨rfl, by decide +kernel, rfl⟩

end ClockSync.Client
