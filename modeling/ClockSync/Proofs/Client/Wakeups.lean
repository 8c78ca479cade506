import ClockSync.Proofs.Client.ChannelStates

/-!
# A wake-up is kept until the channel is closed

A byte that is written into the pair of a channel is never read: it stays there
while the channel is open, whatever else is done with it (`Open.act`). So of an
open channel it can be told from the pair whether it was ever woken
(`Open.run`), and once it was, each wait finds that out before all else
(`Open.result_wait`).

What calls are scripted to tell must fit with what is in the pair (`Faithful`).
-/

namespace ClockSync.Client

open Net Wire

/-- What is scripted fits with so many bytes in the pair: a poll that returns
tells whether there are any, a write that is not made does not succeed, and one
that finds no room finds some. -/
structure Faithful (queued : Nat) (script : Script) : Prop where
  poll : ∀ outcome events wakeEvents, (.poll, outcome) ∈ script →
    polled outcome = .ok (events, wakeEvents) → (wakeEvents ≠ 0 ↔ queued ≠ 0)
  write : ∀ outcome, (.wake, outcome) ∈ script → outcome.value.isOk = false
  full : ∀ outcome, (.wake, outcome) ∈ script →
    outcome.value = .error .tryAgain → queued ≠ 0

theorem Faithful.nil (queued : Nat) : Faithful queued [] :=
  ⟨fun _ _ _ h => absurd h List.not_mem_nil,
    fun _ h => absurd h List.not_mem_nil,
    fun _ h => absurd h List.not_mem_nil⟩

namespace Site

/-- How many bytes are in the pair of the channel. -/
def queued (s : Site) : Nat :=
  (s.channel.wakeReader.bind fun reader =>
    s.host.pairs.find? (·.readEnd == reader)).elim 0
    (·.queued)

/-- Each script fits with what is in the pair when it is used. -/
def Trusted (s : Site) : List Operation.Step → Prop
  | [] => True
  | step :: steps =>
    Faithful s.queued step.script ∧ Trusted (s.act step).site steps

/-- The step wakes the channel. -/
def Wakes (s : Site) (step : Operation.Step) : Prop :=
  step.operation = .interrupt ∧ (s.act step).result = some (.ok .done)

/-- Some step wakes the channel. -/
def Woken (s : Site) : List Operation.Step → Prop
  | [] => False
  | step :: steps => s.Wakes step ∨ Woken (s.act step).site steps

variable {first : Host} {said : Prop} {s : Site} {connection : Connection}
  {queued : Nat}

/-! ## What is in the pair -/

namespace Open

/-- The pair of the channel is told from the others by its reading end. -/
theorem queued_eq (h : Open first said s connection queued)
    (hothers : ∀ other ∈ first.pairs, other.readEnd ≠ connection.reader) :
    s.queued = queued := by
  have hnone : first.pairs.find? (·.readEnd == connection.reader) = none :=
    List.find?_eq_none.mpr fun other hother => by
      simpa using hothers other hother
  rw [Site.queued, h.wakeReader, h.pairs]
  simp [List.find?_append, hnone]

/-- Only waking an open channel changes what is in its pair, and closing it. -/
theorem perform_of_ne (h : Open first said s connection queued)
    (hfresh : s.host.Fresh) (script : Script) {operation : Operation}
    (hinterrupt : operation ≠ .interrupt) (hclose : operation ≠ .close) :
    Open first said (s.perform script operation).site connection queued :=
  h.quiet (quiet_perform hfresh (fun _ _ _ => h.isOpen) hinterrupt hclose)

end Open

section Steps

variable {step : Operation.Step}

/-- A step that does not close the channel leaves it open, and leaves bytes in
its pair if there were some or if it woke the channel. -/
theorem Open.act (h : Open first said s connection queued)
    (hwhole : Whole first said s) (hfirst : first.Fresh)
    (hclose : step.operation ≠ .close)
    (hfaithful : Faithful queued step.script) :
    ∃ queued', Open first said (s.act step).site connection queued' ∧
      (queued' ≠ 0 ↔ queued ≠ 0 ∨ s.Wakes step) := by
  have hbefore : Open first said (s.before step) connection queued :=
    h.quiet ⟨step.traffic s.host (hwhole.fresh hfirst),
      ⟨s.channel.lastError, rfl⟩, rfl⟩
  by_cases hinterrupt : step.operation = .interrupt
  · have hothers : ∀ other ∈ first.pairs, other.writeEnd ≠ connection.writer :=
      fun other hother => (hwhole.other_pairs hfirst h other hother).1
    have hact :
        s.act step = (s.before step).perform step.script .interrupt := by
      rw [Site.act, hinterrupt]
    rw [Wakes, hact]
    rcases (hbefore.interrupt hothers step.script).2.2 with
      ⟨hdone, hlater⟩ | ⟨scripted, hmem, hresult, hlater⟩
    · exact ⟨queued + 1, hlater, by simp [hinterrupt, hdone]⟩
    · refine ⟨queued, hlater, ?_⟩
      -- a write that is only scripted succeeds for want of room, if at all
      have hwoken : woken scripted.value = .ok .done → queued ≠ 0 := by
        have hwrite := hfaithful.write scripted hmem
        have hfull := hfaithful.full scripted hmem
        generalize scripted.value = value at hwrite hfull ⊢
        rcases value with errno | value
        · intro heq
          rw [woken] at heq
          split at heq
          · next htryAgain => exact hfull (by rw [htryAgain])
          · cases heq
        · cases hwrite
      rw [hresult]
      constructor
      · exact Or.inl
      · rintro (hqueued | ⟨_, heq⟩)
        · exact hqueued
        · exact hwoken (Option.some.inj heq)
  · refine ⟨queued, hbefore.perform_of_ne ?_ step.script hinterrupt hclose, ?_⟩
    · exact (hwhole.before hfirst step).fresh hfirst
    · simp [Wakes, hinterrupt]

/-- While a channel is open, there are bytes in its pair if there were some at
first or if it was woken since. -/
theorem Open.run (h : Open first said s connection queued)
    (hwhole : Whole first said s) (hfirst : first.Fresh)
    {steps : List Operation.Step}
    (hsaid : ∀ step ∈ steps, step.script.SaysConnected → said)
    (hclose : ∀ step ∈ steps, step.operation ≠ .close)
    (htrusted : s.Trusted steps) :
    Whole first said (s.run steps) ∧
    ∃ queued', Open first said (s.run steps) connection queued' ∧
      (queued' ≠ 0 ↔ queued ≠ 0 ∨ s.Woken steps) := by
  induction steps generalizing s queued with
  | nil => exact ⟨hwhole, queued, h, by simp [Woken]⟩
  | cons step steps ih =>
    obtain ⟨hstepSaid, hlaterSaid⟩ := List.forall_mem_cons.mp hsaid
    obtain ⟨hstep, hlater⟩ := List.forall_mem_cons.mp hclose
    obtain ⟨hfaithful, htrusted⟩ := htrusted
    have hothers : ∀ other ∈ first.pairs, other.readEnd ≠ connection.reader :=
      fun other hother => (hwhole.other_pairs hfirst h other hother).2
    rw [h.queued_eq hothers] at hfaithful
    obtain ⟨queued₁, hopen₁, hqueued₁⟩ := h.act hwhole hfirst hstep hfaithful
    obtain ⟨hwhole', queued₂, hopen₂, hqueued₂⟩ :=
      ih hopen₁ (hwhole.act hfirst hstepSaid) hlaterSaid hlater htrusted
    refine ⟨hwhole', queued₂, hopen₂, ?_⟩
    rw [hqueued₂, hqueued₁, Woken, or_assoc]

end Steps

/-! ## What a wait finds -/

/-- What the polls of a wait tell. They go on only if nothing is in the pair. -/
theorem Open.polls_cases (h : Open first said s connection queued)
    (hothers : ∀ other ∈ first.pairs, other.readEnd ≠ connection.reader)
    {script : Script} (hfaithful : Faithful queued script) :
    (∃ outcome errno, (.poll, outcome) ∈ script ∧ outcome.value = .error errno ∧
      errno ≠ .interrupted ∧
      uninterrupted? (Session.polls ⟨s.host, script⟩ s.channel).1 =
        some (.error errno)) ∨
    (∃ events wakeEvents, (wakeEvents ≠ 0 ↔ queued ≠ 0) ∧
      uninterrupted? (Session.polls ⟨s.host, script⟩ s.channel).1 =
        some (.ok (events, wakeEvents))) ∨
    queued = 0 ∧
    uninterrupted? (Session.polls ⟨s.host, script⟩ s.channel).1 = none := by
  rcases (Client.polls_cases ⟨s.host, script⟩ h.socket h.wakeReader).2 with
    ⟨outcome, hmem, hdecisive, hends⟩ | hends
  · cases hpolled : polled outcome with
    | error errno =>
      rw [hpolled] at hdecisive hends
      exact Or.inl ⟨outcome, errno, hmem, value_of_polled hpolled,
        fun heq => hdecisive (by rw [heq]), hends⟩
    | ok found =>
      rw [hpolled] at hends
      exact Or.inr (Or.inl ⟨found.1, found.2,
        hfaithful.poll outcome _ _ hmem hpolled, hends⟩)
  · have hwake := Host.wakeEvents_last h.pairs hothers
    dsimp only at hwake hends
    by_cases hqueued : queued = 0
    · rw [if_pos hqueued] at hwake
      rw [hwake] at hends
      split at hends
      · exact Or.inr (Or.inr ⟨hqueued, hends⟩)
      · exact Or.inr (Or.inl ⟨_, 0, by simp [hqueued], hends⟩)
    · rw [if_neg hqueued] at hwake
      rw [hwake, if_neg (by simp [Host.readable])] at hends
      exact Or.inr (Or.inl ⟨_, Host.readable,
        by simp [hqueued, Host.readable], hends⟩)

/-- How a wait on an open channel ends, if it does. -/
theorem Open.perform_wait (h : Open first said s connection queued)
    (script : Script) :
    (s.perform script .wait).result =
      (waitEnd? (Session.polls ⟨s.host, script⟩ s.channel).1).map
        Wait.result := by
  rw [← Channel.wait_fst (by rw [h.socket]; rfl) (by rw [h.wakeReader]; rfl)]
  rfl

theorem eventsToWait_of_ne {wakeEvents : Nat} (h : wakeEvents ≠ 0)
    (events : Nat) :
    Channel.eventsToWait events wakeEvents = .interrupted := by
  rw [Channel.eventsToWait, if_pos h]

theorem eventsToWait_zero_ne (events : Nat) :
    (Channel.eventsToWait events 0).result ≠ .ok (.waited .interrupted) := by
  rw [Channel.eventsToWait, if_neg (by decide)]
  split
  · simp [Wait.result]
  · simp [Wait.result]

/-- A wait finds bytes in the pair, whatever else there is, unless its poll
fails; it finds none if there are none. -/
theorem Open.result_wait (h : Open first said s connection queued)
    (hothers : ∀ other ∈ first.pairs, other.readEnd ≠ connection.reader)
    {script : Script} (hfaithful : Faithful queued script) :
    (queued ≠ 0 →
      (s.perform script .wait).result = some (.ok (.waited .interrupted)) ∨
      ∃ outcome errno, (.poll, outcome) ∈ script ∧
        outcome.value = .error errno ∧
        errno ≠ .interrupted ∧
        (s.perform script .wait).result = some (.error (.poll errno))) ∧
    (queued = 0 →
      (s.perform script .wait).result ≠ some (.ok (.waited .interrupted))) := by
  rw [h.perform_wait, waitEnd?]
  rcases h.polls_cases hothers hfaithful with
    ⟨outcome, errno, hmem, hvalue, hdecisive, hends⟩
      | ⟨events, wakeEvents, hiff, hends⟩ |
    ⟨hqueued, hends⟩
  · rw [hends]
    exact ⟨fun _ => Or.inr ⟨outcome, errno, hmem, hvalue, hdecisive, rfl⟩,
      fun _ => by simp [Wait.result]⟩
  · rw [hends]
    refine ⟨fun hqueued => Or.inl ?_, fun hqueued => ?_⟩
    · simp only [Option.map_some, eventsToWait_of_ne (hiff.mpr hqueued)]
      rfl
    · have hnone : wakeEvents = 0 := by
        by_contra hsome
        exact hiff.mp hsome hqueued
      rw [hnone]
      exact fun heq => eventsToWait_zero_ne events (Option.some.inj heq)
  · rw [hends]
    exact ⟨fun hsome => absurd hqueued hsome, fun _ => by simp⟩

end Site

/-! ## The receiving loop -/

/-- Polls that were interrupted before make no difference to a wait. -/
theorem uninterrupted?_append {α : Type} {earlier : List (Except Errno α)}
    (h : ∀ outcome ∈ earlier, outcome = .error .interrupted)
    (later : List (Except Errno α)) :
    uninterrupted? (earlier ++ later) = uninterrupted? later := by
  induction earlier with
  | nil => rfl
  | cons outcome earlier ih =>
    obtain ⟨rfl, hearlier⟩ := List.forall_mem_cons.mp h
    rw [List.cons_append, uninterrupted?, if_pos rfl, ih hearlier]

/-- A client that is to end has its receiving loop end with the wait that it is
in. -/
theorem receiveTurn_ended {c : Client} (hquitting : c.quitting = true)
    (hsocket : c.channel.socket.isSome) (hreader : c.channel.wakeReader.isSome)
    {polls : List (Except Errno (Nat × Nat))}
    (hends : (uninterrupted? polls).isSome) (clock : Readings)
    (call : Handle → Option (Except SocketError Bytes)) :
    (c.receiveTurn clock polls call).1 = .ended := by
  have hwait : (c.channel.wait polls).1.isSome := by
    rw [Channel.wait_fst hsocket hreader, waitEnd?, Option.isSome_map]
    exact hends
  rw [receiveTurn]
  generalize c.channel.wait polls = waited at hwait ⊢
  obtain ⟨ready, channel⟩ := waited
  cases ready with
  | none => cases hwait
  | some ready =>
    dsimp only
    rw [if_pos hquitting]

namespace Site

variable {first : Host} {said : Prop} {s : Site}

theorem trusted_concat {steps : List Operation.Step} {next : Operation.Step} :
    s.Trusted (steps ++ [next]) ↔
      s.Trusted steps ∧ Faithful (s.run steps).queued next.script := by
  induction steps generalizing s with
  | nil => simp [Trusted, run]
  | cons step steps ih =>
    rw [List.cons_append, Trusted, Trusted, ih, and_assoc]
    rfl

/-- A channel that was opened has nothing in its pair. -/
theorem Whole.opened (h : Whole first said s) (hfirst : first.Fresh)
    {step : Operation.Step} (hsaid : step.script.SaysConnected → said)
    (hconnect : ∃ name port, step.operation = .connect name port)
    (hdone : (s.act step).result = some (.ok .done)) :
    ∃ connection, Open first said (s.act step).site connection 0 := by
  obtain ⟨name, port, hconnect⟩ := hconnect
  rw [Site.act, hconnect] at hdone ⊢
  cases hisOpen : (s.before step).channel.isOpen with
  | true =>
    rw [perform_connect_of_isOpen hisOpen] at hdone
    cases hdone
  | false =>
    rcases ((h.before hfirst step).connect_of_closed hfirst
      hisOpen step.genuine hsaid name port).2
      with ⟨e, hfails, _⟩ | ⟨_, _, _, hopen⟩
    · rw [hfails] at hdone
      cases hdone
    · exact hopen

/-- A wake-up stays until the channel is closed. After a channel was opened,
whatever was done before, there is none. From then on, as long as the channel is
not closed, a wait is interrupted once the channel was woken, unless its poll
fails; it is not interrupted before; and nothing but waking the channel changes
what is in its pair. So the receiving loop of a client that is to end does not
wait any longer, also if it began to before. -/
theorem wakeup_stays (first : Host) (hfirst : first.Fresh)
    (past : List Operation.Step) (opening : Operation.Step)
    (steps : List Operation.Step) (next : Operation.Step) :
    let opened := (({ host := first } : Site).run past).act opening
    let s := (opened.site.run steps).before next
    (∃ name port, opening.operation = .connect name port) →
    opened.result = some (.ok .done) →
    (∀ step ∈ steps, step.operation ≠ .close) →
    opened.site.Trusted (steps ++ [next]) →
    opened.site.queued = 0 ∧
    (next.operation = .wait →
      (opened.site.Woken steps →
        (s.perform next.script .wait).result =
          some (.ok (.waited .interrupted)) ∨
        ∃ outcome errno, (.poll, outcome) ∈ next.script ∧
          outcome.value = .error errno ∧
          errno ≠ .interrupted ∧
          (s.perform next.script .wait).result = some (.error (.poll errno))) ∧
      (¬ opened.site.Woken steps →
        (s.perform next.script .wait).result ≠
          some (.ok (.waited .interrupted)))) ∧
    (next.operation ≠ .interrupt → next.operation ≠ .close →
      (s.perform next.script next.operation).site.host.pairs = s.host.pairs) ∧
    (opened.site.Woken steps → ∀ c : Client, c.channel = s.channel →
      c.quitting = true →
      ∀ earlier : List (Except Errno (Nat × Nat)),
        (∀ outcome ∈ earlier, outcome = .error .interrupted) →
        ∀ clock call, (c.receiveTurn clock
          (earlier ++ (Session.polls ⟨s.host, next.script⟩ s.channel).1)
            call).1 = .ended) := by
  intro opened s hopening hdone hsteps htrusted
  let said := ∃ step ∈ past ++ opening :: steps, step.script.SaysConnected
  have hpast : ∀ step ∈ past, step.script.SaysConnected →
      said := fun step hstep hpretended =>
    ⟨step, List.mem_append_left _ hstep, hpretended⟩
  have hlater : ∀ step ∈ opening :: steps, step.script.SaysConnected → said :=
    fun step hstep hpretended =>
      ⟨step, List.mem_append_right _ hstep, hpretended⟩
  obtain ⟨hsaidOpening, hsaidLater⟩ := List.forall_mem_cons.mp hlater
  -- the past may have left anything but a channel that is half open
  have hwhole := (Whole.new first said).run hfirst hpast
  obtain ⟨connection, hopen⟩ := hwhole.opened hfirst hsaidOpening hopening hdone
  have hothers : ∀ other ∈ first.pairs,
      other.readEnd ≠ connection.reader := fun other hother =>
    ((hwhole.act hfirst hsaidOpening).other_pairs hfirst hopen other hother).2
  -- from then on the bytes in the pair tell whether the channel was woken
  obtain ⟨htrusted, hfaithful⟩ := trusted_concat.mp htrusted
  obtain ⟨hwhole', queued, hopen', hqueued⟩ :=
    hopen.run (hwhole.act hfirst hsaidOpening) hfirst hsaidLater hsteps htrusted
  rw [hopen'.queued_eq hothers] at hfaithful
  have hwoken : queued ≠ 0 ↔ opened.site.Woken steps := by
    rw [hqueued]
    exact or_iff_right (not_not_intro rfl)
  have hs : Open first said s connection queued :=
    hopen'.quiet ⟨next.traffic _ (hwhole'.fresh hfirst), ⟨_, rfl⟩, rfl⟩
  obtain ⟨hsome, hnone⟩ := hs.result_wait hothers hfaithful
  refine ⟨hopen.queued_eq hothers,
    fun _ => ⟨fun h => hsome (hwoken.mpr h), fun h => ?_⟩, ?_, ?_⟩
  · exact hnone (not_not.mp (mt hwoken.mp h))
  · intro hinterrupt hclose
    have hkept :=
      hs.perform_of_ne ((hwhole'.before hfirst next).fresh hfirst) next.script
      hinterrupt hclose
    rw [hkept.pairs, hs.pairs]
  · intro h c hchannel hquitting earlier hearlier clock call
    refine receiveTurn_ended hquitting (by rw [hchannel, hs.socket]; rfl)
      (by rw [hchannel, hs.wakeReader]; rfl) ?_ clock call
    rw [uninterrupted?_append hearlier]
    rcases hs.polls_cases hothers hfaithful with
      ⟨_, _, _, _, _, hends⟩ | ⟨_, _, _, hends⟩ | ⟨hqueued, _⟩
    · rw [hends]
      rfl
    · rw [hends]
      rfl
    · exact absurd hqueued (hwoken.mpr h)

/-- A channel that is opened again after a wake-up, and is woken once more: the
wait finds that, though its first poll is interrupted and the socket failed. -/
theorem wakeup_stays_until_closed :
    let host : Host := { loopbackUp := true }
    let wake : Operation.Step := .alone [] (by decide) .interrupt
    let past := [.connectLocally 9, wake, .alone [] (by decide) .close]
    let opened := (({ host } : Site).run past).act (.connectLocally 9)
    let next : Operation.Step :=
      .alone [(.poll, .fails .interrupted), (.poll, .returns 2 [56, 1])]
        (by decide) .wait
    let s :=
      (opened.site.run [.alone [] (by decide) (.send []), wake]).before next
    opened.site.queued = 0 ∧
      (s.perform next.script .wait).result = some (.ok (.waited .interrupted)) ∧
      (s.perform next.script next.operation).site.host.pairs =
        s.host.pairs := by
  intro host wake past opened next s
  have hsends : ∀ step ∈ [.alone [] (by decide) (.send []), wake],
      step.operation ≠ .close := by
    simp [Operation.Step.alone, wake]
  have hwoken : opened.site.Woken [.alone [] (by decide) (.send []), wake] :=
    Or.inr (Or.inl ⟨rfl, by decide +kernel⟩)
  have hqueued :
      (opened.site.run [.alone [] (by decide) (.send []), wake]).queued =
        1 := by
    decide +kernel
  have hfaithful : Faithful 1 next.script := by
    constructor
    · intro outcome events wakeEvents hmem hpolled
      rcases List.mem_pair.mp hmem with heq | heq <;> cases heq <;>
        cases hpolled
      decide
    · intro outcome hmem
      rcases List.mem_pair.mp hmem with heq | heq <;> cases heq
    · intro outcome hmem
      rcases List.mem_pair.mp hmem with heq | heq <;> cases heq
  have htrusted : opened.site.Trusted
      ([.alone [] (by decide) (.send []), wake] ++ [next]) :=
    trusted_concat.mpr ⟨⟨.nil _, .nil _, trivial⟩, hqueued ▸ hfaithful⟩
  obtain ⟨hnothing, hwait, hkept, _⟩ :=
    wakeup_stays host ⟨by decide, by decide⟩ past (.connectLocally 9)
      [.alone [] (by decide) (.send []), wake] next ⟨_, _, rfl⟩
        (by decide +kernel) hsends htrusted
  dsimp only [s, opened]
  refine ⟨hnothing, ?_, hkept nofun nofun⟩
  rcases (hwait rfl).1 hwoken with
    hinterrupted | ⟨outcome, errno, hmem, hvalue, hdecisive, _⟩
  · exact hinterrupted
  · rcases List.mem_pair.mp hmem with heq | heq <;> cases heq <;> cases hvalue
    exact absurd rfl hdecisive

end Site

end ClockSync.Client
