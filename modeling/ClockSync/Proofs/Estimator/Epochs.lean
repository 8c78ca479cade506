import ClockSync.Proofs.Estimator.Runs

/-!
# Clocks with other epochs

Stamps are compared by differences only, and differences wrap around. So it
makes no difference when the clocks were started: if every stamp of the local
clock is moved by one amount and every stamp of the remote clock by another, an
estimator goes through the same verdicts, round trips and rates, and what it
keeps is moved by these amounts (`shiftedBy_run`). This holds across every point
at which a stamp changes its sign or starts anew.
-/

namespace ClockSync

/-- The same exchange, stamped by a local clock that is ahead by `c` and a
remote clock that is ahead by `r`. -/
def Exchange.shift (c r : UInt64) (x : Exchange) : Exchange where
  sentAt := x.sentAt + c
  remoteTime := x.remoteTime + r
  receivedAt := (x.receivedAt.toUInt64 + c).toInt64

/-- The same sample, measured by a local clock that is ahead by `c` and a remote
clock that is ahead by `r`. -/
def Sample.shift (c r : UInt64) (s : Sample) : Sample where
  localTime := s.localTime + c.toInt64
  remoteTime := s.remoteTime + r.toInt64

/-! ## Differences of shifted stamps -/

theorem Stamp.signed_add (a c : UInt64) :
    signed (a + c) = signed a + c.toInt64 := by
  rw [signed, signed, difference_eq, difference_eq, UInt64.sub_zero,
    UInt64.sub_zero, UInt64.toInt64_add]

theorem Stamp.difference_add_add (a b c d : UInt64) :
    difference (a + c) (b + d) = difference a b + (c - d).toInt64 := by
  have hsub : a + c - (b + d) = a - b + (c - d) := by grind
  rw [difference_eq, difference_eq, hsub, UInt64.toInt64_add]

theorem Stamp.elapsed_add_add (later earlier d : Int64) :
    elapsed (later + d) (earlier + d) = elapsed later earlier := by
  rw [elapsed_eq_sub, elapsed_eq_sub]
  grind

namespace Exchange

variable (c r : UInt64) (x : Exchange)

/-- Both ends of a round trip are read off the same clock. -/
@[simp] theorem delay_shift : (x.shift c r).delay = x.delay := by
  have hsub : x.receivedAt.toUInt64 + c - (x.sentAt + c) =
      x.receivedAt.toUInt64 - x.sentAt := by
    grind
  rw [delay_eq_toNat, delay_eq_toNat, shift, UInt64.toUInt64_toInt64, hsub]

@[simp] theorem valid_shift : (x.shift c r).Valid ↔ x.Valid := by
  rw [Valid, Valid, delay_shift]

theorem ofExchange_shift :
    Sample.ofExchange (x.shift c r) = (Sample.ofExchange x).shift c r := by
  rw [Sample.ofExchange, Sample.ofExchange, Sample.shift, shift,
    Stamp.signed_add, Stamp.signed_add]

end Exchange

/-- If the contents of one window are those of another seen through `f`, they
are so after pushes of a value and its image. -/
theorem Window.toList_push_map {requested : Nat} {α β : Type}
    {v : Window requested β} {w : Window requested α} {f : α → β}
    (h : v.toList = w.toList.map f) (a : α) :
    (v.push (f a)).toList = (w.push a).toList.map f := by
  rw [toList_push, toList_push, h, map_rtake, List.map_append]
  rfl

namespace Estimator

variable {α : Type}

/-! ## Slopes -/

section Slopes

variable [Scalar α]

theorem slope?_shift (c r : UInt64) (first last : Sample) :
    (slope? (first.shift c r) (last.shift c r) : Option α) =
      slope? first last := by
  rw [slope?, slope?, Sample.shift, Sample.shift, Stamp.elapsed_add_add,
    Stamp.elapsed_add_add]

theorem slopeOf?_of_map_shift {v w : Window windowCapacity Sample}
    {c r : UInt64} (h : v.toList = w.toList.map (Sample.shift c r)) :
    (slopeOf? v : Option α) = slopeOf? w := by
  have hsize : v.size = w.size := by
    rw [Window.size, h, List.length_map, Window.size]
  have hfirst : v.oldest? = w.oldest?.map (Sample.shift c r) := by
    rw [Window.oldest?, h, List.head?_map, Window.oldest?]
  have hlast : v.newest? = w.newest?.map (Sample.shift c r) := by
    rw [Window.newest?, h, List.getLast?_map, Window.newest?]
  unfold slopeOf?
  rw [hsize, hfirst, hlast]
  cases w.oldest? with
  | none => rfl
  | some first =>
    cases w.newest? with
    | none => rfl
    | some last => simp only [Option.map_some, slope?_shift]

end Slopes

/-! ## Two runs -/

/-- The same call, its stamps taken by clocks that are ahead by `c` and `r`. -/
def Call.shift (c r : UInt64) : Call → Call
  | .ingest x => .ingest (x.shift c r)
  | call => call

/-- The second estimator is what the first one is to clocks that are ahead by
`c` and `r`. -/
structure ShiftedBy (c r : UInt64) (e e' : Estimator α) : Prop where
  threshold : e'.threshold = e.threshold
  roundTrips : e'.roundTrips = e.roundTrips
  samples : e'.samples.toList = e.samples.toList.map (Sample.shift c r)
  offsets : e'.offsets.toList = e.offsets.toList.map (· + (r - c).toInt64)
  rate : e'.rate = e.rate
  stats : e'.stats = e.stats

namespace ShiftedBy

variable {c r : UInt64} {e e' : Estimator α}

theorem medianRoundTrip (h : ShiftedBy c r e e') :
    e'.medianRoundTrip = e.medianRoundTrip := by
  rw [Estimator.medianRoundTrip, h.roundTrips, Estimator.medianRoundTrip]

theorem noteReceived (h : ShiftedBy c r e e') :
    ShiftedBy c r e.noteReceived e'.noteReceived :=
  { h with stats := by simp only [Estimator.noteReceived, h.stats] }

theorem noteRejected (h : ShiftedBy c r e e') :
    ShiftedBy c r e.noteRejected e'.noteRejected :=
  { h with stats := by simp only [Estimator.noteRejected, h.stats] }

theorem recorded (h : ShiftedBy c r e e') (x : Exchange) :
    ShiftedBy c r (e.recorded x) (e'.recorded (x.shift c r)) :=
  { h with
    roundTrips := by
      simp only [Estimator.recorded, h.roundTrips, Exchange.delay_shift] }

variable [Scalar α]

/-- Before the first reply there is nothing to shift. -/
theorem new (c r : UInt64) (threshold : Int64) :
    ShiftedBy c r (Estimator.new threshold : Estimator α)
      (Estimator.new threshold) :=
  ⟨rfl, rfl, rfl, rfl, rfl, rfl⟩

theorem accept (h : ShiftedBy c r e e') (x : Exchange) :
    ShiftedBy c r (e.accept x) (e'.accept (x.shift c r)) := by
  have hsamples : (e'.samples.push (.ofExchange (x.shift c r))).toList =
      (e.samples.push (.ofExchange x)).toList.map (Sample.shift c r) := by
    rw [Exchange.ofExchange_shift]
    exact Window.toList_push_map h.samples _
  have hoffsets : (e'.offsets.push
        (Stamp.difference (x.shift c r).remoteTime
          (x.shift c r).sentAt)).toList =
      (e.offsets.push (Stamp.difference x.remoteTime x.sentAt)).toList.map
        (· + (r - c).toInt64) := by
    rw [Exchange.shift, Stamp.difference_add_add]
    exact Window.toList_push_map h.offsets _
  refine ⟨h.threshold, h.roundTrips, hsamples, hoffsets, ?_, h.stats⟩
  -- the rate stays where the samples have no slope, and they have the same
  -- slopes
  simp only [Estimator.accept, slopeOf?_of_map_shift hsamples, h.rate]

/-- A reply gets the same verdict from both, and leaves them shifted as
before. -/
theorem ingest (h : ShiftedBy c r e e') (x : Exchange) :
    (e'.ingest (x.shift c r)).1 = (e.ingest x).1 ∧
      ShiftedBy c r (e.ingest x).2 (e'.ingest (x.shift c r)).2 := by
  have hmedian := (h.recorded x).medianRoundTrip
  rcases e.ingest_cases x with
    ⟨hnot, heq⟩ | ⟨hvalid, hfar, heq⟩ | ⟨hvalid, hnear, heq⟩
  · rw [heq, e'.ingest_of_not_valid (mt (Exchange.valid_shift c r x).mp hnot)]
    exact ⟨rfl, h.noteReceived.noteRejected⟩
  · rw [heq, e'.ingest_of_far ((Exchange.valid_shift c r x).mpr hvalid)
      (by rwa [Exchange.delay_shift, hmedian, h.threshold])]
    exact ⟨rfl, (h.noteReceived.recorded x).noteRejected⟩
  · rw [heq, e'.ingest_of_near ((Exchange.valid_shift c r x).mpr hvalid)
      (by rwa [Exchange.delay_shift, hmedian, h.threshold])]
    exact ⟨rfl, (h.noteReceived.recorded x).accept x⟩

theorem step (h : ShiftedBy c r e e') (call : Call) :
    ShiftedBy c r (e.step call) (e'.step (call.shift c r)) := by
  cases call with
  | ingest x => exact (h.ingest x).2
  | noteSent =>
    exact { h with
      stats := by
        simp only [Estimator.step, Call.shift, Estimator.noteSent, h.stats] }
  | setThreshold threshold => exact { h with threshold := rfl }
  | reset => exact ⟨h.threshold, rfl, rfl, rfl, rfl, rfl⟩

theorem run (h : ShiftedBy c r e e') (calls : List Call) :
    ShiftedBy c r (e.run calls) (e'.run (calls.map (Call.shift c r))) := by
  induction calls generalizing e e' with
  | nil => exact h
  | cons call calls ih => exact ih (h.step call)

end ShiftedBy

variable [Scalar α]

/-- Two estimators that were told the same by clocks of which the second ones
are ahead by `c` and `r` have the same round trips, median, rate and counts
after any calls; their samples and offsets differ by the shift of the clocks,
and the next reply gets the same verdict from both. -/
theorem shiftedBy_run (threshold : Int64) (calls : List Call) (c r : UInt64) :
    let e : Estimator α := (new threshold).run calls
    let e' : Estimator α := (new threshold).run (calls.map (Call.shift c r))
    ShiftedBy c r e e' ∧ e'.medianRoundTrip = e.medianRoundTrip ∧
      ∀ x : Exchange, (e'.ingest (x.shift c r)).1 = (e.ingest x).1 := by
  intro e e'
  have h : ShiftedBy c r e e' := (ShiftedBy.new c r threshold).run calls
  exact ⟨h, h.medianRoundTrip, fun x => (h.ingest x).1⟩

/-- A remote clock that starts anew between two replies, and one that does
not. -/
example :
    (((new 10000 : Estimator Rat).run
        [.ingest ⟨0, 0xffffffffffffff9c, 10⟩, .ingest ⟨100, 100, 110⟩]).rate,
      ((new 10000 : Estimator Rat).run
        [.ingest ⟨0, 0, 10⟩, .ingest ⟨100, 200, 110⟩]).rate) = (2, 2) := by
  decide +kernel

end Estimator

end ClockSync
