import ClockSync.Proofs.Clock.Runs

/-!
# How far a served clock is from an exact one

Changes of the offset and of the rate cut the raw time into segments, each with
a rate of its own (`segments`). An exact clock shows the raw time at which it
was started, all shifts, and for each segment its raw length times its rate
(`idealAt`). The served clock rounds once in each segment, when the anchor
leaves it or the clock is read, and that is the only difference
(`toInt_valueAt_run`). So `k` changes move it by at most `k + 1` halves of a
microsecond, and rates that are whole numbers do not move it at all
(`near_ideal`). The raw clock need not go forwards for that.
-/

namespace ClockSync.ServedClock

/-- A piece of the raw time with one rate. It is negative where the raw clock
went backwards. -/
structure Segment where
  rate : Rat
  length : Int

/-- The time that a clock with this rate goes meanwhile. -/
def Segment.time (s : Segment) : Rat := s.length * s.rate

/-- The segments from a raw reading `since` with the rate in force then, through
some acts, to the raw reading `raw`. -/
def segments (raw : Int64) (rate : Rat) (since : Int64) :
    List (Act Rat) → List Segment
  | [] => [⟨rate, raw.toInt - since.toInt⟩]
  | .addOffset now _ :: acts =>
    ⟨rate, now.toInt - since.toInt⟩ :: segments raw rate now acts
  | .setRate now next :: acts =>
    ⟨rate, now.toInt - since.toInt⟩ :: segments raw next now acts
  | _ :: acts => segments raw rate since acts

/-- What an exact clock shows at `raw` that was started at `since` and then went
through some acts. -/
def idealAt (since : Int64) (acts : List (Act Rat)) (raw : Int64) : Rat :=
  since.toInt + shifts acts + ((segments raw 1 since acts).map Segment.time).sum

/-! ## Segments -/

theorem length_segments (raw : Int64) (rate : Rat) (since : Int64)
    (acts : List (Act Rat)) :
    (segments raw rate since acts).length = acts.countP Act.isChange + 1 := by
  induction acts generalizing rate since with
  | nil => rfl
  | cons a acts ih =>
    rw [List.countP_cons]
    cases a with
    | read now => exact ih rate since
    | addOffset now delta => exact congrArg (· + 1) (ih rate now)
    | setRate now next => exact congrArg (· + 1) (ih next now)
    | reset now => exact ih rate since

/-- The rate of each segment is the one at the start or one that was set. -/
theorem forall_mem_segments {P : Rat → Prop} {raw : Int64} {rate : Rat}
    {since : Int64} {acts : List (Act Rat)} (hrate : P rate)
    (hset : ∀ now next, .setRate now next ∈ acts → P next) :
    ∀ s ∈ segments raw rate since acts, P s.rate := by
  induction acts generalizing rate since with
  | nil =>
    intro s hs
    rw [List.mem_singleton.mp hs]
    exact hrate
  | cons a acts ih =>
    have hlater := fun now next h => hset now next (List.mem_cons_of_mem a h)
    cases a with
    | read now => exact ih hrate hlater
    | addOffset now delta =>
      exact List.forall_mem_cons.mpr ⟨hrate, ih hrate hlater⟩
    | setRate now next =>
      exact List.forall_mem_cons.mpr ⟨hrate,
        ih (hset now next List.mem_cons_self) hlater⟩
    | reset now => exact ih hrate hlater

/-! ## What the clock shows -/

/-- The time of the segment from the anchor on, rounded, is what the clock has
gone since. -/
theorem roundHalfAway_time (c : ServedClock Rat) (raw : Int64) :
    Scalar.roundHalfAway (Segment.time ⟨c.rate, raw.toInt - c.anchor.toInt⟩) =
      c.gone raw := rfl

/-- Without a reset the clock shows what it showed at its anchor, the shifts,
and the time of each segment, rounded. -/
theorem toInt_valueAt_run {c : ServedClock Rat} {acts : List (Act Rat)}
    {raw : Int64} (hreset : ∀ a ∈ acts, a.isReset = false)
    (h : c.RunFits (acts ++ [.read raw])) :
    ((c.run acts).valueAt raw).toInt = c.shown.toInt + shifts acts +
      ((segments raw c.rate c.anchor acts).map fun s =>
        Scalar.roundHalfAway s.time).sum := by
  induction acts generalizing c with
  | nil =>
    rw [run_nil, toInt_valueAt h.1]
    simp [segments, shifts, roundHalfAway_time]
  | cons a acts ih =>
    obtain ⟨hfirst, hlater⟩ := h
    obtain ⟨ha, hacts⟩ := List.forall_mem_cons.mp hreset
    have hrest := ih hacts hlater
    cases a with
    | read now => simpa [segments, shifts, Act.delta, step] using hrest
    | addOffset now delta =>
      -- the anchor is moved to the end of the segment, rounding its time
      have hshown : (c.addOffset now delta).shown.toInt =
          c.shown.toInt + c.gone now + delta.toInt := by
        rw [← toInt_valueAt hfirst.1]
        exact hfirst.2.toInt_add
      rw [run_cons, hrest, step, hshown]
      simp only [segments, shifts, List.map_cons, List.sum_cons, Act.delta,
        roundHalfAway_time]
      show _ + ((segments raw c.rate now acts).map _).sum = _
      omega
    | setRate now next =>
      have hshown : (c.setRate now next).shown.toInt =
          c.shown.toInt + c.gone now :=
        toInt_valueAt hfirst
      rw [run_cons, hrest, step, hshown]
      simp only [segments, shifts, List.map_cons, List.sum_cons, Act.delta,
        roundHalfAway_time]
      show _ + ((segments raw next now acts).map _).sum = _
      omega
    | reset now => cases ha

/-- After any acts, at any raw readings, let `k` be the number of changes of
offset and rate since the last reset. What the clock shows is at most `k + 1`
halves away from what an exact clock shows that was started at that reset, and
if all rates that were set are whole numbers it is the same. At the moment of
the change a new rate makes no difference to what the clock shows, and a shift
makes just its own. -/
theorem near_ideal (first : Int64) (acts : List (Act Rat)) (raw : Int64)
    (hfits :
      (start (epoch first acts)).RunFits (sinceReset acts ++ [.read raw])) :
    let c : ServedClock Rat := (start first).run acts
    let shown : Int := (c.valueAt raw).toInt
    let ideal := idealAt (epoch first acts) (sinceReset acts) raw
    |shown - ideal| ≤ ((sinceReset acts).countP Act.isChange + 1 : Nat) / 2 ∧
      ((∀ (now : Int64) (rate : Rat), .setRate now rate ∈ sinceReset acts →
        ∃ n : Int, rate = n) → shown = ideal) ∧
      (∀ rate, ((c.setRate raw rate).valueAt raw).toInt = shown) ∧
      ∀ delta, IsWord (shown + delta.toInt) →
        ((c.addOffset raw delta).valueAt raw).toInt = shown + delta.toInt := by
  intro c shown ideal
  have hshown : shown = (epoch first acts).toInt + shifts (sinceReset acts) +
      ((segments raw 1 (epoch first acts) (sinceReset acts)).map
        fun s => Scalar.roundHalfAway s.time).sum := by
    have hrun :=
      toInt_valueAt_run (fun a ha => isReset_of_mem_sinceReset ha) hfits
    rw [← run_sinceReset] at hrun
    exact hrun
  have hideal : ideal = (epoch first acts).toInt + shifts (sinceReset acts) +
      ((segments raw 1 (epoch first acts) (sinceReset acts)).map
        Segment.time).sum := rfl
  rw [hideal, hshown, Int.cast_add, Int.cast_add]
  refine ⟨?_, ?_, ?_, ?_⟩
  · have hbound := Scalar.abs_sum_roundHalfAway_sub_le
      ((segments raw 1 (epoch first acts) (sinceReset acts)).map Segment.time)
    rw [List.map_map, List.length_map, length_segments] at hbound
    rw [add_sub_add_left_eq_sub]
    exact hbound
  · intro hwhole
    have htimes : ∀ q ∈
        (segments raw 1 (epoch first acts) (sinceReset acts)).map Segment.time,
        ∃ n : Int, q = n := by
      rw [List.forall_mem_map]
      intro s hs
      obtain ⟨n, hn⟩ :=
        forall_mem_segments (P := fun rate => ∃ n : Int, rate = n)
        ⟨1, Int.cast_one.symm⟩ hwhole s hs
      exact ⟨s.length * n, by rw [Segment.time, hn, Int.cast_mul]⟩
    have hsum := Scalar.sum_roundHalfAway_of_whole htimes
    rw [List.map_map] at hsum
    exact congrArg _ hsum
  · intro rate
    rw [valueAt_setRate]
    exact hshown
  · intro delta hdelta
    rw [← hshown] at hdelta ⊢
    rw [valueAt_addOffset]
    exact hdelta.toInt_add

/-- At half the rate each odd microsecond is rounded up, and so are those after
the raw clock could not be read and counted as zero. -/
theorem near_ideal_at_half_rate :
    let acts : List (Act Rat) :=
      [.addOffset 50 7, .reset 100, .setRate 100 (1 / 2),
        .addOffset 101 (-30), .read 103,
        .addOffset 102 0, .addOffset 0 5]
    let c : ServedClock Rat := (start 50).run acts
    (start (epoch 50 acts)).RunFits (sinceReset acts ++ [.read 1]) ∧
      (c.valueAt 1).toInt = 27 ∧
      idealAt (epoch 50 acts) (sinceReset acts) 1 = 51 / 2 ∧
      |((c.valueAt 1).toInt : Rat) -
        idealAt (epoch 50 acts) (sinceReset acts) 1| ≤
        (4 + 1 : Nat) / 2 := by
  intro acts c
  have hfits :
      (start (epoch 50 acts)).RunFits (sinceReset acts ++ [.read 1]) := by
    decide +kernel
  obtain ⟨hnear, _⟩ := near_ideal 50 acts 1 hfits
  exact ⟨hfits, by decide +kernel, by decide +kernel, hnear⟩

end ClockSync.ServedClock
