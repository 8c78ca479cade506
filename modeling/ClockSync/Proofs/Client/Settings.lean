import ClockSync.Proofs.Client.Runs
import ClockSync.Proofs.LastValues
import ClockSync.Proofs.Numeric.Arithmetic

/-!
# Options that are in force

Options are built by settings, from the defaults or from options that were built
before (`Build`). Each of them is what the last setting of its own made of it
(`Follows`), and whatever settings there were, all of them make sense
(`Options.Valid`).

A client keeps the threshold twice: in its options and in its estimator. They
are set together and at no other time, so they agree in every state of a client
that was given only options that were built (`Governed`).
-/

namespace ClockSync.Client

open Net Wire

/-! ## Settings -/

/-- An option by name. -/
inductive Field where
  | interval
  | scale
  | measuresAccuracy
  | outlierThreshold
  | sink
deriving DecidableEq, Repr

namespace Setting

/-- The option that a setting is about. -/
def field : Setting → Field
  | interval _ => .interval
  | scale _ => .scale
  | measuresAccuracy _ => .measuresAccuracy
  | outlierThreshold _ => .outlierThreshold
  | sink _ => .sink

/-- The interval that a setting gives: at least a millisecond. -/
def interval? : Setting → Option Int32
  | interval milliseconds => some (max 1 milliseconds)
  | _ => none

/-- The scale that a setting gives; one that is not positive gives none. -/
def scale? : Setting → Option Float
  | scale factor => if 0.0 < factor then some factor else none
  | _ => none

/-- Whether a setting has the client measure its accuracy. -/
def measuresAccuracy? : Setting → Option Bool
  | measuresAccuracy on => some on
  | _ => none

/-- The threshold that a setting gives: at least zero. -/
def outlierThreshold? : Setting → Option Int64
  | outlierThreshold microseconds => some (max 0 microseconds)
  | _ => none

/-- The sink that a setting gives. -/
def sink? : Setting → Option (Option LogSink)
  | sink chosen => some chosen
  | _ => none

end Setting

theorem ite_lt_one_eq_max (milliseconds : Int32) :
    (if milliseconds < 1 then 1 else milliseconds) = max 1 milliseconds := by
  show _ = if 1 ≤ milliseconds then milliseconds else 1
  by_cases h : milliseconds < 1
  · rw [if_pos h, if_neg (Int32.not_le.mpr h)]
  · rw [if_neg h, if_pos (Int32.not_lt.mp h)]

theorem atLeastZero_eq_max (microseconds : Int64) :
    Estimator.atLeastZero microseconds = max 0 microseconds := by
  show (if microseconds < 0 then 0 else microseconds) =
    if 0 ≤ microseconds then microseconds else 0
  by_cases h : microseconds < 0
  · rw [if_pos h, if_neg (Int64.not_le.mpr h)]
  · rw [if_neg h, if_pos (Int64.not_lt.mp h)]

namespace Options

/-! ## Fields -/

/-- Every option is the one that was set last, or is as it was before the
settings. -/
structure Follows (o : Options) (settings : List Setting) (before : Options) :
    Prop where
  interval : o.interval = lastValue Setting.interval? before.interval settings
  scale : o.scale = lastValue Setting.scale? before.scale settings
  measuresAccuracy :
    o.measuresAccuracy =
      lastValue Setting.measuresAccuracy? before.measuresAccuracy settings
  outlierThreshold :
    o.outlierThreshold =
      lastValue Setting.outlierThreshold? before.outlierThreshold settings
  sink : o.sink = lastValue Setting.sink? before.sink settings

/-- A setting changes the options by the values that it gives, and it gives at
most one. -/
theorem set_eq (o : Options) (s : Setting) :
    o.set s =
      { interval := s.interval?.getD o.interval
        scale := s.scale?.getD o.scale
        measuresAccuracy := s.measuresAccuracy?.getD o.measuresAccuracy
        outlierThreshold := s.outlierThreshold?.getD o.outlierThreshold
        sink := s.sink?.getD o.sink } := by
  cases s with
  | interval milliseconds =>
    rw [set, ite_lt_one_eq_max]
    rfl
  | scale factor =>
    rw [set, Setting.scale?]
    split <;> rfl
  | outlierThreshold microseconds =>
    rw [set, atLeastZero_eq_max]
    rfl
  | _ => rfl

theorem follows_setAll (o : Options) (settings : List Setting) :
    (o.setAll settings).Follows settings o where
  interval := foldl_eq_lastValue interval
    (fun o s => congrArg interval (set_eq o s)) o settings
  scale :=
    foldl_eq_lastValue scale (fun o s => congrArg scale (set_eq o s)) o settings
  measuresAccuracy := foldl_eq_lastValue measuresAccuracy
    (fun o s => congrArg measuresAccuracy (set_eq o s)) o settings
  outlierThreshold := foldl_eq_lastValue outlierThreshold
    (fun o s => congrArg outlierThreshold (set_eq o s)) o settings
  sink :=
    foldl_eq_lastValue sink (fun o s => congrArg sink (set_eq o s)) o settings

/-- Settings of different options can be exchanged. -/
theorem set_comm (o : Options) {s t : Setting} (h : s.field ≠ t.field) :
    (o.set s).set t = (o.set t).set s := by
  simp only [set_eq]
  cases s <;> cases t <;>
    simp_all [Setting.field, Setting.interval?, Setting.scale?,
    Setting.measuresAccuracy?, Setting.outlierThreshold?, Setting.sink?]

theorem setAll_exchange (o : Options) {s t : Setting} (h : s.field ≠ t.field)
    (earlier later : List Setting) :
    o.setAll (earlier ++ s :: t :: later) =
      o.setAll (earlier ++ t :: s :: later) := by
  simp only [setAll, List.foldl_append, List.foldl_cons, set_comm _ h]

/-! ## Options that make sense -/

/-- There is time between two requests, the scale is a positive number, and the
threshold is not below zero. -/
structure Valid (o : Options) : Prop where
  one_le_interval : 1 ≤ o.interval
  scale_pos : 0.0 < o.scale
  scale_isNaN : o.scale.isNaN = false
  outlierThreshold_nonneg : 0 ≤ o.outlierThreshold

theorem valid_default : default.Valid :=
  ⟨by decide, by decide +kernel, by decide +kernel, by decide⟩

theorem Valid.set {o : Options} (h : o.Valid) (s : Setting) :
    (o.set s).Valid := by
  cases s with
  | interval milliseconds =>
    refine { h with one_le_interval := ?_ }
    show 1 ≤ if milliseconds < 1 then 1 else milliseconds
    split
    · exact Int32.le_refl 1
    · next hpos => exact Int32.not_lt.mp hpos
  | scale factor =>
    rw [Options.set]
    split
    · next hpos =>
      exact { h with
        scale_pos := hpos
        scale_isNaN := (Binary64.not_isNaN_of_le (Binary64.le_of_lt hpos)).2 }
    · exact h
  | outlierThreshold microseconds =>
    refine { h with outlierThreshold_nonneg := ?_ }
    show 0 ≤ if microseconds < 0 then 0 else microseconds
    split
    · exact Int64.le_refl 0
    · next hpos => exact Int64.not_lt.mp hpos
  | _ => exact { h with }

theorem Valid.setAll {o : Options} (h : o.Valid) (settings : List Setting) :
    (o.setAll settings).Valid := by
  induction settings generalizing o with
  | nil => exact h
  | cons s settings ih => exact ih (h.set s)

end Options

/-! ## Builds -/

/-- How options were built: from the defaults, or from options that were built
before, and by which settings. -/
inductive Build where
  | fresh (settings : List Setting)
  | onto (base : Build) (settings : List Setting)

namespace Build

/-- The options that were built. -/
def options : Build → Options
  | fresh settings => Options.default.setAll settings
  | onto base settings => base.options.setAll settings

/-- All settings since the defaults. -/
def settings : Build → List Setting
  | fresh settings => settings
  | onto base settings => base.settings ++ settings

theorem options_eq (b : Build) :
    b.options = Options.default.setAll b.settings := by
  induction b with
  | fresh settings => rfl
  | onto base settings ih =>
    rw [options, ih, Build.settings, Options.setAll, Options.setAll,
      Options.setAll, List.foldl_append]

theorem valid (b : Build) : b.options.Valid := by
  rw [options_eq]
  exact Options.valid_default.setAll b.settings

theorem follows (b : Build) : b.options.Follows b.settings .default := by
  rw [options_eq]
  exact Options.follows_setAll .default b.settings

end Build

/-! ## Options in force -/

/-- The options that an act puts in force, if it goes well. -/
def Act.options? : Act → Option Options
  | .start _ options _ => some options
  | .setOptions options => some options
  | _ => none

/-- The options in force were built, and the estimator goes by their
threshold. -/
structure Governed (c : Client) : Prop where
  built : ∃ b : Build, c.options = b.options
  threshold : c.estimator.threshold = c.options.outlierThreshold

namespace Governed

variable {c : Client}

/-- The threshold of options that were built is taken over as it is. -/
theorem of_built (b : Build) (hoptions : c.options = b.options)
    (hthreshold : c.estimator.threshold =
      Estimator.atLeastZero b.options.outlierThreshold) :
    c.Governed := by
  refine ⟨⟨b, hoptions⟩, ?_⟩
  rw [hthreshold, hoptions, Estimator.atLeastZero,
    if_neg (Int64.not_lt.mpr b.valid.outlierThreshold_nonneg)]

theorem step (h : c.Governed) {act : Act}
    (hact : ∀ o ∈ act.options?, ∃ b : Build, o = b.options) :
    (c.step act).Governed := by
  cases act with
  | start source options attempt =>
    rw [Client.step]
    rcases c.start_cases source options attempt with
      ⟨_, error, heq⟩ | ⟨_, _, _, remote, socket, pair, _, heq⟩
    · rw [heq]
      exact ⟨h.built, h.threshold⟩
    · rw [heq]
      obtain ⟨b, rfl⟩ := hact options rfl
      exact of_built b rfl rfl
  | setOptions options =>
    obtain ⟨b, rfl⟩ := hact options rfl
    exact of_built b rfl rfl
  | request clock call =>
    obtain ⟨error, heq⟩ := c.sendRequest_client clock call
    rw [Client.step]
    split
    · rw [heq]
      exact ⟨h.built, h.threshold⟩
    · exact h
  | turn clock polls received =>
    rcases c.step_turn_cases clock polls received with
      ⟨x, _, heq⟩ | ⟨_, error, heq⟩
    · rw [heq]
      exact ⟨h.built, (Estimator.ingest_threshold _ x).trans h.threshold⟩
    · rw [heq]
      exact ⟨h.built, h.threshold⟩
  | askAccuracy waits forgets =>
    rw [Client.step, askAccuracy_client]
    split
    · exact ⟨h.built, h.threshold⟩
    · exact h
  | shutdown writes lastPolls =>
    rcases c.step_shutdown_cases writes lastPolls with
      ⟨_, channel, heq⟩ | ⟨_, heq⟩
    · rw [heq]
      exact ⟨h.built, h.threshold⟩
    · rw [heq]
      exact h

theorem run (h : c.Governed) {acts : List Act}
    (hacts : ∀ o ∈ acts.filterMap Act.options?, ∃ b : Build, o = b.options) :
    (c.run acts).Governed := by
  induction acts generalizing c with
  | nil => exact h
  | cons act acts ih =>
    refine ih (h.step fun o ho => hacts o ?_) fun o ho => hacts o ?_
    · exact List.mem_filterMap.mpr ⟨act, List.mem_cons_self, ho⟩
    · obtain ⟨act', hact', ho'⟩ := List.mem_filterMap.mp ho
      exact List.mem_filterMap.mpr ⟨act', List.mem_cons_of_mem act hact', ho'⟩

/-- A client that was told nothing goes by the defaults. -/
theorem new : ({} : Client).Governed := ⟨⟨.fresh [], rfl⟩, rfl⟩

end Governed

/-- Options that were built make sense, and each of them is the one set last
since the defaults, so settings of different options can be exchanged anywhere.
In every state that a client can get to by being given options that were built,
the options in force were built, too, and the estimator goes by their
threshold. -/
theorem options_agree :
    (∀ b : Build, b.options.Valid ∧ b.options.Follows b.settings .default) ∧
    (∀ (o : Options) (earlier later : List Setting) (s t : Setting),
      s.field ≠ t.field →
      o.setAll (earlier ++ s :: t :: later) =
        o.setAll (earlier ++ t :: s :: later)) ∧
    ∀ acts : List Act,
      (∀ o ∈ acts.filterMap Act.options?, ∃ b : Build, o = b.options) →
      let c := ({} : Client).run acts
      c.estimator.threshold = c.options.outlierThreshold ∧
        ∃ b : Build, c.options = b.options := by
  refine ⟨fun b => ⟨b.valid, b.follows⟩, fun o earlier later s t h => ?_,
    fun acts hacts => ?_⟩
  · exact Options.setAll_exchange o h earlier later
  · have hgoverned := Governed.new.run hacts
    exact ⟨hgoverned.threshold, hgoverned.built⟩

/-- A start that fails, one that goes well, and then options with a threshold
below zero and a scale that is no number. -/
theorem options_agree_of_refused_settings :
    let b : Build := .onto (.fresh [.outlierThreshold 3, .scale 0.001])
      [.outlierThreshold (-7), .scale (0.0 / 0.0)]
    let acts : List Act :=
      [.start .standard (Build.fresh [.outlierThreshold 5]).options
          (.unresolved ⟨"nowhere", .noAddress⟩),
        .start .standard (Build.fresh [.outlierThreshold 3]).options
          (.complete ⟨"127.0.0.1", 4318⟩ 3 (some (4, 5))),
        .setOptions b.options]
    let c := ({} : Client).run acts
    (∀ o ∈ acts.filterMap Act.options?, ∃ b : Build, o = b.options) ∧
      c.estimator.threshold = c.options.outlierThreshold ∧
      c.options.outlierThreshold = 0 ∧
      c.options.scale = 0.001 := by
  intro b acts c
  have hbuilt : ∀ o ∈ acts.filterMap Act.options?,
      ∃ b : Build, o = b.options := by
    simp only [acts, List.filterMap_cons, Act.options?, List.filterMap_nil,
      List.forall_mem_cons]
    exact ⟨⟨_, rfl⟩, ⟨_, rfl⟩, ⟨_, rfl⟩, by simp⟩
  exact ⟨hbuilt, (options_agree.2.2 acts hbuilt).1, by decide +kernel,
    by decide +kernel⟩

end ClockSync.Client
