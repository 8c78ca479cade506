import ClockSync.CommandLine.ReflectorCommand
import ClockSync.Proofs.CommandLine.Groups
import ClockSync.Proofs.LastValues

/-!
# The arguments of the command that starts a reflector

As for the client, `split` reads one complete group after the other (`reads`),
each field of the configuration has the value of its last group
(`Config.follows_ofGroups`), and groups of different kinds can be exchanged
(`Config.apply_comm`).
-/

namespace ClockSync.CommandLine.ReflectorCommand

open Net

/-! ## Groups -/

/-- The group that some arguments are, if they are a complete one. -/
def group? : List String → Option Group
  | ["--port", value] => some (.port value)
  | ["--offset", value] => some (.offset value)
  | ["--rate", value] => some (.rate value)
  | ["-v"] => some .verbose
  | ["--verbose"] => some .verbose
  | _ => none

/-- The options that take a value. -/
def valueOptions : List String := ["--port", "--offset", "--rate"]

/-- What an argument that starts no complete group does. -/
def stopOf (a : String) : Stop :=
  if a = "-h" ∨ a = "--help" then .help else .unknown a

theorem outcome_stopOf (a : String) :
    (stopOf a).outcome =
      if a = "-h" ∨ a = "--help" then (0, [.usage])
      else (2, [.unknown a, .usage]) := by
  rw [stopOf]
  split <;> rfl

theorem group?_singleton (a : String) :
    group? [a] = if a = "-v" ∨ a = "--verbose" then some .verbose
      else none := by
  rw [group?.eq_def]
  split <;> simp_all

theorem reads : ReadsOptions valueOptions group? stopOf split where
  complete {piece} h := by
    rw [group?.eq_def] at h
    split at h
    · exact .inr ⟨_, _, rfl, by decide⟩
    · exact .inr ⟨_, _, rfl, by decide⟩
    · exact .inr ⟨_, _, rfl, by decide⟩
    · exact .inl ⟨_, rfl, by decide⟩
    · exact .inl ⟨_, rfl, by decide⟩
    · cases h
  nil := rfl
  alone {a rest} h := by
    rw [group?_singleton, stopOf]
    cases rest with
    | nil =>
      simp only [split]
      split_ifs <;> rfl
    | cons b rest =>
      have hno : a ∉ valueOptions := fun hmem => List.cons_ne_nil _ _ (h hmem)
      simp only [valueOptions, List.mem_cons, List.not_mem_nil, or_false,
        not_or] at hno
      rw [split, if_neg hno.1, if_neg hno.2.1, if_neg hno.2.2]
      split_ifs <;> rfl
  valued {a} ha value := by
    simp only [valueOptions, List.mem_cons, List.not_mem_nil, or_false] at ha
    rcases ha with rfl | rfl | rfl
    · exact ⟨.port value, rfl, fun rest => by simp [split]⟩
    · exact ⟨.offset value, rfl, fun rest => by simp [split]⟩
    · exact ⟨.rate value, rfl, fun rest => by simp [split]⟩

/-! ## Configurations -/

/-- A configuration has for each option the value of its last group. -/
structure Config.Follows (c : Config) (groups : List Group) : Prop where
  port : c.port =
    lastValue (fun | .port value => some (Numeral.uint16 value) | _ => none)
      defaultPort groups
  offset : c.offset =
    lastValue (fun | .offset value => some (Numeral.int64 value) | _ => none)
      0 groups
  rate : c.rate =
    lastValue (fun | .rate value => some (Numeral.float value) | _ => none)
      1.0 groups
  verbose :
    c.verbose = lastValue (fun | .verbose => some true | _ => none) false groups

theorem Config.follows_ofGroups (groups : List Group) :
    (ofGroups groups).Follows groups where
  port :=
    foldl_eq_lastValue Config.port (fun c g => by cases g <;> rfl) {} groups
  offset :=
    foldl_eq_lastValue Config.offset (fun c g => by cases g <;> rfl) {} groups
  rate :=
    foldl_eq_lastValue Config.rate (fun c g => by cases g <;> rfl) {} groups
  verbose :=
    foldl_eq_lastValue Config.verbose (fun c g => by cases g <;> rfl) {} groups

/-- Groups of different kinds can be exchanged. -/
theorem Config.apply_comm (c : Config) {a b : Group}
    (h : a.ctorIdx ≠ b.ctorIdx) :
    (c.apply a).apply b = (c.apply b).apply a := by
  cases a <;> cases b <;> first | exact absurd rfl h | rfl

theorem Config.ofGroups_of_perm {groups groups' : List Group}
    (hkinds : (groups.map Group.ctorIdx).Nodup) (hperm : groups.Perm groups') :
    ofGroups groups = ofGroups groups' := by
  rw [ofGroups, ofGroups]
  exact foldl_of_perm (fun c _ _ => apply_comm c) hkinds hperm {}

/-! ## The command -/

/-- The command, run in a session that datagrams are sent in. -/
def command (s : Reflector.Session) (raw : Readings)
    (datagrams : List (List Int64 × Wire.Bytes)) :
    Command Group Stop Config Run where
  group? := group?
  kind := Group.ctorIdx
  split := split
  stopOf := stopOf
  configure := .ofGroups
  run arguments := run s raw arguments datagrams

theorem wellMade (s : Reflector.Session) (raw : Readings)
    (datagrams : List (List Int64 × Wire.Bytes)) :
    (command s raw datagrams).WellMade valueOptions fun stop =>
      ⟨stop.outcome.1, stop.outcome.2, []⟩ where
  reads := reads
  configure_of_perm := Config.ofGroups_of_perm
  run_of_config {arguments arguments' config} h h' := by
    obtain ⟨groups, hsplit, hconfig⟩ := Command.config?_eq_some_iff.mp h
    obtain ⟨groups', hsplit', hconfig'⟩ := Command.config?_eq_some_iff.mp h'
    have hsame : Config.ofGroups groups' = Config.ofGroups groups :=
      hconfig'.trans hconfig.symm
    simp only [command] at hsplit hsplit' ⊢
    rw [run, hsplit, run, hsplit']
    dsimp only
    rw [hsame]
  run_of_stop {arguments groups what} h := by
    simp only [command] at h ⊢
    rw [run, h]

end ClockSync.CommandLine.ReflectorCommand
