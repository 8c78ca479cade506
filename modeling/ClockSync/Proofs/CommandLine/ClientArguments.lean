import ClockSync.CommandLine.ClientCommand
import ClockSync.Proofs.CommandLine.Groups
import ClockSync.Proofs.LastValues

/-!
# The arguments of the command that starts a client

An argument is the name of a host only if it is no option, so `split` reads one
complete group after the other (`reads`). Each group sets one field of the
configuration, so each field has the value of its last group
(`Config.follows_ofGroups`), and groups of different kinds can be exchanged
(`Config.apply_comm`).
-/

namespace ClockSync.CommandLine.ClientCommand

open Net Client

/-! ## Groups -/

/-- The group that some arguments are, if they are a complete one. -/
def group? : List String → Option Group
  | ["--port", value] => some (.port value)
  | ["--interval", value] => some (.interval value)
  | ["--count", value] => some (.count value)
  | ["--stream"] => some .stream
  | ["--debug"] => some .debug
  | [a] =>
    if a.toList ≠ [] ∧ a.toList.head? ≠ some '-' then some (.host a) else none
  | _ => none

/-- The options that take a value. -/
def valueOptions : List String := ["--port", "--interval", "--count"]

theorem isHost_iff (a : String) :
    isHost a = true ↔ a.toList ≠ [] ∧ a.toList.head? ≠ some '-' := by
  rw [isHost]
  cases a.toList <;> simp

/-- What takes a value starts with a dash, as no name of a host does. -/
theorem head?_of_mem_valueOptions :
    ∀ a ∈ valueOptions, a.toList.head? = some '-' := by decide

/-! ## Reading them -/

/-- What an argument that starts no complete group does. -/
def stopOf (a : String) : Stop :=
  if a = "-h" ∨ a = "--help" then .help else .unknown a

theorem outcome_stopOf (a : String) :
    (stopOf a).outcome =
      if a = "-h" ∨ a = "--help" then (0, [.usage])
      else (2, [.unknown a, .usage]) := by
  rw [stopOf]
  split <;> rfl

/-- An argument alone is a complete group or stops them. -/
theorem alone_eq (a : String) :
    alone a = (group? [a]).elim (.error (stopOf a)) .ok := by
  by_cases hstream : a = "--stream"
  · simp [hstream, alone, group?]
  by_cases hdebug : a = "--debug"
  · simp [hdebug, alone, group?]
  have hgroup : group? [a] = if isHost a then some (.host a) else none := by
    simp only [isHost_iff]
    rw [group?] <;> assumption
  rw [alone, if_neg hstream, if_neg hdebug, hgroup, stopOf]
  by_cases hhelp : a = "-h" ∨ a = "--help"
  · have hno : isHost a = false := by rcases hhelp with rfl | rfl <;> rfl
    simp [hhelp, hno]
  · by_cases hhost : isHost a <;> simp [hhelp, hhost]

theorem reads : ReadsOptions valueOptions group? stopOf split where
  complete {piece} h := by
    rw [group?.eq_def] at h
    split at h
    · exact .inr ⟨_, _, rfl, by decide⟩
    · exact .inr ⟨_, _, rfl, by decide⟩
    · exact .inr ⟨_, _, rfl, by decide⟩
    · exact .inl ⟨_, rfl, by decide⟩
    · exact .inl ⟨_, rfl, by decide⟩
    · split at h
      · next a _ _ hhost =>
          exact .inl ⟨a, rfl, mt (head?_of_mem_valueOptions a) hhost.2⟩
      · cases h
    · cases h
  nil := rfl
  alone {a rest} h := by
    cases rest with
    | nil =>
      simp only [split, alone_eq]
      cases group? [a] <;> rfl
    | cons b rest =>
      have hno : a ∉ valueOptions := fun hmem => List.cons_ne_nil _ _ (h hmem)
      simp only [valueOptions, List.mem_cons, List.not_mem_nil, or_false,
        not_or] at hno
      rw [split, if_neg hno.1, if_neg hno.2.1, if_neg hno.2.2, alone_eq]
      cases group? [a] <;> rfl
  valued {a} ha value := by
    simp only [valueOptions, List.mem_cons, List.not_mem_nil, or_false] at ha
    rcases ha with rfl | rfl | rfl
    · exact ⟨.port value, rfl, fun rest => by simp [split]⟩
    · exact ⟨.interval value, rfl, fun rest => by simp [split]⟩
    · exact ⟨.count value, rfl, fun rest => by simp [split]⟩

/-! ## Configurations -/

/-- A configuration has for each option the value of its last group. -/
structure Config.Follows (c : Config) (groups : List Group) : Prop where
  host : c.host =
    lastValue (fun | .host name => some name | _ => none) "localhost" groups
  port : c.port =
    lastValue (fun | .port value => some (Numeral.uint16 value) | _ => none)
      defaultPort groups
  interval : c.interval =
    lastValue
      (fun | .interval value => some (some (Numeral.int32 value)) | _ => none)
        none groups
  count : c.count =
    lastValue (fun | .count value => some (Numeral.int32 value) | _ => none)
      0 groups
  stream :
    c.stream = lastValue (fun | .stream => some true | _ => none) false groups
  debug :
    c.debug = lastValue (fun | .debug => some true | _ => none) false groups

theorem Config.follows_ofGroups (groups : List Group) :
    (ofGroups groups).Follows groups where
  host :=
    foldl_eq_lastValue Config.host (fun c g => by cases g <;> rfl) {} groups
  port :=
    foldl_eq_lastValue Config.port (fun c g => by cases g <;> rfl) {} groups
  interval :=
    foldl_eq_lastValue Config.interval (fun c g => by cases g <;> rfl) {} groups
  count :=
    foldl_eq_lastValue Config.count (fun c g => by cases g <;> rfl) {} groups
  stream :=
    foldl_eq_lastValue Config.stream (fun c g => by cases g <;> rfl) {} groups
  debug :=
    foldl_eq_lastValue Config.debug (fun c g => by cases g <;> rfl) {} groups

/-- Groups of different kinds can be exchanged. -/
theorem Config.apply_comm (c : Config) {a b : Group}
    (h : a.ctorIdx ≠ b.ctorIdx) :
    (c.apply a).apply b = (c.apply b).apply a := by
  cases a <;> cases b <;> first | exact absurd rfl h | rfl

theorem Config.ofGroups_of_perm {groups groups' : List Group}
    (hkinds : (groups.map Group.ctorIdx).Nodup) (hperm : groups.Perm groups') :
    ofGroups groups = ofGroups groups' := by
  rw [ofGroups, ofGroups]
  exact foldl_of_perm (fun c _ _ => apply_comm c) hkinds hperm {}

/-! ## The command -/

/-- The command, run in a session while something happens. -/
def command (s : Session) (scene : Scene) :
    Command Group Stop Config (Except Stuck Run) where
  group? := group?
  kind := Group.ctorIdx
  split := split
  stopOf := stopOf
  configure := .ofGroups
  run arguments := run s arguments scene

theorem wellMade (s : Session) (scene : Scene) :
    (command s scene).WellMade valueOptions fun stop =>
      .ok ⟨stop.outcome.1, stop.outcome.2, []⟩ where
  reads := reads
  configure_of_perm := Config.ofGroups_of_perm
  run_of_config {arguments arguments' config} h h' := by
    obtain ⟨groups, hsplit, hconfig⟩ := Command.config?_eq_some_iff.mp h
    obtain ⟨groups', hsplit', hconfig'⟩ := Command.config?_eq_some_iff.mp h'
    have hsame : Config.ofGroups groups' = Config.ofGroups groups :=
      hconfig'.trans hconfig.symm
    simp only [command] at hsplit hsplit' ⊢
    rw [run, hsplit, run, hsplit']
    dsimp only
    rw [hsame]
  run_of_stop {arguments groups what} h := by
    simp only [command] at h ⊢
    rw [run, h]

end ClockSync.CommandLine.ClientCommand
