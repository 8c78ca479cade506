import ClockSync.Text
import Mathlib.Data.List.Infix

/-!
# Arguments in groups

The arguments of a command are pieces, each of which is a complete group, and
then nothing or an argument that starts none (`Splits`). As long as no complete
group is the beginning of another (`PrefixFree`) there is one way to take
arguments apart so (`PrefixFree.exists_unique_splits`), and a reader that takes
one group at a time finds it (`Reads.of_splits`).

What a command makes of the groups is in `Command.Sound`.
-/

namespace ClockSync.CommandLine

variable {γ : Type} {group? : List String → Option γ}
  {arguments left : List String}
  {pieces : List (List String)}

/-! ## Taking arguments apart -/

/-- Arguments are pieces that are complete groups, and what is left does not
start with one. -/
structure Splits (group? : List String → Option γ) (arguments : List String)
    (pieces : List (List String)) (left : List String) : Prop where
  whole : pieces.flatten ++ left = arguments
  complete : ∀ piece ∈ pieces, (group? piece).isSome
  stuck : ∀ piece, piece <+: left → group? piece = none

instance : Decidable (Splits group? arguments pieces left) :=
  decidable_of_iff (pieces.flatten ++ left = arguments ∧
      (∀ piece ∈ pieces, (group? piece).isSome) ∧
      ∀ piece ∈ left.inits, (group? piece).isNone) <| by
    simp only [List.mem_inits, Option.isNone_iff_eq_none]
    exact ⟨fun ⟨hwhole, hcomplete, hstuck⟩ => ⟨hwhole, hcomplete, hstuck⟩,
      fun ⟨hwhole, hcomplete, hstuck⟩ => ⟨hwhole, hcomplete, hstuck⟩⟩

theorem Splits.nil (hstuck : ∀ piece, piece <+: left → group? piece = none) :
    Splits group? left [] left :=
  ⟨rfl, by simp, hstuck⟩

theorem Splits.cons {piece : List String} (hpiece : (group? piece).isSome)
    (h : Splits group? arguments pieces left) :
    Splits group? (piece ++ arguments) (piece :: pieces) left where
  whole := by rw [List.flatten_cons, List.append_assoc, h.whole]
  complete := List.forall_mem_cons.mpr ⟨hpiece, h.complete⟩
  stuck := h.stuck

theorem Splits.cons_whole {piece : List String}
    (h : Splits group? arguments (piece :: pieces) left) :
    piece ++ (pieces.flatten ++ left) = arguments := by
  rw [← List.append_assoc]
  exact h.whole

/-- Arguments that are stuck at once do not start with a piece. -/
theorem Splits.not_splits_cons {piece : List String} {left' : List String}
    (h : Splits group? arguments [] left) :
    ¬ Splits group? arguments (piece :: pieces) left' := by
  intro h'
  have hprefix : piece <+: left := by
    rw [show left = arguments from h.whole, ← h'.cons_whole]
    exact List.prefix_append ..
  have hcomplete := h'.complete piece (List.mem_cons_self ..)
  rw [h.stuck piece hprefix] at hcomplete
  cases hcomplete

/-- What follows the first piece is taken apart in the same way. -/
theorem Splits.tail {piece : List String}
    (h : Splits group? arguments (piece :: pieces) left) :
    Splits group? (pieces.flatten ++ left) pieces left :=
  ⟨rfl, (List.forall_mem_cons.mp h.complete).2, h.stuck⟩

/-- The pieces can be put in any order. -/
theorem Splits.perm {pieces' : List (List String)}
    (h : Splits group? arguments pieces left) (hperm : pieces.Perm pieces') :
    Splits group? (pieces'.flatten ++ left) pieces' left :=
  ⟨rfl, fun piece hpiece => h.complete piece (hperm.mem_iff.mpr hpiece),
    h.stuck⟩

/-- A complete group is not empty and not the beginning of another one. -/
structure PrefixFree (group? : List String → Option γ) : Prop where
  nil : group? [] = none
  eq_of_prefix {piece longer : List String} : (group? piece).isSome →
  (group? longer).isSome →
    piece <+: longer → piece = longer

namespace PrefixFree

/-- The first pieces of arguments that are taken apart are the same. -/
theorem eq_of_append (h : PrefixFree group?)
    {piece piece' rest rest' : List String} (hpiece : (group? piece).isSome)
    (hpiece' : (group? piece').isSome) (heq : piece ++ rest = piece' ++ rest') :
    piece = piece' := by
  rcases List.prefix_or_prefix_of_prefix (List.prefix_append piece rest)
    (heq ▸ List.prefix_append piece' rest') with hprefix | hprefix
  · exact h.eq_of_prefix hpiece hpiece' hprefix
  · exact (h.eq_of_prefix hpiece' hpiece hprefix).symm

theorem exists_splits (h : PrefixFree group?) (arguments : List String) :
    ∃ pieces left, Splits group? arguments pieces left := by
  induction hlength : arguments.length using Nat.strong_induction_on
    generalizing arguments with
  | _ n ih =>
    by_cases hstuck : ∀ piece, piece <+: arguments → group? piece = none
    · exact ⟨[], arguments, .nil hstuck⟩
    · push Not at hstuck
      obtain ⟨piece, ⟨rest, rfl⟩, hpiece⟩ := hstuck
      have hne : piece ≠ [] := fun hnil => hpiece (hnil ▸ h.nil)
      have hshorter : rest.length < n := by
        have := List.length_pos_of_ne_nil hne
        rw [List.length_append] at hlength
        omega
      obtain ⟨pieces, left, hsplits⟩ := ih rest.length hshorter rest rfl
      exact ⟨piece :: pieces, left,
        hsplits.cons (Option.isSome_iff_ne_none.mpr hpiece)⟩

theorem splits_unique (h : PrefixFree group?) {pieces' : List (List String)}
    {left' : List String} (hsplits : Splits group? arguments pieces left)
    (hsplits' : Splits group? arguments pieces' left') :
    pieces = pieces' ∧ left = left' := by
  induction pieces generalizing arguments pieces' with
  | nil =>
    cases pieces' with
    | nil => exact ⟨rfl, hsplits.whole.trans hsplits'.whole.symm⟩
    | cons piece' pieces' => exact (hsplits.not_splits_cons hsplits').elim
  | cons piece pieces ih =>
    cases pieces' with
    | nil => exact (hsplits'.not_splits_cons hsplits).elim
    | cons piece' pieces' =>
      have heq : piece ++ (pieces.flatten ++ left) =
          piece' ++ (pieces'.flatten ++ left') :=
        hsplits.cons_whole.trans hsplits'.cons_whole.symm
      obtain rfl :=
        h.eq_of_append (hsplits.complete piece (List.mem_cons_self ..))
        (hsplits'.complete piece' (List.mem_cons_self ..)) heq
      have hrest := List.append_cancel_left heq
      obtain ⟨rfl, rfl⟩ := ih hsplits.tail (hrest ▸ hsplits'.tail)
      exact ⟨rfl, rfl⟩

/-- Arguments are taken apart in exactly one way. -/
theorem exists_unique_splits (h : PrefixFree group?) (arguments : List String) :
    ∃! split : List (List String) × List String,
      Splits group? arguments split.1 split.2 := by
  obtain ⟨pieces, left, hsplits⟩ := h.exists_splits arguments
  refine ⟨(pieces, left), hsplits, fun split hsplit => ?_⟩
  obtain ⟨hpieces, hleft⟩ := h.splits_unique hsplit hsplits
  exact Prod.ext hpieces hleft

end PrefixFree

/-! ## Readers -/

/-- A reader takes one complete group at a time, and stops at an argument that
starts none. -/
structure Reads {stop : Type} (group? : List String → Option γ)
    (stopOf : String → stop) (split : List String → List γ × Option stop) :
    Prop where
  cons {piece : List String} {group : γ} (rest : List String) :
    group? piece = some group →
    split (piece ++ rest) = (split rest).map (group :: ·) id
  stuck {left : List String} : (∀ piece, piece <+: left → group? piece = none) →
    split left = ([], left.head?.map stopOf)

/-- A reader finds the groups, and what stops them. -/
theorem Reads.of_splits {stop : Type} {stopOf : String → stop}
    {split : List String → List γ × Option stop} (h : Reads group? stopOf split)
    (hsplits : Splits group? arguments pieces left) :
    split arguments = (pieces.filterMap group?, left.head?.map stopOf) := by
  induction pieces generalizing arguments with
  | nil =>
    rw [← hsplits.whole]
    exact h.stuck hsplits.stuck
  | cons piece pieces ih =>
    obtain ⟨group, hgroup⟩ := Option.isSome_iff_exists.mp
      (hsplits.complete piece (List.mem_cons_self ..))
    rw [← hsplits.cons_whole, h.cons _ hgroup, ih hsplits.tail,
      List.filterMap_cons_some hgroup]
    rfl

/-- A reader of arguments where some options take a value, which is the argument
after them. -/
structure ReadsOptions {stop : Type} (options : List String)
    (group? : List String → Option γ) (stopOf : String → stop)
    (split : List String → List γ × Option stop) : Prop where
  complete {piece : List String} : (group? piece).isSome →
    (∃ a, piece = [a] ∧ a ∉ options) ∨
    ∃ a value, piece = [a, value] ∧ a ∈ options
  nil : split [] = ([], none)
  /-- An argument that takes no value, or finds none, is read alone. -/
  alone {a : String} {rest : List String} : (a ∈ options → rest = []) →
    split (a :: rest) = (group? [a]).elim ([], some (stopOf a))
      fun group => (split rest).map (group :: ·) id
  valued {a : String} : a ∈ options →
  ∀ value, ∃ group, group? [a, value] = some group ∧
    ∀ rest, split (a :: value :: rest) = (split rest).map (group :: ·) id

namespace ReadsOptions

variable {stop : Type} {options : List String} {stopOf : String → stop}
  {split : List String → List γ × Option stop}

theorem prefixFree (h : ReadsOptions options group? stopOf split) :
    PrefixFree group? where
  nil := by
    refine Option.not_isSome_iff_eq_none.mp fun hnil => ?_
    rcases h.complete hnil with ⟨a, heq, _⟩ | ⟨a, value, heq, _⟩ <;> cases heq
  eq_of_prefix {piece longer} hpiece hlonger hprefix := by
    rcases h.complete hpiece with ⟨a, rfl, ha⟩ | ⟨a, value, rfl, ha⟩ <;>
      rcases h.complete hlonger with ⟨b, rfl, hb⟩ | ⟨b, value', rfl, hb⟩
    · exact hprefix.eq_of_length rfl
    · obtain rfl : a = b := (List.cons_prefix_cons.mp hprefix).1
      exact absurd hb ha
    · exact absurd hprefix.length_le (by simp)
    · exact hprefix.eq_of_length rfl

theorem reads (h : ReadsOptions options group? stopOf split) :
    Reads group? stopOf split where
  cons {piece group} rest hgroup := by
    rcases h.complete (Option.isSome_of_eq_some hgroup) with
      ⟨a, rfl, ha⟩ | ⟨a, value, rfl, ha⟩
    · rw [List.singleton_append, h.alone (absurd · ha), hgroup,
        Option.elim_some]
    · obtain ⟨group', hgroup', hsplit⟩ := h.valued ha value
      obtain rfl : group = group' := Option.some.inj (hgroup.symm.trans hgroup')
      exact hsplit rest
  stuck {left} hstuck := by
    cases left with
    | nil => exact h.nil
    | cons a rest =>
      have hend : a ∈ options → rest = [] := by
        -- with an argument after it, an option that takes a value is a complete
        -- group
        intro ha
        cases rest with
        | nil => rfl
        | cons value rest =>
          obtain ⟨group, hgroup, _⟩ := h.valued ha value
          rw [hstuck [a, value] ⟨rest, rfl⟩] at hgroup
          cases hgroup
      rw [h.alone hend, hstuck [a] ⟨rest, rfl⟩]
      rfl

end ReadsOptions

/-! ## Commands -/

/-- A command, as far as its arguments matter. -/
structure Command (γ stop σ ρ : Type) where
  /-- The group that some arguments are, if they are a complete one. -/
  group? : List String → Option γ
  kind : γ → Nat
  /-- The groups of arguments, and what stops them. -/
  split : List String → List γ × Option stop
  stopOf : String → stop
  /-- What groups ask for. -/
  configure : List γ → σ
  /-- What comes of arguments, each of which ends before its first zero
  character. -/
  run : List String → ρ

namespace Command

variable {stop σ ρ : Type}

/-- The configuration that arguments ask for, unless something stops them. -/
def config? (c : Command γ stop σ ρ) (arguments : List String) : Option σ :=
  match c.split (arguments.map Text.beforeZero) with
  | (groups, none) => some (c.configure groups)
  | (_, some _) => none

theorem config?_eq_some_iff {c : Command γ stop σ ρ} {config : σ} :
    c.config? arguments = some config ↔
      ∃ groups, c.split (arguments.map Text.beforeZero) = (groups, none) ∧
        c.configure groups = config := by
  rw [config?]
  rcases c.split (arguments.map Text.beforeZero) with
    ⟨groups, _ | what⟩ <;> simp

/-- What makes a command sound: the functions that it is made of fit
together. -/
structure WellMade (c : Command γ stop σ ρ) (options : List String)
    (ofStop : stop → ρ) : Prop where
  reads : ReadsOptions options c.group? c.stopOf c.split
  configure_of_perm {groups groups' : List γ} : (groups.map c.kind).Nodup →
  groups.Perm groups' →
    c.configure groups = c.configure groups'
  run_of_config {arguments arguments' : List String} {config : σ} :
    c.config? arguments = some config → c.config? arguments' = some config →
      c.run arguments = c.run arguments'
  run_of_stop {arguments : List String} {groups : List γ} {what : stop} :
    c.split (arguments.map Text.beforeZero) = (groups, some what) →
    c.run arguments = ofStop what

/-- A command does with its arguments what can be told from the groups that they
are made of. -/
structure Sound (c : Command γ stop σ ρ) (Follows : σ → List γ → Prop)
    (ofStop : String → ρ) : Prop where
  /-- There is one way to take arguments apart. -/
  splits (arguments : List String) : ∃! split :
    List (List String) × List String,
    Splits c.group? arguments split.1 split.2
  /-- Complete groups say what the configuration is, and that says what comes of
  them. -/
  configured {arguments : List String} {pieces : List (List String)} :
    Splits c.group? (arguments.map Text.beforeZero) pieces [] →
      ∃ config, c.config? arguments = some config ∧
        Follows config (pieces.filterMap c.group?) ∧
        ∀ {arguments'}, c.config? arguments' = some config →
          c.run arguments' = c.run arguments
  /-- Groups of different kinds may be put in any order. -/
  permuted {arguments arguments' : List String}
    {pieces pieces' : List (List String)} :
    Splits c.group? (arguments.map Text.beforeZero) pieces [] →
    pieces.Perm pieces' →
      ((pieces.filterMap c.group?).map c.kind).Nodup →
      arguments'.map Text.beforeZero = pieces'.flatten →
        c.config? arguments' = c.config? arguments ∧
        c.run arguments' = c.run arguments
  /-- The first argument that starts no complete group says what comes of all,
  and nothing else does. -/
  stopped {arguments : List String} {pieces : List (List String)} {a : String}
    {rest : List String} :
    Splits c.group? (arguments.map Text.beforeZero) pieces (a :: rest) →
      c.config? arguments = none ∧ c.run arguments = ofStop a

variable {c : Command γ stop σ ρ} {options : List String} {ofStop : stop → ρ}

/-- Arguments with nothing left have the configuration of their groups. -/
theorem WellMade.config?_of_splits (h : c.WellMade options ofStop)
    (hsplits : Splits c.group? (arguments.map Text.beforeZero) pieces []) :
    c.config? arguments = some (c.configure (pieces.filterMap c.group?)) := by
  rw [config?, h.reads.reads.of_splits hsplits]
  rfl

theorem WellMade.sound (h : c.WellMade options ofStop)
    {Follows : σ → List γ → Prop}
    (hfollows : ∀ groups, Follows (c.configure groups) groups) :
    c.Sound Follows fun a => ofStop (c.stopOf a) where
  splits := h.reads.prefixFree.exists_unique_splits
  configured hsplits := by
    have hconfig := h.config?_of_splits hsplits
    exact ⟨_, hconfig, hfollows _,
      fun hconfig' => h.run_of_config hconfig' hconfig⟩
  permuted {arguments arguments' pieces pieces'} hsplits
    hperm hkinds hwhole := by
    have hconfig := h.config?_of_splits hsplits
    have hsplits' :
        Splits c.group? (arguments'.map Text.beforeZero) pieces' [] := by
      have := hsplits.perm hperm
      rwa [List.append_nil, ← hwhole] at this
    have hconfig' := h.config?_of_splits hsplits'
    rw [← h.configure_of_perm hkinds (hperm.filterMap c.group?)] at hconfig'
    exact ⟨hconfig'.trans hconfig.symm, h.run_of_config hconfig' hconfig⟩
  stopped hsplits := by
    have hsplit := h.reads.reads.of_splits hsplits
    refine ⟨?_, h.run_of_stop hsplit⟩
    rw [config?, hsplit]
    rfl

end Command

end ClockSync.CommandLine
