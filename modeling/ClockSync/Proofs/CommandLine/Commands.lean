import ClockSync.Proofs.CommandLine.ClientArguments
import ClockSync.Proofs.CommandLine.ReflectorArguments

/-!
# What the commands do with their arguments

Both commands are `Command.Sound`: there is one way to take their arguments
apart into complete groups and what is left, and it alone says what comes of
them. If nothing is left, each option has the value of its last group. Else the
first argument that is left is a call for help or unknown, the command says so
and starts nothing, and no other argument matters.
-/

namespace ClockSync.CommandLine

/-- Both commands do with their arguments what can be told from the groups that
they are made of, whatever the session and what happens in it: if nothing is
left of the arguments, their configuration is that of the last group for each
option, else they end at once, with the exit code and the lines that the first
argument which is left asks for. -/
theorem commands_sound :
    (∀ s scene,
      (ClientCommand.command s scene).Sound
        ClientCommand.Config.Follows fun a =>
        .ok (if a = "-h" ∨ a = "--help" then ⟨0, [.usage], []⟩
          else ⟨2, [.unknown a, .usage], []⟩)) ∧
    ∀ s raw datagrams,
      (ReflectorCommand.command s raw datagrams).Sound
        ReflectorCommand.Config.Follows fun a =>
        if a = "-h" ∨ a = "--help" then ⟨0, [.usage], []⟩
        else ⟨2, [.unknown a, .usage], []⟩ := by
  refine ⟨fun s scene => ?_, fun s raw datagrams => ?_⟩
  · convert (ClientCommand.wellMade s scene).sound
      ClientCommand.Config.follows_ofGroups using 3
    · simp only [ClientCommand.command, ClientCommand.outcome_stopOf]
      split <;> rfl
  · convert (ReflectorCommand.wellMade s raw datagrams).sound
      ReflectorCommand.Config.follows_ofGroups using 2
    · simp only [ReflectorCommand.command, ReflectorCommand.outcome_stopOf]
      split <;> rfl

/-- A value may look like a call for help or like an option; an option at the
end has none. -/
theorem commands_sound_of_values_like_options :
    let client :=
      ClientCommand.command (.new ⟨true, [], [], 3, 32768⟩) (.reports [])
    let reflector :=
      ReflectorCommand.command (.new ⟨true, [], [], 3, 32768⟩) ⟨0, [], 0⟩ []
    (∃ config, client.config? ["--port", "-h", "somewhere"] = some config ∧
        config.host = "somewhere" ∧ config.port = 0) ∧
      client.run ["--port", "-h", "somewhere", "--count"] =
        .ok ⟨2, [.unknown "--count", .usage], []⟩ ∧
      reflector.run ["--rate", "--port", "-v"] =
        reflector.run ["-v", "--rate", "--port"] := by
  intro client reflector
  have hclient := commands_sound.1 (.new ⟨true, [], [], 3, 32768⟩) (.reports [])
  have hreflector :=
    commands_sound.2 (.new ⟨true, [], [], 3, 32768⟩) ⟨0, [], 0⟩ []
  refine ⟨?_, ?_, ?_⟩
  · have hsplits : Splits ClientCommand.group?
        (["--port", "-h", "somewhere"].map Text.beforeZero)
        [["--port", "-h"], ["somewhere"]] [] := by decide +kernel
    obtain ⟨config, hconfig, hfollows, -⟩ := hclient.configured hsplits
    exact ⟨config, hconfig, hfollows.host.trans rfl,
      hfollows.port.trans (by decide +kernel)⟩
  · have hsplits : Splits ClientCommand.group?
        (["--port", "-h", "somewhere", "--count"].map Text.beforeZero)
        [["--port", "-h"], ["somewhere"]] ["--count"] := by decide +kernel
    exact (hclient.stopped hsplits).2
  · have hsplits : Splits ReflectorCommand.group?
        (["-v", "--rate", "--port"].map Text.beforeZero)
        [["-v"], ["--rate", "--port"]] [] := by decide +kernel
    have hperm : [["-v"], ["--rate", "--port"]].Perm
        [["--rate", "--port"], ["-v"]] := .swap ..
    exact (hreflector.permuted hsplits hperm (by decide) (by decide +kernel)).2

end ClockSync.CommandLine
