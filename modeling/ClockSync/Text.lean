/-!
# Texts that end early

Names of hosts, addresses and arguments of a command end before their first zero
character; what follows it belongs to no name.
-/

namespace ClockSync.Text

/-- What a text says before its first zero character. -/
def beforeZero (text : String) : String :=
  String.ofList (text.toList.takeWhile fun c => c.toNat != 0)

end ClockSync.Text
