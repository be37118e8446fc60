import FrameScript.Cli.Arguments

/-!
# Requests

What the arguments of a run ask for.  They ask for one task at most, and for a file to be written
only if they name the two commands that lead there and have the option that says so.
-/

namespace FrameScript.Cli

/-- What the arguments of a run ask for. -/
def Asks (arguments : List Text) (task : Task) : Prop :=
  (Invocation.parse? arguments).bind Invocation.task? = some task

variable {arguments : List Text} {task : Task}

theorem Asks.unique {first second : Task} (asked : Asks arguments first)
    (again : Asks arguments second) : first = second :=
  Option.some.inj (asked.symm.trans again)

namespace Arguments

variable {allowed : List Flag} {parts : Arguments}

end Arguments

end FrameScript.Cli
