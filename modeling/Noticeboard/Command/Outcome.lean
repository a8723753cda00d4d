import Noticeboard.Token.Basic

/-!
How a command ends: with output, with a message, or with a hint at its usage.
-/

namespace Noticeboard.Command

inductive Outcome
  /-- The command is done and prints a line. -/
  | printed (line : String)
  /-- The command stops and says why. -/
  | stopped (message : String)
  /-- The command line asks for help. -/
  | help
  /-- The command line is not understood. -/
  | usage
  /-- A token would expire outside the years 1 to 9999. -/
  | outOfYears
  deriving DecidableEq, Repr

namespace Outcome

def code : Outcome → Nat
  | printed _ | help => 0
  | stopped _ | outOfYears => 1
  | usage => 2

def output : Outcome → String
  | printed line => line ++ "\n"
  | _ => ""

def message? : Outcome → Option String
  | stopped message => some message
  | _ => none

end Outcome

end Noticeboard.Command
