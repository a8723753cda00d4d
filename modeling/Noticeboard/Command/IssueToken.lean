import Noticeboard.Command.Arguments
import Noticeboard.Command.Outcome

/-!
The command that prints an access token for a user.
-/

namespace Noticeboard.Command

/-- The lifetime that a number of minutes stands for; zero and none leave it to the
settings. -/
def lifetimeOf (minutes : Option String) : Option Token.Span :=
  match minutes.bind Text.Numeral.relaxed? with
  | some n => if n = 0 then none else some (.ofMinutes n)
  | none => none

/-- Prints a token for the user who is named. `now` is in milliseconds after the epoch. -/
def issueToken (authority : Token.Authority) (now : Int) (arguments : List String) : Outcome :=
  match read "--minutes" (fun s => (Text.Numeral.relaxed? s).isSome) arguments with
  | .help => .help
  | .usage => .usage
  | .run user minutes =>
      if user = "" then .stopped "A user id is required."
      else
        match Token.issue authority [(Token.Claim.subject, .str user)] (lifetimeOf minutes)
            now with
        | .ok token => .printed token
        | .error .outOfYears => .outOfYears

end Noticeboard.Command
