import Noticeboard.Command.CreateBoard
import Noticeboard.Command.IssueToken
import Std.Time.DateTime.Timestamp

/-!
The command line: `issue-token` prints an access token and `create-board` registers a board.
Settings come from the environment and from the file `.env`. The store lives as long as the
program.
-/

namespace Noticeboard.Main

/-- The variables of the environment that hold settings. Their names are in upper case. -/
def environment : IO (List (String × String)) := do
  let found ← Settings.Field.all.mapM fun field => do
    let name := String.ofList (field.name.toList.map Char.toUpper)
    return (← IO.getEnv name).map (name, ·)
  return found.filterMap id

/-- The text of the file of variables; it is empty when there is no such file. -/
def variableFile : IO String := do
  try IO.FS.readFile ".env" catch _ => return ""

def now : IO Int := do
  return (← Std.Time.Timestamp.now).toMillisecondsSinceUnixEpoch.val

def randomBits : IO Draw := do
  let bytes ← IO.getRandomBytes 16
  return .ofBytes bytes.toList

def usage : String :=
  "usage: issue-token [--minutes MINUTES] user\n       create-board [--title TITLE] board"

def finish (outcome : Command.Outcome) : IO UInt32 := do
  match outcome with
  | .help => IO.println usage
  | .usage => IO.eprintln usage
  | .outOfYears => IO.eprintln "the token would expire outside the years 1 to 9999"
  | .stopped message => IO.eprintln message
  | .printed _ => IO.print outcome.output
  return outcome.code.toUInt32

def newDesk (settings : Settings) : IO Desk := do
  let bits ← randomBits
  let clock ← now
  return { store := .empty, clock, supply := fun _ => bits, drawn := 0
           settings := .ok settings, log := [] }

/-- How deep JSON is read. -/
def depth : Nat := 10000

def run (arguments : List String) : IO UInt32 := do
  match Settings.load (.ofText ⟨depth, depth⟩ (← environment) (← variableFile)), arguments with
  | .error _, _ =>
      IO.eprintln "invalid settings"
      return 1
  | .ok settings, "issue-token" :: rest =>
      let authority :=
        { secret := settings.secretKey, minutes := settings.tokenMinutes, depth := ⟨depth, depth⟩ }
      finish (Command.issueToken authority (← now) rest)
  | .ok settings, "create-board" :: rest =>
      finish (Command.createBoard rest (← newDesk settings)).1
  | .ok _, _ => finish .usage

end Noticeboard.Main

def main (arguments : List String) : IO UInt32 := Noticeboard.Main.run arguments
