import Noticeboard.Http.Message
import Noticeboard.Service.Plan
import Noticeboard.Text.Blank
import Noticeboard.Token.Basic

/-!
On whose behalf a request is made: the bearer of its token, whom the token speaks for.
-/

namespace Noticeboard.Http

abbrev Handler (α : Type) := ExceptT Refusal Plan α

def Refusal.ofToken : Token.CheckFailure → Refusal
  | .refused => .unauthenticated "Invalid credentials"
  | .momentNotNumber | .momentInfinite | .outOfYears | .tooDeep => .broken

/-- The credentials in the value of an authorization header: what follows the first space,
without the blanks around it, if the word before is `Bearer` in any letter case. -/
def credentials? (value : String) : Option String :=
  let (scheme, rest) := Text.Percent.cutAt ' ' value.toList
  let credentials := Text.trim Text.isBlank (rest.getD [])
  if scheme.map Char.toLower = "bearer".toList && !credentials.isEmpty then
    some (String.ofList credentials)
  else none

def bearerOf (authority : Token.Authority) (r : Request) : Handler Token.Bearer := do
  match r.authorization?.bind credentials? with
  | none => throw (.unauthenticated "Not authenticated")
  | some token =>
      let now ← ExceptT.lift (Plan.ask .now)
      match Token.bearer authority token now with
      | .ok bearer => return bearer
      | .error failure => throw (.ofToken failure)

end Noticeboard.Http

namespace Noticeboard.Token.Bearer

def owns (bearer : Bearer) (n : Notice) : Bool :=
  match bearer with
  | user id => n.recipient = id
  | garbled _ => false

/-- What a task of the store gives to the bearer of a token. It begins for everybody, and then
fails on a garbled name. -/
def ask {α : Type} (bearer : Bearer) (task : Task) (act : String → Action α) : Action α :=
  match bearer with
  | user id => act id
  | garbled _ => do
      Action.reach task
      throw .garbled

end Noticeboard.Token.Bearer
