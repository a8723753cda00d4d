import Noticeboard.Service.Failure
import Noticeboard.Text.Numeral

/-!
Whole numbers among the parameters of a query. A parameter that is absent or empty stands for
its default; any other has to be a decimal numeral of a signed 64-bit integer.
-/

namespace Noticeboard.Http

/-- The number that a parameter with text `raw` stands for. -/
def parameter (name : String) (default : Int) (raw : Option String) : Except Failure Int :=
  match filled? raw with
  | none => .ok default
  | some s =>
      match Text.Numeral.query? s.toList with
      | none => .error (.notInteger name s)
      | some (negative, digits) =>
          if Text.maxDigits < digits.length then .error .tooManyDigits
          else
            let value := Text.Numeral.signed negative (Text.Numeral.ofDigits digits)
            if Int64.fits value then .ok value else .error (.outOfRange name s)

end Noticeboard.Http
