import Autoresponder.Text.Basic

/-!
# Phone numbers

A WhatsApp address is written `+<country code><number>`. Normalising keeps the decimal
digits (of any script) and plus signs of the input, and then decides how the country code
is attached: a leading `+` or `00` already carries one, a number that starts with the
default code keeps it, and a national number loses its leading `0` to the default code.
-/

namespace Autoresponder.Phone

open Autoresponder.Text

/-- The characters a phone number keeps: decimal digits and plus signs. -/
def kept (c : Char) : Bool := c == '+' || isDecimal c

/-- Normalises a phone number against a default country code (a leading `+` of the code is
ignored). The empty text stays empty. -/
def normalize (phone : String) (countryCode : String := "234") : String :=
  let cc := dropStartOf countryCode ['+']
  let cleaned := phone.toList.filter kept
  match cleaned with
  | [] => ""
  | '+' :: rest => "+" ++ String.ofList (rest.filter (· != '+'))
  | _ =>
    let digits := cleaned.filter (· != '+')
    if digits.take 2 == ['0', '0'] then "+" ++ String.ofList (digits.drop 2)
    else if cc.toList.isPrefixOf digits then "+" ++ String.ofList digits
    else match digits with
      | '0' :: rest => "+" ++ cc ++ String.ofList rest
      | _ => "+" ++ cc ++ String.ofList digits

/-- The address as the Cloud API expects it: decimal digits only. -/
def waId (phone : String) : String := String.ofList (phone.toList.filter isDecimal)

end Autoresponder.Phone
