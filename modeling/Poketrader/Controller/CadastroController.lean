import Poketrader.Foundation.Text
import Poketrader.Regex.Derivative

/-!
# The controller of the sign-up form

The validation of an e-mail address and the mask of a telephone number. An address is valid if the
whole of it matches one regular expression, without regard to case.
-/

open Foundation

namespace Poketrader

namespace CadastroController

/-! ## The e-mail address -/

/-- `[a-z]` without regard to case. The long s and the Kelvin sign are letters of the range, since
they fold to `s` and `k`. -/
def letters (c : Char) : Bool := c.isAlpha || c = 'ſ' || c = '\u212A'

/-- `[a-z 0-9]` without regard to case. The blank in it is a member of the set. -/
def lettersBlankDigits (c : Char) : Bool := letters c || c = ' ' || c.isDigit

/-- The characters of words, among those the expression names. -/
def wordCharacters (c : Char) : Bool := letters c || c.isDigit || c = '_'

/-- `\b([a-z 0-9]+)((\.|_)?([a-z 0-9]+))+@([a-z]+)(\.([a-z]{2,}))+\b` -/
def emailRegEx : Regex Char :=
  .seq (.wordBoundary wordCharacters) <|
  .seq (.plus (.letter lettersBlankDigits)) <|
  .seq (.plus (.seq (.opt (.alt (.letter (· = '.')) (.letter (· = '_'))))
    (.plus (.letter lettersBlankDigits)))) <|
  .seq (.letter (· = '@')) <|
  .seq (.plus (.letter letters)) <|
  .seq (.plus (.seq (.letter (· = '.')) (.twoOrMore (.letter letters)))) <|
  .wordBoundary wordCharacters

/-- `SELF MATCHES[c]` looks at the whole text. -/
def isValidEmail (email : String) : Bool := emailRegEx.test none email.toList none

/-! ## The telephone number -/

def mask : List Char := "(##) ##### ####".toList

/-- The loop over the mask, which goes on only while there are digits left. -/
def fillMask : List Char → List Char → List Char
  | _, [] | [], _ => []
  | ch :: mask, digit :: digits =>
    if ch = '#' then digit :: fillMask mask digits else ch :: fillMask mask (digit :: digits)

def formattedNumber (number : String) : String :=
  -- splitting at everything else and joining the parts leaves the digits
  let cleanPhoneNumber := number.toList.filter decimalDigits
  String.ofList (fillMask mask cleanPhoneNumber)

end CadastroController

end Poketrader
