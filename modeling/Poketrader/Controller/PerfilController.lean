import Poketrader.Controller.CadastroController

/-!
# The controller of the profile form

It masks the telephone number with a copy of the code of the sign-up form.
-/

open Foundation

namespace Poketrader

namespace PerfilController

def mask : List Char := "(##) ##### ####".toList

def formattedNumber (number : String) : String :=
  let cleanPhoneNumber := number.toList.filter decimalDigits
  String.ofList (CadastroController.fillMask mask cleanPhoneNumber)

end PerfilController

end Poketrader
