import Poketrader.Controller.CadastroController
import Poketrader.Foundation.Platform
import Poketrader.Foundation.UTF16
import Poketrader.Network.AuthenticationWorker
import Poketrader.Views.AddPokemonViewController

/-!
# The sign-up form

Five text fields and a label under three of them. A proposed edit of a field is shown to the form
first, which may set or clear the label of the field; the edit is then applied, except that the form
applies an edit of the telephone itself, through the mask. The button does not validate the e-mail
address again. It reads the labels the edits left, and adds its own where a required field is empty.
-/

open Foundation

namespace Poketrader

/-- The text fields of the form. -/
inductive CadastroField where
  | nome | telefone | console | email | senha
  deriving DecidableEq

structure CadastroViewController where
  nomeTextField : String
  telefoneTextField : String
  consoleTextField : String
  emailTextField : String
  senhaTextField : String
  verificaNomeLabel : String
  verificaEmailLabel : String
  verificaSenhaLabel : String
  /-- The PNG data of the picture. -/
  imagePerfil : Option PNGData
  deriving DecidableEq

/-- The arguments of `cadastrarUsuario`. -/
structure CadastroArguments where
  nome : String
  telefone : String
  console : String
  email : String
  senha : String
  imagem : Option PNGData
  deriving DecidableEq

namespace CadastroViewController

/-- The form once `viewDidLoad` has returned, with the picture it shows. -/
def viewDidLoad (profilePic : Option PNGData) : CadastroViewController :=
  ⟨"", "", "", "", "", "", "", "", profilePic⟩

variable (P : Platform) (vc : CadastroViewController)

def text : CadastroField → String
  | .nome => vc.nomeTextField
  | .telefone => vc.telefoneTextField
  | .console => vc.consoleTextField
  | .email => vc.emailTextField
  | .senha => vc.senhaTextField

def setText (textField : CadastroField) (text : String) : CadastroViewController :=
  match textField with
  | .nome => { vc with nomeTextField := text }
  | .telefone => { vc with telefoneTextField := text }
  | .console => { vc with consoleTextField := text }
  | .email => { vc with emailTextField := text }
  | .senha => { vc with senhaTextField := text }

/-- The form of an address that is validated. -/
def normalizedEmail (email : String) : String :=
  trimmingCharacters whitespaces (P.lowercased email)

/-- `textField(_:shouldChangeCharactersIn:replacementString:)`: the form afterwards, and whether the
field shall apply the edit. -/
def shouldChangeCharactersIn (textField : CadastroField) (range : NSRange) (string : String) :
    Option (CadastroViewController × Bool) :=
  match textField with
  | .email => (replacingCharacters vc.emailTextField range string).map fun text ↦
      let newEmail := normalizedEmail P text
      if !CadastroController.isValidEmail newEmail then
        ({ vc with verificaEmailLabel := "Email inválido" }, true)
      else ({ vc with verificaEmailLabel := "" }, true)
  | .telefone => (replacingCharacters vc.telefoneTextField range string).map fun newString ↦
      ({ vc with telefoneTextField := CadastroController.formattedNumber newString }, false)
  | .senha => (replacingCharacters vc.senhaTextField range string).map fun newSenha ↦
      if vc.senhaTextField = "" ∧ newSenha ≠ "" then ({ vc with verificaSenhaLabel := "" }, true)
      else (vc, true)
  | .nome => (replacingCharacters vc.nomeTextField range string).map fun newNome ↦
      if vc.nomeTextField = "" ∧ newNome ≠ "" then ({ vc with verificaNomeLabel := "" }, true)
      else (vc, true)
  | .console => some (vc, true)

/-- A proposed edit, shown to the form and then applied unless the form has done so. -/
def edit (textField : CadastroField) (range : NSRange) (string : String) :
    Option CadastroViewController :=
  (vc.shouldChangeCharactersIn P textField range string).bind fun (vc, shouldChange) ↦
    if shouldChange then
      (replacingCharacters (vc.text textField) range string).map (vc.setText textField)
    else some vc

def checkFields : CadastroViewController × Bool :=
  let obrigatorio := "Campo obrigatório"
  let isValid := true
  let (vc, isValid) := if trimmingCharacters whitespaces vc.nomeTextField = "" then
      ({ vc with verificaNomeLabel := obrigatorio }, false)
    else (vc, isValid)
  let (vc, isValid) := if vc.emailTextField = "" then
      ({ vc with verificaEmailLabel := obrigatorio }, false)
    else (vc, isValid)
  let isValid := if vc.verificaEmailLabel ≠ "" then false else isValid
  let (vc, isValid) := if vc.senhaTextField = "" then
      ({ vc with verificaSenhaLabel := obrigatorio }, false)
    else (vc, isValid)
  let isValid := if vc.verificaSenhaLabel ≠ "" then false else isValid
  (vc, isValid)

/-- `tappedCadastrarButton`: the form afterwards, and what is passed to `cadastrarUsuario`, or the
alert shown instead. -/
def tappedCadastrarButton : CadastroViewController × Except Alert CadastroArguments :=
  let (vc, valida) := vc.checkFields
  if valida then
    -- the texts are read again here, as they are in the fields
    (vc, .ok { nome := vc.nomeTextField
               telefone := vc.telefoneTextField
               console := vc.consoleTextField
               email := vc.emailTextField
               senha := vc.senhaTextField
               imagem := vc.imagePerfil })
  else (vc, .error (.error "Alerta" "Preencha todos os campos obrigatorios!"))

/-! ## What an edit does -/

/-- The form after an edit that makes `text` of the field. -/
def edited (textField : CadastroField) (text : String) : CadastroViewController :=
  match textField with
  | .email => { vc with
      emailTextField := text
      verificaEmailLabel :=
        if CadastroController.isValidEmail (normalizedEmail P text) then "" else "Email inválido" }
  | .telefone => { vc with telefoneTextField := CadastroController.formattedNumber text }
  | .senha => { vc with
      senhaTextField := text
      verificaSenhaLabel :=
        if vc.senhaTextField = "" ∧ text ≠ "" then "" else vc.verificaSenhaLabel }
  | .nome => { vc with
      nomeTextField := text
      verificaNomeLabel :=
        if vc.nomeTextField = "" ∧ text ≠ "" then "" else vc.verificaNomeLabel }
  | .console => { vc with consoleTextField := text }

variable {P vc}

/-- Every edit within the range of its field has an effect, and only on that field and its label. -/
theorem edit_eq (textField : CadastroField) (range : NSRange) (string : String) :
    vc.edit P textField range string
      = (replacingCharacters (vc.text textField) range string).map (vc.edited P textField) := by
  cases htext : replacingCharacters (vc.text textField) range string with
  | none =>
    cases textField <;>
      simp_all [edit, shouldChangeCharactersIn, text]
  | some text' =>
    cases textField with
    | email =>
      have htext : replacingCharacters vc.emailTextField range string = some text' := htext
      simp only [edit, shouldChangeCharactersIn, edited, htext, Option.map_some]
      cases CadastroController.isValidEmail (normalizedEmail P text') <;>
        simp [text, setText, htext]
    | telefone =>
      have htext : replacingCharacters vc.telefoneTextField range string = some text' := htext
      simp [edit, shouldChangeCharactersIn, edited, htext]
    | senha =>
      have htext : replacingCharacters vc.senhaTextField range string = some text' := htext
      simp only [edit, shouldChangeCharactersIn, edited, htext, Option.map_some]
      split_ifs <;> simp [text, setText, htext]
    | nome =>
      have htext : replacingCharacters vc.nomeTextField range string = some text' := htext
      simp only [edit, shouldChangeCharactersIn, edited, htext, Option.map_some]
      split_ifs <;> simp [text, setText, htext]
    | console =>
      have htext : replacingCharacters vc.consoleTextField range string = some text' := htext
      simp [edit, shouldChangeCharactersIn, text, setText, edited, htext]

end CadastroViewController

end Poketrader
