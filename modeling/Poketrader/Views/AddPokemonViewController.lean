import Poketrader.Foundation.Text
import Poketrader.Foundation.UTF16
import Poketrader.Network.OfertasWorker
import Poketrader.Network.PokemonWork

/-!
# The add-offer form

One press of the save button: the title of the game is the only field checked, a valid form is
handed to the worker argument by argument, and all nine fields are cleared either way. The alert
announces what the check said, not what became of the write.

The name and the picture of the offer are not texts of the form. They belong to the Pokemon chosen
on another screen, and are held in two places: the name here, the picture in the controller. The
controller takes over every Pokemon that was answered for, the screen only the name of one whose
picture has a URL.
-/

open Foundation Document

namespace Poketrader

/-- The texts of the nine fields. -/
structure AddPokemonForm where
  gameTitle : String
  nv : String
  hp : String
  defesa : String
  ata : String
  vel : String
  ataSp : String
  defSp : String
  description : String
  deriving DecidableEq

/-- The form as it opens, and after every press. -/
def AddPokemonForm.empty : AddPokemonForm := ⟨"", "", "", "", "", "", "", "", ""⟩

/-- The text fields of the form. The description is not one of them: it has a text view. -/
inductive AddPokemonTextField where
  | gameTitle
  | stat (stat : OfferStat)
  deriving DecidableEq

namespace AddPokemonForm

variable (form : AddPokemonForm)

def text : AddPokemonTextField → String
  | .gameTitle => form.gameTitle
  | .stat .nv => form.nv
  | .stat .hp => form.hp
  | .stat .defesa => form.defesa
  | .stat .ata => form.ata
  | .stat .vel => form.vel
  | .stat .ataSp => form.ataSp
  | .stat .defSp => form.defSp

def setText (textField : AddPokemonTextField) (text : String) : AddPokemonForm :=
  match textField with
  | .gameTitle => { form with gameTitle := text }
  | .stat .nv => { form with nv := text }
  | .stat .hp => { form with hp := text }
  | .stat .defesa => { form with defesa := text }
  | .stat .ata => { form with ata := text }
  | .stat .vel => { form with vel := text }
  | .stat .ataSp => { form with ataSp := text }
  | .stat .defSp => { form with defSp := text }

theorem text_setText_self (textField : AddPokemonTextField)
    (text : String) :
    (form.setText textField text).text textField = text := by
  rcases textField with - | (- | - | - | - | - | - | -) <;> rfl

theorem text_setText_of_ne {textField other : AddPokemonTextField}
    (h : other ≠ textField) (text : String) :
    (form.setText textField text).text other = form.text other := by
  rcases textField with - | (- | - | - | - | - | - | -) <;>
    rcases other with - | (- | - | - | - | - | - | -) <;> first | rfl | exact absurd rfl h

/-- `textField(_:shouldChangeCharactersIn:replacementString:)`. `none` is the exception of a range
that is not within the text. -/
def shouldChangeCharactersIn (textField : AddPokemonTextField) (range : NSRange)
    (string : String) : Option Bool :=
  let maxLength := 10
  let newString := ""
  if textField ≠ .gameTitle then
    let maxLength := 3
    (replacingCharacters (form.text textField) range string).map fun newString ↦
      utf16Length newString ≤ maxLength
  else
    -- the new text has been computed for the other fields only
    some (utf16Length newString ≤ maxLength)

/-- A proposed edit, applied by the field if the form lets it. -/
def edit (textField : AddPokemonTextField) (range : NSRange) (string : String) :
    Option AddPokemonForm :=
  (form.shouldChangeCharactersIn textField range string).bind fun shouldChange ↦
    if shouldChange then
      (replacingCharacters (form.text textField) range string).map (form.setText textField)
    else some form

/-- An edit of the text view, which asks nobody. -/
def editDescription (range : NSRange) (string : String) : Option AddPokemonForm :=
  (replacingCharacters form.description range string).map fun description ↦
    { form with description }

end AddPokemonForm

structure AddPokemonController where
  pokemon : Option Pokemon
  deriving DecidableEq

def AddPokemonController.pokemonURLImage (controller : AddPokemonController) : String :=
  (controller.pokemon.bind Pokemon.sprite).getD ""

/-- `getPokemonData` once the worker has called back: the controller afterwards and what its own
completion is called with. -/
def AddPokemonController.getPokemonData (controller : AddPokemonController) (nomePokemon : String)
    (called : Option Pokemon × Option String) : AddPokemonController × Bool × String :=
  match called with
  | (pokemon, none) => ({ controller with pokemon }, true, "")
  | (_, some _) => (controller, false, "Deu ruim ao pegas as infos do " ++ nomePokemon)

structure AddPokemonViewController where
  form : AddPokemonForm
  namePokemon : Option String
  phoneNumber : Option String
  controller : AddPokemonController
  deriving DecidableEq

/-- An alert, with its title and subtitle. -/
inductive Alert where
  | success (title subTitle : String)
  | error (title subTitle : String)
  deriving DecidableEq

/-- What one press of the save button does. -/
structure Press where
  /-- The writes issued, in order. -/
  writes : List Write
  alert : Alert
  /-- The screen afterwards. -/
  screen : AddPokemonViewController

def validateFields (textFields : List String) : Bool :=
  textFields.all fun text ↦ !(trimmingCharacters whitespacesAndNewlines text).isEmpty

namespace AddPokemonViewController

/-- `sendDataToCadastroVC` once the request it sent is answered. -/
def sendDataToCadastroVC (P : Platform) (vc : AddPokemonViewController) (nomePokemon : String)
    (response : AFResponse) : AddPokemonViewController :=
  let (controller, result, _) :=
    vc.controller.getPokemonData nomePokemon (PokemonWork.getPokemon response)
  let vc := { vc with controller }
  -- by now the controller has the picture, whether or not the name follows
  if result then
    match P.URL controller.pokemonURLImage with
    | some _ => { vc with namePokemon := some nomePokemon }
    | none => vc
  else vc

/-- `getTelephone` once the document of the user has been read, or found missing. -/
def getTelephone (vc : AddPokemonViewController) (document : Option Fields) :
    AddPokemonViewController :=
  match document with
  | some data =>
    match data "telefone" with
    | some teamInfo => { vc with phoneNumber := some (teamInfo.asString.getD "") }
    | none => vc
  | none => vc

def isValid (vc : AddPokemonViewController) : Bool := validateFields [vc.form.gameTitle]

/-- The arguments handed to `savePokemon`. The source passes the text of the special attack both as
`ataSp` and as `ata`. -/
def arguments (vc : AddPokemonViewController) : SaveArguments where
  name := vc.namePokemon
  telefone := vc.phoneNumber
  url := some vc.controller.pokemonURLImage
  game := some vc.form.gameTitle
  nv := some vc.form.nv
  hp := some vc.form.hp
  defesa := some vc.form.defesa
  ata := some vc.form.ataSp
  vel := some vc.form.vel
  defSp := some vc.form.defSp
  ataSp := some vc.form.ataSp
  obs := some vc.form.description

/-- `AddPokemonController.savePokemon`. -/
def savePokemon (currentUser : Option AuthUser) (documentID : String) (args : SaveArguments) :
    List Write := saveOffer currentUser documentID args

def addPokemon (vc : AddPokemonViewController) (currentUser : Option AuthUser)
    (documentID : String) : Press :=
  let screen := { vc with form := .empty }
  if vc.isValid then
    { writes := savePokemon currentUser documentID vc.arguments
      alert := .success "Confirmação" "Pokémon adicionado com sucesso!"
      screen }
  else
    { writes := []
      alert := .error "Alerta" "Preencha todos os campos!"
      screen }

theorem addPokemon_writes_of_isValid {vc : AddPokemonViewController} (h : vc.isValid = true)
    (currentUser : Option AuthUser) (documentID : String) :
    (vc.addPokemon currentUser documentID).writes
      = saveOffer currentUser documentID vc.arguments := by
  rw [addPokemon, if_pos h, savePokemon]

end AddPokemonViewController

end Poketrader
