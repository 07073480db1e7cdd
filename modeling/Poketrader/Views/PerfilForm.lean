import Poketrader.Controller.PerfilController
import Poketrader.Foundation.Text
import Poketrader.Foundation.UTF16
import Poketrader.Transition.Machine
import Poketrader.Views.AddPokemonViewController
import Poketrader.Views.PerfilViewController

/-!
# The profile form

The texts of the profile screen and the button, which either frees the fields for editing or saves.
A proposed edit is shown to the form first, as on the sign-up form: an edit of the telephone is
applied by the form itself, through the mask, and an edit that would begin a name where there is
none is refused.
-/

open Document Foundation

namespace Poketrader

/-- The text fields of the form. -/
inductive PerfilField where
  | fullName | email | console | telephone
  deriving DecidableEq

/-- The form, with the two fields that are kept in the document of the user. -/
structure PerfilForm extends PerfilViewController where
  fullNameTextField : String
  emailTextField : String
  /-- The fields are free and the button reads Salvar. Otherwise they are blocked, and it reads
  Editar. -/
  editing : Bool
  /-- The document has not been read. -/
  reading : Bool
  deriving DecidableEq

namespace PerfilForm

/-- The form once `viewDidLoad` has returned. -/
def viewDidLoad (currentUser : Option AuthUser) : PerfilForm where
  fullNameTextField := (currentUser.bind AuthUser.displayName).getD ""
  emailTextField := (currentUser.bind AuthUser.email).getD ""
  telephoneTextField := (currentUser.bind AuthUser.phoneNumber).getD ""
  consoleTextField := ""
  editing := false
  reading := currentUser.isSome

variable (vc : PerfilForm)

def text : PerfilField → String
  | .fullName => vc.fullNameTextField
  | .email => vc.emailTextField
  | .console => vc.consoleTextField
  | .telephone => vc.telephoneTextField

def setText (textField : PerfilField) (text : String) : PerfilForm :=
  match textField with
  | .fullName => { vc with fullNameTextField := text }
  | .email => { vc with emailTextField := text }
  | .console => { vc with consoleTextField := text }
  | .telephone => { vc with telephoneTextField := text }

/-- The address is never free. -/
def isUserInteractionEnabled : PerfilField → Bool
  | .email => false
  | .fullName | .console | .telephone => vc.editing

def liberarTextField : PerfilForm := { vc with editing := true }

def bloquearTextField : PerfilForm := { vc with editing := false }

def checkFields : Bool :=
  let isValid := true
  let isValid := if trimmingCharacters whitespaces vc.fullNameTextField = "" then false
    else isValid
  let isValid := if vc.telephoneTextField = "" then false else isValid
  isValid

/-- `textField(_:shouldChangeCharactersIn:replacementString:)`: the form afterwards, and whether the
field shall apply the edit. -/
def shouldChangeCharactersIn (textField : PerfilField) (range : NSRange) (string : String) :
    Option (PerfilForm × Bool) :=
  match textField with
  | .telephone => (replacingCharacters vc.telephoneTextField range string).map fun newString ↦
      ({ vc with telephoneTextField := PerfilController.formattedNumber newString }, false)
  | .fullName => (replacingCharacters vc.fullNameTextField range string).map fun newNome ↦
      if vc.fullNameTextField = "" ∧ newNome ≠ "" then (vc, false) else (vc, true)
  | .email | .console => some (vc, true)

/-- A proposed edit, shown to the form and then applied if the form lets the field do so. -/
def edit (textField : PerfilField) (range : NSRange) (string : String) : Option PerfilForm :=
  (vc.shouldChangeCharactersIn textField range string).bind fun (vc, shouldChange) ↦
    if shouldChange then
      (replacingCharacters (vc.text textField) range string).map (vc.setText textField)
    else some vc

/-- What `atualizarUsuario` is called with, for a picture. -/
def profile (imagem : Option PNGData) : Profile where
  nome := vc.fullNameTextField
  telefone := vc.telephoneTextField
  console := vc.consoleTextField
  email := vc.emailTextField
  imagem := imagem

/-- The completion passed to `atualizarUsuario`, with the alert it shows. -/
def updated (error : Option String) : PerfilForm × Alert :=
  match error with
  | some _ => (vc, .error "Alerta" "Tivemos um problema em atualizar seu perfil.")
  | none => (vc.bloquearTextField, .success "" "Usuario atualizado com sucesso")

/-- What an event of the save does to the form and the alerts shown. -/
def heard (shown : PerfilForm × List Alert) : Event → PerfilForm × List Alert
  | .completion error => ((shown.1.updated error).1, shown.2 ++ [(shown.1.updated error).2])
  | .requested _ | .succeeded _ | .failed _ => shown

/-- `pressedSalvarButton`: the form and the alerts afterwards. The worker calls the completion from
within the call, if at all. `none` is its trap. -/
def pressedSalvarButton (currentUser : Option AuthUser) (imagem : Option PNGData) :
    Option (PerfilForm × List Alert) :=
  if !vc.editing then some (vc.liberarTextField, [])
  else if vc.checkFields then
    (AuthenticationWorker.upload (vc.profile imagem) (currentUser.map AuthUser.uid)).map fun op ↦
      op.log.foldl heard (vc, [])
  else some (vc, [.error "Alerta" "Preencha todos os campos obrigatorios!"])

inductive Act where
  | edit (textField : PerfilField) (range : NSRange) (string : String)
  | pressedSalvarButton (imagem : Option PNGData)
  | getDocument (document : Option Fields)

/-- `none` where the action cannot happen, or traps. -/
def step (currentUser : Option AuthUser) : Act → Option PerfilForm
  | .edit textField range string =>
    if vc.isUserInteractionEnabled textField then vc.edit textField range string else none
  | .pressedSalvarButton imagem => (vc.pressedSalvarButton currentUser imagem).map Prod.fst
  | .getDocument document =>
    if vc.reading then
      some { vc with
        toPerfilViewController := vc.toPerfilViewController.getTelephone document
        reading := false }
    else none

def machine (currentUser : Option AuthUser) : Machine PerfilForm Act where
  start := viewDidLoad currentUser
  step vc := vc.step currentUser

/-! ## What the steps do -/

/-- The form after an edit that would make `text` of the field. -/
def edited (textField : PerfilField) (text : String) : PerfilForm :=
  match textField with
  | .fullName => if vc.fullNameTextField = "" then vc else { vc with fullNameTextField := text }
  | .telephone => { vc with telephoneTextField := PerfilController.formattedNumber text }
  | .email => { vc with emailTextField := text }
  | .console => { vc with consoleTextField := text }

variable {vc}

/-- An edit within the range of its field changes that field only, and an empty name not at all. -/
theorem edit_eq (textField : PerfilField) (range : NSRange) (string : String) :
    vc.edit textField range string
      = (replacingCharacters (vc.text textField) range string).map (vc.edited textField) := by
  rcases htext : replacingCharacters (vc.text textField) range string with - | text'
  · rcases textField with - | - | - | - <;>
      simp_all [edit, shouldChangeCharactersIn, text]
  · rcases textField with - | - | - | -
    · have htext : replacingCharacters vc.fullNameTextField range string = some text' := htext
      simp only [edit, shouldChangeCharactersIn, edited, htext, Option.map_some, Option.bind_some]
      by_cases hname : vc.fullNameTextField = ""
      · by_cases htext' : text' = ""
        · -- the edit is applied, and leaves the name empty
          have hlet : ¬(vc.fullNameTextField = "" ∧ text' ≠ "") := fun h ↦ h.2 htext'
          simp only [if_neg hlet, if_pos hname, if_true, text, htext, Option.map_some]
          rw [htext', setText, ← hname]
        · have hrefuse : vc.fullNameTextField = "" ∧ text' ≠ "" := ⟨hname, htext'⟩
          simp only [if_pos hrefuse, if_pos hname, Bool.false_eq_true, if_false]
      · have hlet : ¬(vc.fullNameTextField = "" ∧ text' ≠ "") := fun h ↦ hname h.1
        simp only [if_neg hlet, if_neg hname, if_true, text, htext, Option.map_some]
        rfl
    · have htext : replacingCharacters vc.emailTextField range string = some text' := htext
      simp [edit, shouldChangeCharactersIn, text, setText, edited, htext]
    · have htext : replacingCharacters vc.consoleTextField range string = some text' := htext
      simp [edit, shouldChangeCharactersIn, text, setText, edited, htext]
    · have htext : replacingCharacters vc.telephoneTextField range string = some text' := htext
      simp [edit, shouldChangeCharactersIn, edited, htext]

/-- `checkFields` asks for a name that is not blank, and for a telephone. -/
theorem checkFields_iff : vc.checkFields = true ↔
    trimmingCharacters whitespaces vc.fullNameTextField ≠ "" ∧ vc.telephoneTextField ≠ "" := by
  simp only [checkFields]
  split_ifs <;> simp_all

/-- A press of Salvar on fields that pass the check blocks them, whatever becomes of the writes. -/
theorem pressedSalvarButton_eq (hediting : vc.editing = true) (hvalid : vc.checkFields = true)
    (currentUser : Option AuthUser) (imagem : Option PNGData) :
    vc.pressedSalvarButton currentUser imagem = currentUser.map fun _ ↦
      (vc.bloquearTextField, [.success "" "Usuario atualizado com sucesso"]) := by
  simp only [pressedSalvarButton, hediting, hvalid, if_true, Bool.not_true, Bool.false_eq_true,
    if_false]
  rcases currentUser with - | user
  · rfl
  · rcases imagem with - | data <;> rfl

/-- A press changes no text, and Editar frees the fields. -/
theorem press_eq_some {t : PerfilForm} {currentUser : Option AuthUser} {imagem : Option PNGData}
    (h : vc.step currentUser (.pressedSalvarButton imagem) = some t) :
    ∃ editing, t = { vc with editing } ∧ (vc.editing = false → editing = true) := by
  obtain ⟨⟨t, alerts⟩, hpress, rfl⟩ := Option.map_eq_some_iff.mp h
  by_cases hediting : vc.editing = true
  · by_cases hvalid : vc.checkFields = true
    · rw [pressedSalvarButton_eq hediting hvalid] at hpress
      obtain ⟨user, -, hblocked⟩ := Option.map_eq_some_iff.mp hpress
      obtain ⟨rfl, -⟩ := Prod.mk.inj hblocked
      exact ⟨false, rfl, fun hnot ↦ absurd hediting (by rw [hnot]; exact Bool.false_ne_true)⟩
    · simp only [pressedSalvarButton, hediting, hvalid, if_false, Bool.not_true, Bool.false_eq_true,
        Option.some_inj, Prod.mk.injEq] at hpress
      exact ⟨vc.editing, hpress.1.symm, fun hnot ↦ absurd hediting (by
        rw [hnot]; exact Bool.false_ne_true)⟩
  · rw [Bool.not_eq_true] at hediting
    simp only [pressedSalvarButton, hediting, Bool.not_false, if_true, Option.some_inj,
      Prod.mk.injEq] at hpress
    exact ⟨true, hpress.1.symm, fun _ ↦ rfl⟩

end PerfilForm

end Poketrader
