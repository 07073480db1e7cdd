import Poketrader.Transition.Machine
import Poketrader.Views.CadastroViewController

/-!
# What the sign-up form accepts

The form in use: fields are edited, a picture is chosen, the button is pressed. What the button
passes on to sign up with is recorded.

## Labels and fields

`checkFields` reads the labels of the e-mail address and of the password. Each is tied to its field
only while the field has a text: then the label of the address is empty exactly if the address is
valid, and the label of the password is empty. An empty field is found by `checkFields` itself, so
what its label says does not matter; and the edit that fills the field again puts the label right.
-/

open Foundation

namespace Poketrader

namespace SignUp

structure State where
  screen : CadastroViewController
  /-- What was passed to `cadastrarUsuario`, the latest first. -/
  submitted : List CadastroArguments
  deriving DecidableEq

inductive Act where
  | edit (textField : CadastroField) (range : NSRange) (string : String)
  /-- A picture is chosen. -/
  | escolherImagem (imagem : Option PNGData)
  /-- Cadastrar is pressed. -/
  | press

variable (P : Platform) (profilePic : Option PNGData)

def initial : State := ⟨.viewDidLoad profilePic, []⟩

def step (s : State) : Act → Option State
  | .edit textField range string =>
    (s.screen.edit P textField range string).map fun screen ↦ { s with screen }
  | .escolherImagem imagem => some { s with screen := { s.screen with imagePerfil := imagem } }
  | .press =>
    let (screen, passed) := s.screen.tappedCadastrarButton
    some { screen, submitted := passed.toOption.toList ++ s.submitted }

def machine : Machine State Act where
  start := initial profilePic
  step := step P

/-- What the form is to accept, read off the fields alone. -/
structure Valid (vc : CadastroViewController) : Prop where
  nome : trimmingCharacters whitespaces vc.nomeTextField ≠ ""
  senha : vc.senhaTextField ≠ ""
  email : vc.emailTextField ≠ ""
  isValidEmail : CadastroController.isValidEmail
    (CadastroViewController.normalizedEmail P vc.emailTextField) = true

instance (vc : CadastroViewController) : Decidable (Valid P vc) :=
  decidable_of_iff (trimmingCharacters whitespaces vc.nomeTextField ≠ "" ∧ vc.senhaTextField ≠ "" ∧
      vc.emailTextField ≠ "" ∧ CadastroController.isValidEmail
        (CadastroViewController.normalizedEmail P vc.emailTextField) = true)
    ⟨fun ⟨nome, senha, email, valid⟩ ↦ ⟨nome, senha, email, valid⟩,
      fun ⟨nome, senha, email, valid⟩ ↦ ⟨nome, senha, email, valid⟩⟩

/-- The labels of the fields that have a text. -/
structure LabelsAgree (vc : CadastroViewController) : Prop where
  email : vc.emailTextField ≠ "" → (vc.verificaEmailLabel = "" ↔ CadastroController.isValidEmail
    (CadastroViewController.normalizedEmail P vc.emailTextField) = true)
  senha : vc.senhaTextField ≠ "" → vc.verificaSenhaLabel = ""

variable {P profilePic}

/-! ## What a press does -/

section

variable {vc : CadastroViewController}

/-- `checkFields` changes labels only, and those of e-mail address and password only where the field
is empty. -/
theorem checkFields_fst : vc.checkFields.1 = { vc with
    verificaNomeLabel :=
      if trimmingCharacters whitespaces vc.nomeTextField = "" then "Campo obrigatório"
      else vc.verificaNomeLabel
    verificaEmailLabel :=
      if vc.emailTextField = "" then "Campo obrigatório" else vc.verificaEmailLabel
    verificaSenhaLabel :=
      if vc.senhaTextField = "" then "Campo obrigatório" else vc.verificaSenhaLabel } := by
  simp only [CadastroViewController.checkFields]
  split_ifs <;> rfl

/-- `checkFields` asks for three texts, and for no complaint in two labels. -/
theorem checkFields_snd : vc.checkFields.2 = true ↔
    trimmingCharacters whitespaces vc.nomeTextField ≠ "" ∧ vc.emailTextField ≠ "" ∧
      vc.verificaEmailLabel = "" ∧ vc.senhaTextField ≠ "" ∧ vc.verificaSenhaLabel = "" := by
  simp only [CadastroViewController.checkFields]
  split_ifs <;> simp_all

/-- What the button passes on where the form passes. -/
def arguments (vc : CadastroViewController) : CadastroArguments where
  nome := vc.nomeTextField
  telefone := vc.telefoneTextField
  console := vc.consoleTextField
  email := vc.emailTextField
  senha := vc.senhaTextField
  imagem := vc.imagePerfil

/-- A form that passes is submitted as it is; another is told so. -/
theorem tappedCadastrarButton_eq : vc.tappedCadastrarButton =
    (vc.checkFields.1, if vc.checkFields.2 = true then .ok (arguments vc)
      else .error (.error "Alerta" "Preencha todos os campos obrigatorios!")) := by
  simp only [CadastroViewController.tappedCadastrarButton]
  split
  · rw [checkFields_fst]
    rfl
  · rfl

/-- What a press does. -/
theorem press_eq_some {s t : State} (h : step P s .press = some t) :
    t.screen = s.screen.checkFields.1 ∧ t.submitted = if s.screen.checkFields.2 = true
      then arguments s.screen :: s.submitted else s.submitted := by
  obtain ⟨screen, submitted⟩ := t
  simp only [step, tappedCadastrarButton_eq, Option.some_inj, State.mk.injEq] at h
  obtain ⟨hscreen, hsubmitted⟩ := h
  refine ⟨hscreen.symm, hsubmitted.symm.trans ?_⟩
  split <;> rfl

/-- While labels and fields agree, `checkFields` accepts exactly the valid forms. -/
theorem LabelsAgree.checkFields_iff (h : LabelsAgree P vc) :
    vc.checkFields.2 = true ↔ Valid P vc := by
  rw [checkFields_snd]
  constructor
  · rintro ⟨hnome, hemail, hlabel, hsenha, -⟩
    exact ⟨hnome, hsenha, hemail, (h.email hemail).mp hlabel⟩
  · rintro ⟨hnome, hsenha, hemail, hvalid⟩
    exact ⟨hnome, hemail, (h.email hemail).mpr hvalid, hsenha, h.senha hsenha⟩

end

/-! ## The labels along a run -/

theorem labelsAgree_initial : LabelsAgree P (initial profilePic).screen where
  email h := absurd rfl h
  senha h := absurd rfl h

/-- An edit keeps labels and fields in agreement. -/
theorem LabelsAgree.edited {vc : CadastroViewController} (h : LabelsAgree P vc)
    (textField : CadastroField) (text : String) : LabelsAgree P (vc.edited P textField text) := by
  cases textField with
  | nome | telefone | console => exact ⟨h.email, h.senha⟩
  | email =>
    refine ⟨fun _ ↦ ?_, h.senha⟩
    simp only [CadastroViewController.edited]
    split
    · next hvalid => exact iff_of_true rfl hvalid
    · next hvalid => exact iff_of_false (by decide) hvalid
  | senha =>
    refine ⟨h.email, fun htext ↦ ?_⟩
    simp only [CadastroViewController.edited]
    split
    · rfl
    · next hold =>
      -- the password had a text before, so its label was empty
      exact h.senha fun hempty ↦ hold ⟨hempty, htext⟩

/-- A press keeps labels and fields in agreement, whether the form passes or not. -/
theorem LabelsAgree.checkFields {vc : CadastroViewController} (h : LabelsAgree P vc) :
    LabelsAgree P vc.checkFields.1 := by
  rw [checkFields_fst]
  constructor
  · intro hemail
    rw [if_neg hemail]
    exact h.email hemail
  · intro hsenha
    rw [if_neg hsenha]
    exact h.senha hsenha

theorem LabelsAgree.step {s t : State} {a : Act} (h : LabelsAgree P s.screen)
    (hstep : (machine P profilePic).step s a = some t) : LabelsAgree P t.screen := by
  cases a with
  | edit textField range string =>
    obtain ⟨vc, hvc, rfl⟩ := Option.map_eq_some_iff.mp hstep
    rw [CadastroViewController.edit_eq] at hvc
    obtain ⟨text, -, rfl⟩ := Option.map_eq_some_iff.mp hvc
    exact h.edited textField text
  | escolherImagem imagem =>
    obtain rfl := Option.some_inj.mp hstep
    exact ⟨h.email, h.senha⟩
  | press =>
    have hpress : SignUp.step P s .press = some t := hstep
    rw [(press_eq_some hpress).1]
    exact h.checkFields

theorem labelsAgree_of_run {acts : List Act} {s : State}
    (hrun : (machine P profilePic).run acts = some s) : LabelsAgree P s.screen :=
  Machine.invariant (I := fun s ↦ LabelsAgree P s.screen) (fun _ _ _ h hstep ↦ h.step hstep)
    labelsAgree_initial hrun

/-- **The form accepts exactly the valid forms**, after any edits and presses. -/
theorem checkFields_iff_valid {acts : List Act} {s : State}
    (hrun : (machine P profilePic).run acts = some s) :
    s.screen.checkFields.2 = true ↔ Valid P s.screen :=
  (labelsAgree_of_run hrun).checkFields_iff

/-- A press on the empty form, then edits that mend it one field after the other. -/
def mendingActs : List Act :=
  [.press, .edit .nome ⟨0, 0⟩ "Ana", .edit .senha ⟨0, 0⟩ "s", .edit .email ⟨0, 0⟩ "ab@cd.e",
    .press, .edit .email ⟨7, 0⟩ "f", .edit .telefone ⟨0, 0⟩ "11987654321"]

theorem checkFields_iff_valid_mendingActs :
    ∃ s, (machine .scalarwise none).run mendingActs = some s ∧
      (s.screen.checkFields.2 = true ↔ Valid .scalarwise s.screen) ∧ Valid .scalarwise s.screen := by
  have hrun : (machine .scalarwise none).run mendingActs
      = some (((machine .scalarwise none).run mendingActs).getD (initial none)) := by rfl
  exact ⟨_, hrun, checkFields_iff_valid hrun, by decide⟩

end SignUp

end Poketrader
