import Poketrader.Network.OfertasWorker
import Poketrader.Transition.Machine
import Poketrader.Views.BaseViewController

/-!
# The login screen

Every press of the button shows an overlay of its own. With an empty field the press ends at once,
with an alert; else the login is sent, and the block that its completion puts on the main queue
reports the outcome. Each of the three ends hides the latest overlay. Nothing disables the button
while a login is under way.
-/

namespace Poketrader

/-- The shared object with the data of the user. -/
structure UserObject where
  nome : Option String
  email : Option String
  telefone : Option String
  deriving DecidableEq

/-- `AuthenticationWorker.login` once the backend has answered: the user object, and the error its
completion is called with. An answer with neither an error nor a result calls nothing. -/
def AuthenticationWorker.login (usuario : UserObject) (authResult : Option AuthUser)
    (error : Option String) : UserObject × Option (Option String) :=
  match error with
  | some error => (usuario, some (some error))
  | none =>
    match authResult with
    | some user =>
      ({ nome := user.displayName, email := user.email, telefone := user.phoneNumber }, some none)
    | none => (usuario, none)

/-- What a press of the button leads to. -/
inductive LoginOutcome where
  | showError (title subTitle : String)
  | performSegue (identifier : String)
  deriving DecidableEq

structure LoginViewController where
  base : BaseViewController
  usuario : UserObject
  /-- The e-mail addresses and passwords of the logins not yet answered. -/
  logins : List (String × String)
  /-- The errors of the blocks on the main queue. -/
  blocks : List (Option String)
  /-- What the presses have led to, the latest first. -/
  outcomes : List LoginOutcome

namespace LoginViewController

inductive Act where
  | entrarButton (email senha : String)
  /-- The `i`-th of the logins under way is answered. -/
  | respond (i : ℕ) (authResult : Option AuthUser) (error : Option String)
  /-- The oldest block of the main queue runs. -/
  | runMain

def checkFields (email senha : String) : Bool :=
  if email.isEmpty then false
  else if senha.isEmpty then false
  else true

/-- The screen once `viewDidLoad` has returned, which hides the overlay it shows. -/
def viewDidLoad (usuario : UserObject) : LoginViewController where
  base := BaseViewController.loading.hiddenLoading
  usuario := usuario
  logins := []
  blocks := []
  outcomes := []

variable (s : LoginViewController)

/-- The end of a press. -/
def finish (outcome : LoginOutcome) : LoginViewController :=
  { s with base := s.base.hiddenLoading, outcomes := outcome :: s.outcomes }

def entrarButton (email senha : String) : LoginViewController :=
  let s := { s with base := s.base.showLoading }
  if checkFields email senha then { s with logins := s.logins ++ [(email, senha)] }
  else s.finish (.showError "Alerta" "Campos obrigatórios vazio.")

/-- The completion of a login, which dispatches a block in either case. -/
def respond (i : ℕ) (authResult : Option AuthUser) (error : Option String) :
    LoginViewController :=
  let (usuario, called) := AuthenticationWorker.login s.usuario authResult error
  { s with usuario, logins := s.logins.eraseIdx i, blocks := s.blocks ++ called.toList }

/-- The block. -/
def report (error : Option String) : LoginViewController :=
  match error with
  | some _ => s.finish (.showError "Alerta" "Usuário ou senha inválidos")
  | none => s.finish (.performSegue "LoginVC.FeedVC")

/-- `none` where the action cannot happen. -/
def step : Act → Option LoginViewController
  | .entrarButton email senha => some (s.entrarButton email senha)
  | .respond i authResult error =>
    if i < s.logins.length then some (s.respond i authResult error) else none
  | .runMain =>
    match s.blocks with
    | [] => none
    | error :: blocks => some ({ s with blocks }.report error)

def machine (usuario : UserObject) : Machine LoginViewController Act where
  start := viewDidLoad usuario
  step := step

/-- The logins sent whose press has not ended. -/
def underWay : ℕ := s.logins.length + s.blocks.length

/-- Every login has been answered and every block has run. -/
structure Quiescent : Prop where
  logins : s.logins = []
  blocks : s.blocks = []

end LoginViewController

end Poketrader
