import Poketrader.Accounts.Flow
import Poketrader.Views.LoginViewController

/-!
# The application

The devices of the market and their accounts, now with what is on screen. A window shows a stack of
controllers, and only the top one takes inputs: the login and the sign-up form are in front of the
tab bar, the offers and the profile are behind it. A segue is performed by the controller that has
asked for it, and comes to nothing if another one is on top by then. Logging out replaces the whole
stack by a new login.

An answer to a login or to a sign-up signs the account in at once, whatever is on screen; what is on
screen follows by a block on the main queue, if at all.
-/

open Document Foundation

namespace Poketrader

namespace App

/-- The controllers a window shows. -/
inductive Screen where
  | splash
  /-- The `n`-th login controller that has been made on the device. -/
  | login (n : ℕ)
  | cadastro
  | esqueciASenha
  /-- The tab bar, with the screens behind the login. -/
  | tabBar
  deriving DecidableEq

/-- The blocks on the main queue. -/
inductive Block where
  /-- Of `SplashViewController.viewDidLoad`, which has seen whether somebody is signed in. -/
  | splash (signedIn : Bool)
  /-- Of the completion of a login, with the number of its controller and its error. -/
  | entrarButton (n : ℕ) (error : Option String)
  deriving DecidableEq

/-- The block dispatched by the first controller. -/
def viewDidLoad (currentUser : Option AuthUser) : Block := .splash currentUser.isSome

structure State where
  accounts : Accounts.State
  /-- The controllers on screen, the top one first. -/
  window : ℕ → List Screen
  /-- The number of login controllers made. -/
  made : ℕ → ℕ
  /-- The logins on their way, each with its device and the number of its controller. -/
  logins : List (ℕ × ℕ)
  blocks : ℕ → List Block

inductive Act where
  /-- Something happens on a screen, or in the backend. -/
  | accounts (act : Accounts.Act)
  | entrarButton (device : ℕ) (email senha : String)
  /-- The `i`-th of the logins on their way is answered. -/
  | respondLogin (i : ℕ) (authResult : Option AuthUser) (error : Option String)
  /-- The oldest block of the main queue runs. -/
  | runMain (device : ℕ)
  | cadastroButton (device : ℕ) (profilePic : Option PNGData)
  | esqueceuSenhaButton (device : ℕ)
  /-- The sign-up form or that of the forgotten password is left, by its button or by an alert. -/
  | dismiss (device : ℕ)
  | buttonLogout (device : ℕ)

/-- What a window shows once the controller `source` has shown another, which it does only from the
top. -/
def present (window : List Screen) (source destination : Screen) : List Screen :=
  if window.head? = some source then destination :: window else window

namespace State

variable (s : State)

/-- The session of a device. -/
def session (device : ℕ) : Option AuthUser := s.accounts.market.session device

/-- A controller shows another. -/
def performSegue (device : ℕ) (source destination : Screen) : State :=
  { s with
    window := Function.update s.window device (present (s.window device) source destination) }

/-- The segue to the tab bar, whose screens are new if it comes to anything. -/
def feedVC (device : ℕ) (source : Screen) : State :=
  if (s.window device).head? = some source then
    { s with
      accounts := s.accounts.restart device (s.accounts.market.restart device (s.session device))
      window := Function.update s.window device (.tabBar :: s.window device) }
  else s

/-- The segue to a new login controller. -/
def loginVC (device : ℕ) (source : Screen) : State :=
  { s with
    window := Function.update s.window device
      (present (s.window device) source (.login (s.made device)))
    made := Function.update s.made device (s.made device + 1) }

def run (device : ℕ) : Block → State
  | .splash true => s.feedVC device .splash
  | .splash false => s.loginVC device .splash
  | .entrarButton n none => s.feedVC device (.login n)
  | .entrarButton _ (some _) => s

/-- The root is a new login controller, and nobody is signed in. -/
def signOut (device : ℕ) : State :=
  { s with
    accounts := s.accounts.restart device (s.accounts.market.restart device none)
    window := Function.update s.window device [.login (s.made device)]
    made := Function.update s.made device (s.made device + 1) }

end State

/-- Where an action happens: on the screens behind the login, on the sign-up form, or, with no
device, in the backend. -/
def place : Accounts.Act → Option (ℕ × Screen)
  | .market (.input device _) | .market (.loadOffersForIUD device)
  | .market (.commitChanges device _) | .openAddPokemon device | .openPerfil device
  | .perfil device _ => some (device, .tabBar)
  | .cadastro device _ => some (device, .cadastro)
  | .market _ | .telefones _ | .arrive _ | .openCadastro _ _ | .createUser _ _ | .createUserFails _
  | .signIn _ _ | .login _ _ | .buttonLogout _ => none

/-- What the windows have happen. -/
def driven : Accounts.Act → Bool
  | .openCadastro _ _ | .signIn _ _ | .login _ _ | .buttonLogout _ => true
  | .market _ | .telefones _ | .arrive _ | .openAddPokemon _ | .openPerfil _ | .perfil _ _
  | .cadastro _ _ | .createUser _ _ | .createUserFails _ => false

section

variable (P : Platform)

/-- The account of a login without an error is signed in. -/
def signIn (s : Accounts.State) (device : ℕ) (authResult : Option AuthUser)
    (error : Option String) : Option Accounts.State :=
  match authResult, error with
  | some user, none => Accounts.step P s (.signIn device user)
  | _, _ => some s

/-- The block that the completion of a login dispatches, if it is called. -/
def dispatched (n : ℕ) (authResult : Option AuthUser) (error : Option String) : List Block :=
  (AuthenticationWorker.login ⟨none, none, none⟩ authResult error).2.toList.map (.entrarButton n)

def step (s : State) : Act → Option State
  | .accounts act =>
    if driven act = false ∧ ∀ p ∈ place act, (s.window p.1).head? = some p.2 then
      (Accounts.step P s.accounts act).map fun accounts ↦ { s with accounts }
    else none
  | .entrarButton device email senha =>
    match (s.window device).head? with
    | some (.login n) =>
      if LoginViewController.checkFields email senha then
        some { s with logins := s.logins ++ [(device, n)] }
      else some s
    | _ => none
  | .respondLogin i authResult error => (s.logins[i]?).bind fun (device, n) ↦
      (signIn P s.accounts device authResult error).map fun accounts ↦
        { s with
          accounts
          logins := s.logins.eraseIdx i
          blocks := Function.update s.blocks device
            (s.blocks device ++ dispatched n authResult error) }
  | .runMain device =>
    match s.blocks device with
    | [] => none
    | block :: blocks =>
      some ({ s with blocks := Function.update s.blocks device blocks }.run device block)
  | .cadastroButton device profilePic =>
    match (s.window device).head? with
    | some (.login n) =>
      (Accounts.step P s.accounts (.openCadastro device profilePic)).map fun accounts ↦
        { s with accounts }.performSegue device (.login n) .cadastro
    | _ => none
  | .esqueceuSenhaButton device =>
    match (s.window device).head? with
    | some (.login n) => some (s.performSegue device (.login n) .esqueciASenha)
    | _ => none
  | .dismiss device =>
    match s.window device with
    | .cadastro :: window | .esqueciASenha :: window =>
      some { s with window := Function.update s.window device window }
    | _ => none
  | .buttonLogout device =>
    if (s.window device).head? = some .tabBar then some (s.signOut device) else none

/-- Every device has just been started, with nobody signed in. -/
def machine : Machine State Act where
  start :=
    { accounts := (Accounts.machine P).start
      window := fun _ ↦ [.splash]
      made := fun _ ↦ 0
      logins := []
      blocks := fun _ ↦ [viewDidLoad none] }
  step := step P

end

/-! ## The steps -/

/-- The steps, action by action. -/
inductive Steps (P : Platform) (s : State) : Act → State → Prop
  | accounts (act : Accounts.Act) (accounts : Accounts.State) (hdriven : driven act = false)
      (hplace : ∀ p ∈ place act, (s.window p.1).head? = some p.2)
      (haccounts : (Accounts.machine P).step s.accounts act = some accounts) :
    Steps P s (.accounts act) { s with accounts }
  | entrarButton (device n : ℕ) (email senha : String)
      (hhead : (s.window device).head? = some (.login n)) :
    Steps P s (.entrarButton device email senha) { s with logins := s.logins ++ [(device, n)] }
  /-- A field is empty. -/
  | refused (device : ℕ) (email senha : String) : Steps P s (.entrarButton device email senha) s
  | respondLogin (i device n : ℕ) (authResult : Option AuthUser) (error : Option String)
      (accounts : Accounts.State) (hget : s.logins[i]? = some (device, n))
      (haccounts : signIn P s.accounts device authResult error = some accounts) :
    Steps P s (.respondLogin i authResult error)
      { s with
        accounts
        logins := s.logins.eraseIdx i
        blocks := Function.update s.blocks device
          (s.blocks device ++ dispatched n authResult error) }
  | runMain (device : ℕ) (block : Block) (blocks : List Block)
      (hblocks : s.blocks device = block :: blocks) :
    Steps P s (.runMain device)
      ({ s with blocks := Function.update s.blocks device blocks }.run device block)
  | cadastroButton (device n : ℕ) (profilePic : Option PNGData) (accounts : Accounts.State)
      (hhead : (s.window device).head? = some (.login n))
      (haccounts : (Accounts.machine P).step s.accounts (.openCadastro device profilePic)
        = some accounts) :
    Steps P s (.cadastroButton device profilePic)
      ({ s with accounts }.performSegue device (.login n) .cadastro)
  | esqueceuSenhaButton (device n : ℕ) (hhead : (s.window device).head? = some (.login n)) :
    Steps P s (.esqueceuSenhaButton device) (s.performSegue device (.login n) .esqueciASenha)
  | dismiss (device : ℕ) (top : Screen) (window : List Screen)
      (hwindow : s.window device = top :: window) (htop : top = .cadastro ∨ top = .esqueciASenha) :
    Steps P s (.dismiss device) { s with window := Function.update s.window device window }
  | buttonLogout (device : ℕ) (hhead : (s.window device).head? = some .tabBar) :
    Steps P s (.buttonLogout device) (s.signOut device)

variable {P : Platform} {s t : State} {act : Act}

theorem steps_of_step (h : (machine P).step s act = some t) : Steps P s act t := by
  cases act with
  | accounts act =>
    obtain ⟨⟨hdriven, hplace⟩, h⟩ := Option.ite_none_right_eq_some.mp h
    obtain ⟨accounts, haccounts, rfl⟩ := Option.map_eq_some_iff.mp h
    exact .accounts act accounts hdriven hplace haccounts
  | entrarButton device email senha =>
    simp only [machine, step] at h
    split at h
    · next n hhead =>
      split at h
      · obtain rfl := Option.some_inj.mp h
        exact .entrarButton device n email senha hhead
      · obtain rfl := Option.some_inj.mp h
        exact .refused device email senha
    · exact absurd h.symm (Option.some_ne_none t)
  | respondLogin i authResult error =>
    obtain ⟨⟨device, n⟩, hget, h⟩ := Option.bind_eq_some_iff.mp h
    obtain ⟨accounts, haccounts, rfl⟩ := Option.map_eq_some_iff.mp h
    exact .respondLogin i device n authResult error accounts hget haccounts
  | runMain device =>
    simp only [machine, step] at h
    split at h
    · exact absurd h.symm (Option.some_ne_none t)
    · next block blocks hblocks =>
      obtain rfl := Option.some_inj.mp h
      exact .runMain device block blocks hblocks
  | cadastroButton device profilePic =>
    simp only [machine, step] at h
    split at h
    · next n hhead =>
      obtain ⟨accounts, haccounts, rfl⟩ := Option.map_eq_some_iff.mp h
      exact .cadastroButton device n profilePic accounts hhead haccounts
    · exact absurd h.symm (Option.some_ne_none t)
  | esqueceuSenhaButton device =>
    simp only [machine, step] at h
    split at h
    · next n hhead =>
      obtain rfl := Option.some_inj.mp h
      exact .esqueceuSenhaButton device n hhead
    · exact absurd h.symm (Option.some_ne_none t)
  | dismiss device =>
    simp only [machine, step] at h
    split at h
    · next window hwindow =>
      obtain rfl := Option.some_inj.mp h
      exact .dismiss device .cadastro window hwindow (.inl rfl)
    · next window hwindow =>
      obtain rfl := Option.some_inj.mp h
      exact .dismiss device .esqueciASenha window hwindow (.inr rfl)
    · exact absurd h.symm (Option.some_ne_none t)
  | buttonLogout device =>
    obtain ⟨hhead, h⟩ := Option.ite_none_right_eq_some.mp h
    obtain rfl := Option.some_inj.mp h
    exact .buttonLogout device hhead

/-! ## The accounts within -/

/-- The segue to the tab bar opens the screens behind the login. -/
def feedActs (s : State) (device : ℕ) (source : Screen) : List Accounts.Act :=
  if (s.window device).head? = some source then (s.session device).toList.map (.login device)
  else []

/-- The steps of the accounts that a step takes. -/
def accountsActs (s : State) : Act → List Accounts.Act
  | .accounts act => [act]
  | .respondLogin i (some user) none => (s.logins[i]?).elim [] fun (device, _) ↦
      [.signIn device user]
  | .runMain device =>
    match (s.blocks device).head? with
    | some (.splash true) => feedActs s device .splash
    | some (.entrarButton n none) => feedActs s device (.login n)
    | _ => []
  | .cadastroButton device profilePic => [.openCadastro device profilePic]
  | .buttonLogout device => [.buttonLogout device]
  | .respondLogin _ _ _ | .entrarButton _ _ _ | .esqueceuSenhaButton _ | .dismiss _ => []

end App

end Poketrader
