import Poketrader.Market.Safety
import Poketrader.Remote.Registers
import Poketrader.SignUp.Validity
import Poketrader.Views.PerfilForm

/-!
# The market with its accounts

The devices of the market, now with the sign-up form, the profile form and the collection
`telefones`, which keeps a document for each account. A telephone enters by one of the two forms,
lies in that document, is looked up by the add-offer screen as it opens, and is stored again in
every offer saved there. All of this takes its time: a document is read while another is on its way
to replace it, and what was read arrives at a screen that may have been left.

What the market takes as it comes, the document a lookup finds and the answer to a sign-up, is made
here. So the market's own steps are all but these (`direct`).
-/

open Document Foundation

namespace Poketrader

open Remote (Registers)

/-- What the worker makes of the arguments. -/
def CadastroArguments.profile (args : CadastroArguments) : Profile where
  nome := args.nome
  telefone := args.telefone
  console := args.console
  email := args.email
  imagem := args.imagem

/-- What an action on the profile form submits. -/
def PerfilForm.submitted (vc : PerfilForm) : PerfilForm.Act → Option Profile
  | .pressedSalvarButton imagem =>
    if vc.editing && vc.checkFields then some (vc.profile imagem) else none
  | .edit _ _ _ | .getDocument _ => none

/-- Send the document writes of an operation. -/
def Operation.send {ι : Type*} (op : Operation) (telefones : Registers String Fields ι) :
    Registers String Fields ι :=
  op.writes.foldl (fun r w ↦ match w with
    | .setData id data => r.write id data
    | .updateData _ _ | .delete _ => r) telefones

namespace Accounts

/-- The screens that look the document of the user up. -/
inductive Reader where
  | perfil | addPokemon
  deriving DecidableEq

structure State where
  market : Market.State
  /-- The documents of `telefones`. -/
  telefones : Registers String Fields (ℕ × Reader)
  cadastro : ℕ → CadastroViewController
  perfil : ℕ → Option PerfilForm
  /-- The sign-ups on their way, each from its device. -/
  signups : List (ℕ × CadastroArguments)

inductive Act where
  /-- The market takes a step of its own. -/
  | market (act : Market.Act)
  | telefones (event : Remote.Event)
  /-- A document that has been read arrives. -/
  | arrive (n : ℕ)
  | openAddPokemon (device : ℕ)
  | openPerfil (device : ℕ)
  | perfil (device : ℕ) (act : PerfilForm.Act)
  | openCadastro (device : ℕ) (profilePic : Option PNGData)
  | cadastro (device : ℕ) (act : SignUp.Act)
  /-- The `i`-th sign-up on its way has created an account. -/
  | createUser (i : ℕ) (user : AuthUser)
  | createUserFails (i : ℕ)
  /-- A login is answered. -/
  | signIn (device : ℕ) (user : AuthUser)
  /-- The screens behind the login open. -/
  | login (device : ℕ) (user : AuthUser)
  | buttonLogout (device : ℕ)

/-- What happens in the market by itself. -/
def direct : Market.Act → Bool
  | .input _ (.getTelephone _) | .input _ .cancelPokemon | .login _ _ | .createUser _ _
  | .buttonLogout _ => false
  | .input _ _ | .loadOffersForIUD _ | .respond _ | .store _ _ | .reject _ _
  | .commitChanges _ _ => true

namespace State

/-- The session of a device begins or ends: its screens are gone, and nothing they have asked for
arrives. -/
def restart (s : State) (device : ℕ) (market : Market.State) : State :=
  { s with
    market
    telefones := (s.telefones.forget (device, .perfil)).forget (device, .addPokemon)
    perfil := Function.update s.perfil device none }

/-- The profile form of a device becomes `vc`, and what it submits is sent. -/
def save (s : State) (device : ℕ) (vc : PerfilForm) (submitted : Option Profile) : State :=
  { s with
    perfil := Function.update s.perfil device (some vc)
    telefones := ((submitted.bind fun profile ↦
      AuthenticationWorker.upload profile ((s.market.session device).map AuthUser.uid)).elim
        s.telefones fun op ↦ op.send s.telefones) }

end State

section

variable (P : Platform)

def step (s : State) : Act → Option State
  | .market act =>
    if direct act then (Market.step P s.market act).map fun market ↦ { s with market } else none
  | .telefones event => (s.telefones.event event).map fun telefones ↦ { s with telefones }
  | .arrive n => (s.telefones.arrive n).bind fun ((device, reader), document, telefones) ↦
      match reader with
      | .addPokemon =>
        (Market.step P s.market (.input device (.getTelephone document))).map fun market ↦
          { s with market, telefones }
      | .perfil => (s.perfil device).bind fun vc ↦
          (vc.step (s.market.session device) (.getDocument document)).map fun vc ↦
            { s with telefones, perfil := Function.update s.perfil device (some vc) }
  | .openAddPokemon device => (s.market.session device).bind fun user ↦
      (Market.step P s.market (.input device .cancelPokemon)).map fun market ↦
        { s with
          market
          telefones := (s.telefones.forget (device, .addPokemon)).ask (device, .addPokemon)
            user.uid }
  | .openPerfil device => (s.market.session device).map fun user ↦
      { s with
        perfil := Function.update s.perfil device (some (.viewDidLoad (some user)))
        telefones := (s.telefones.forget (device, .perfil)).ask (device, .perfil) user.uid }
  | .perfil device act =>
    match act with
    | .getDocument _ => none
    | .edit _ _ _ | .pressedSalvarButton _ => (s.perfil device).bind fun vc ↦
        (vc.step (s.market.session device) act).map fun vc' ↦
          s.save device vc' (vc.submitted act)
  | .openCadastro device profilePic =>
    some { s with cadastro := Function.update s.cadastro device (.viewDidLoad profilePic) }
  | .cadastro device act => (SignUp.step P ⟨s.cadastro device, []⟩ act).map fun form ↦
      { s with
        cadastro := Function.update s.cadastro device form.screen
        signups := s.signups ++ form.submitted.map (Prod.mk device) }
  | .createUser i user => (s.signups[i]?).bind fun (device, args) ↦
      (Market.step P s.market (.createUser device user)).map fun market ↦
        { s with
          market
          signups := s.signups.eraseIdx i
          telefones := (AuthenticationWorker.signup args.profile (some user.uid) none).send
            s.telefones }
  | .createUserFails i => (s.signups[i]?).map fun _ ↦
      { s with signups := s.signups.eraseIdx i }
  | .signIn device user =>
    -- the session is another, and the screens are those there are
    (Market.step P s.market (.createUser device user)).map fun market ↦ { s with market }
  | .login device user =>
    (Market.step P s.market (.login device user)).map (s.restart device)
  | .buttonLogout device =>
    (Market.step P s.market (.buttonLogout device)).map (s.restart device)

/-- No account, and every form as it opens. -/
def machine : Machine State Act where
  start := ⟨(Market.machine P).start, .empty, fun _ ↦ .viewDidLoad none, fun _ ↦ none, []⟩
  step := step P

end

/-! ## The steps -/

/-- The steps, action by action. -/
inductive Steps (P : Platform) (s : State) : Act → State → Prop
  | market (act : Market.Act) (market : Market.State) (hdirect : direct act = true)
      (hmarket : Market.step P s.market act = some market) :
    Steps P s (.market act) { s with market }
  | telefones (event : Remote.Event) (telefones : Registers String Fields (ℕ × Reader))
      (hevent : s.telefones.event event = some telefones) :
    Steps P s (.telefones event) { s with telefones }
  | getTelephone (n device : ℕ) (document : Option Fields)
      (telefones : Registers String Fields (ℕ × Reader)) (market : Market.State)
      (harrive : s.telefones.arrive n = some ((device, .addPokemon), document, telefones))
      (hmarket : Market.step P s.market (.input device (.getTelephone document)) = some market) :
    Steps P s (.arrive n) { s with market, telefones }
  | getDocument (n device : ℕ) (document : Option Fields)
      (telefones : Registers String Fields (ℕ × Reader)) (vc vc' : PerfilForm)
      (harrive : s.telefones.arrive n = some ((device, .perfil), document, telefones))
      (hvc : s.perfil device = some vc)
      (hvc' : vc.step (s.market.session device) (.getDocument document) = some vc') :
    Steps P s (.arrive n)
      { s with telefones, perfil := Function.update s.perfil device (some vc') }
  | openAddPokemon (device : ℕ) (user : AuthUser) (market : Market.State)
      (huser : s.market.session device = some user)
      (hmarket : Market.step P s.market (.input device .cancelPokemon) = some market) :
    Steps P s (.openAddPokemon device)
      { s with
        market
        telefones := (s.telefones.forget (device, .addPokemon)).ask (device, .addPokemon)
          user.uid }
  | openPerfil (device : ℕ) (user : AuthUser) (huser : s.market.session device = some user) :
    Steps P s (.openPerfil device)
      { s with
        perfil := Function.update s.perfil device (some (.viewDidLoad (some user)))
        telefones := (s.telefones.forget (device, .perfil)).ask (device, .perfil) user.uid }
  | perfil (device : ℕ) (act : PerfilForm.Act) (vc vc' : PerfilForm)
      (hact : ∀ document, act ≠ .getDocument document) (hvc : s.perfil device = some vc)
      (hvc' : vc.step (s.market.session device) act = some vc') :
    Steps P s (.perfil device act) (s.save device vc' (vc.submitted act))
  | openCadastro (device : ℕ) (profilePic : Option PNGData) :
    Steps P s (.openCadastro device profilePic)
      { s with cadastro := Function.update s.cadastro device (.viewDidLoad profilePic) }
  | cadastro (device : ℕ) (act : SignUp.Act) (form : SignUp.State)
      (hform : SignUp.step P ⟨s.cadastro device, []⟩ act = some form) :
    Steps P s (.cadastro device act)
      { s with
        cadastro := Function.update s.cadastro device form.screen
        signups := s.signups ++ form.submitted.map (Prod.mk device) }
  | createUser (i device : ℕ) (args : CadastroArguments) (user : AuthUser)
      (market : Market.State) (hget : s.signups[i]? = some (device, args))
      (hmarket : Market.step P s.market (.createUser device user) = some market) :
    Steps P s (.createUser i user)
      { s with
        market
        signups := s.signups.eraseIdx i
        telefones := (AuthenticationWorker.signup args.profile (some user.uid) none).send
          s.telefones }
  | createUserFails (i : ℕ) (p : ℕ × CadastroArguments) (hget : s.signups[i]? = some p) :
    Steps P s (.createUserFails i) { s with signups := s.signups.eraseIdx i }
  | signIn (device : ℕ) (user : AuthUser) (market : Market.State)
      (hmarket : Market.step P s.market (.createUser device user) = some market) :
    Steps P s (.signIn device user) { s with market }
  | login (device : ℕ) (user : AuthUser)
      (hmarket : Market.step P s.market (.login device user)
        = some (s.market.restart device (some user))) :
    Steps P s (.login device user) (s.restart device (s.market.restart device (some user)))
  | buttonLogout (device : ℕ)
      (hmarket : Market.step P s.market (.buttonLogout device)
        = some (s.market.restart device none)) :
    Steps P s (.buttonLogout device) (s.restart device (s.market.restart device none))

variable {P : Platform} {s t : State} {acts : List Act} {act : Act}

theorem steps_of_step (hstep : (machine P).step s act = some t) : Steps P s act t := by
  cases act with
  | market act =>
    obtain ⟨hdirect, hstep⟩ := Option.ite_none_right_eq_some.mp hstep
    obtain ⟨market, hmarket, rfl⟩ := Option.map_eq_some_iff.mp hstep
    exact .market act market hdirect hmarket
  | telefones event =>
    obtain ⟨telefones, hevent, rfl⟩ := Option.map_eq_some_iff.mp hstep
    exact .telefones event telefones hevent
  | arrive n =>
    obtain ⟨⟨⟨device, reader⟩, document, telefones⟩, harrive, hstep⟩ :=
      Option.bind_eq_some_iff.mp hstep
    cases reader with
    | addPokemon =>
      obtain ⟨market, hmarket, rfl⟩ := Option.map_eq_some_iff.mp hstep
      exact .getTelephone n device document telefones market harrive hmarket
    | perfil =>
      obtain ⟨vc, hvc, hstep⟩ := Option.bind_eq_some_iff.mp hstep
      obtain ⟨vc', hvc', rfl⟩ := Option.map_eq_some_iff.mp hstep
      exact .getDocument n device document telefones vc vc' harrive hvc hvc'
  | openAddPokemon device =>
    obtain ⟨user, huser, hstep⟩ := Option.bind_eq_some_iff.mp hstep
    obtain ⟨market, hmarket, rfl⟩ := Option.map_eq_some_iff.mp hstep
    exact .openAddPokemon device user market huser hmarket
  | openPerfil device =>
    obtain ⟨user, huser, rfl⟩ := Option.map_eq_some_iff.mp hstep
    exact .openPerfil device user huser
  | perfil device act =>
    cases act with
    | getDocument => exact absurd hstep.symm (Option.some_ne_none t)
    | edit | pressedSalvarButton =>
      obtain ⟨vc, hvc, hstep⟩ := Option.bind_eq_some_iff.mp hstep
      obtain ⟨vc', hvc', rfl⟩ := Option.map_eq_some_iff.mp hstep
      exact .perfil device _ vc vc' (by simp) hvc hvc'
  | openCadastro device profilePic =>
    obtain rfl := Option.some_inj.mp hstep
    exact .openCadastro device profilePic
  | cadastro device act =>
    obtain ⟨form, hform, rfl⟩ := Option.map_eq_some_iff.mp hstep
    exact .cadastro device act form hform
  | createUser i user =>
    obtain ⟨⟨device, args⟩, hget, hstep⟩ := Option.bind_eq_some_iff.mp hstep
    obtain ⟨market, hmarket, rfl⟩ := Option.map_eq_some_iff.mp hstep
    exact .createUser i device args user market hget hmarket
  | createUserFails i =>
    obtain ⟨p, hget, rfl⟩ := Option.map_eq_some_iff.mp hstep
    exact .createUserFails i p hget
  | signIn device user =>
    obtain rfl := Option.some_inj.mp hstep
    exact .signIn device user _ rfl
  | login device user =>
    obtain rfl := Option.some_inj.mp hstep
    exact .login device user rfl
  | buttonLogout device =>
    obtain ⟨market, hmarket, rfl⟩ := Option.map_eq_some_iff.mp hstep
    obtain ⟨hsession, heq⟩ := Option.ite_none_right_eq_some.mp hmarket
    obtain rfl := Option.some_inj.mp heq
    exact .buttonLogout device hmarket

/-! ## The market within -/

/-- The steps of the market that a step takes. -/
def marketActs (s : State) : Act → List Market.Act
  | .market act => [act]
  | .arrive n => (s.telefones.arrive n).elim [] fun ((device, reader), document, _) ↦
      match reader with
      | .addPokemon => [.input device (.getTelephone document)]
      | .perfil => []
  | .openAddPokemon device => [.input device .cancelPokemon]
  | .createUser i user => (s.signups[i]?).elim [] fun (device, _) ↦ [.createUser device user]
  | .signIn device user => [.createUser device user]
  | .login device user => [.login device user]
  | .buttonLogout device => [.buttonLogout device]
  | .telefones _ | .openPerfil _ | .perfil _ _ | .openCadastro _ _ | .cadastro _ _
  | .createUserFails _ => []

/-- What the two forms submit: the account, and the telephone. -/
def submissions (s : State) : Act → List (String × String)
  | .perfil device act => (((s.perfil device).bind fun vc ↦ vc.submitted act).map fun profile ↦
      (s.market.uid device, profile.telefone)).toList
  | .createUser i user => (s.signups[i]?).elim [] fun (_, args) ↦ [(user.uid, args.telefone)]
  | .market _ | .telefones _ | .arrive _ | .openAddPokemon _ | .openPerfil _ | .openCadastro _ _
  | .cadastro _ _ | .createUserFails _ | .signIn _ _ | .login _ _ | .buttonLogout _ => []

/-- A step takes the steps of the market it is traced to. -/
theorem exec_marketActs (hstep : (machine P).step s act = some t) :
    (Market.machine P).exec s.market (marketActs s act) = some t.market := by
  cases steps_of_step hstep with
  | market act market hdirect hmarket => exact Machine.exec_of_step hmarket
  | getTelephone n device document telefones market harrive hmarket =>
    rw [marketActs, harrive]
    exact Machine.exec_of_step hmarket
  | getDocument n device document telefones vc vc' harrive =>
    rw [marketActs, harrive]
    rfl
  | openAddPokemon device user market huser hmarket => exact Machine.exec_of_step hmarket
  | createUser i device args user market hget hmarket =>
    rw [marketActs, hget]
    exact Machine.exec_of_step hmarket
  | signIn device user market hmarket => exact Machine.exec_of_step hmarket
  | login device user hmarket | buttonLogout device hmarket => exact Machine.exec_of_step hmarket
  | telefones | openPerfil | perfil | openCadastro | cadastro | createUserFails => rfl

/-- **The market is what it was.** Whatever the forms and the documents of the accounts do, the
offers, the sessions and the alerts go through a run of the market. -/
theorem market_of_run (hrun : (machine P).run acts = some s) :
    (Market.machine P).run ((machine P).trace marketActs (machine P).start acts)
      = some s.market := by
  obtain ⟨m, hm, rfl⟩ := Machine.exec_trace_of_allowed (M := machine P) (N := Market.machine P)
    (G := fun _ _ ↦ True) (R := fun s m ↦ s.market = m) (f := marketActs)
    (fun s act t m hm _ hstep ↦ ⟨t.market, hm ▸ exec_marketActs hstep, rfl⟩) rfl
    (Machine.allowed_of_forall_mem (fun _ _ _ ↦ trivial) _) hrun
  exact hm

end Accounts

end Poketrader
