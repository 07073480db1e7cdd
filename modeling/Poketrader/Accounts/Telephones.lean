import Poketrader.Accounts.Flow
import Poketrader.Phone.Mask

/-!
# Telephones

What is known of the telephone in a stored offer: it is a number as the mask leaves it, and it has
been submitted, in one of the two forms, by the account that the offer names.

The forms keep the first by themselves, since every edit of a telephone goes through the mask and
what they read has been submitted by them before. The second is a matter of the sessions.
-/

open Document Foundation

namespace Poketrader

namespace Accounts

open Market (seller)

variable {P : Platform} {s t : State} {acts : List Act} {act : Act} {k : String} {data : Fields}

/-! ## The forms -/

/-- A number as the mask leaves it. -/
def Masked (telefone : String) : Prop := CadastroController.formattedNumber telefone = telefone

theorem masked_formattedNumber (number : String) :
    Masked (CadastroController.formattedNumber number) :=
  Phone.normalForm_formattedNumber.1.idempotent number

theorem masked_empty : Masked "" := by
  rw [Masked, CadastroController.formattedNumber]
  simp

def masked : OnTelephones where
  Holds _ := Masked
  empty _ := masked_empty

/-- Every telephone in a form is masked, and no account has one of its own. -/
structure Forms (s : State) : Prop where
  phoneNumber : ∀ device user, s.market.session device = some user → user.phoneNumber = none
  cadastro : ∀ device, Masked (s.cadastro device).telefoneTextField
  perfil : ∀ device vc, s.perfil device = some vc → Masked vc.telephoneTextField
  signups : ∀ p ∈ s.signups, Masked p.2.telefone

/-- Accounts are made with an e-mail address, and have no telephone. -/
def ByEmail (_ : State) : Act → Prop
  | .createUser _ user | .signIn _ user | .login _ user => user.phoneNumber = none
  | .market _ | .telefones _ | .arrive _ | .openAddPokemon _ | .openPerfil _ | .perfil _ _
  | .openCadastro _ _ | .cadastro _ _ | .createUserFails _ | .buttonLogout _ => True

/-- An action on the sign-up form keeps its telephone masked, and submits a masked one. -/
theorem masked_signUp {vc : CadastroViewController} (h : Masked vc.telefoneTextField)
    {act : SignUp.Act} {form : SignUp.State} (hstep : SignUp.step P ⟨vc, []⟩ act = some form) :
    Masked form.screen.telefoneTextField ∧ ∀ args ∈ form.submitted, Masked args.telefone := by
  cases act with
  | edit textField range string =>
    obtain ⟨screen, hscreen, rfl⟩ := Option.map_eq_some_iff.mp hstep
    rw [CadastroViewController.edit_eq] at hscreen
    obtain ⟨text, -, rfl⟩ := Option.map_eq_some_iff.mp hscreen
    refine ⟨?_, fun args hargs ↦ absurd hargs List.not_mem_nil⟩
    cases textField with
    | telefone => exact masked_formattedNumber text
    | nome | console | email | senha => exact h
  | escolherImagem imagem =>
    obtain rfl := Option.some_inj.mp hstep
    exact ⟨h, fun args hargs ↦ absurd hargs List.not_mem_nil⟩
  | press =>
    obtain ⟨hscreen, hsubmitted⟩ := SignUp.press_eq_some hstep
    rw [hscreen, hsubmitted, SignUp.checkFields_fst]
    refine ⟨h, fun args hargs ↦ ?_⟩
    split at hargs
    · rw [List.mem_singleton.mp hargs]
      exact h
    · exact absurd hargs List.not_mem_nil

/-- So does an action on the profile form. -/
theorem masked_perfil {vc vc' : PerfilForm} (h : Masked vc.telephoneTextField)
    {currentUser : Option AuthUser} {act : PerfilForm.Act}
    (hstep : vc.step currentUser act = some vc')
    (hdocument : ∀ data, act = .getDocument (some data) →
      ∃ uid, Carries masked uid data) :
    Masked vc'.telephoneTextField := by
  cases act with
  | edit textField range string =>
    obtain ⟨-, hstep⟩ := Option.ite_none_right_eq_some.mp hstep
    rw [PerfilForm.edit_eq] at hstep
    obtain ⟨text, -, rfl⟩ := Option.map_eq_some_iff.mp hstep
    cases textField with
    | telephone => exact masked_formattedNumber text
    | email | console => exact h
    | fullName =>
      rw [PerfilForm.edited]
      split <;> exact h
  | pressedSalvarButton imagem =>
    obtain ⟨editing, rfl, -⟩ := PerfilForm.press_eq_some hstep
    exact h
  | getDocument document =>
    obtain ⟨-, hstep⟩ := Option.ite_none_right_eq_some.mp hstep
    obtain rfl := Option.some_inj.mp hstep
    rcases document with - | data
    · exact h
    · obtain ⟨uid, telefone, heq, hmasked⟩ := hdocument data rfl
      dsimp only
      rw [PerfilViewController.getTelephone, Fields.eq_string heq]
      -- the fields are filled only if there is a console as well
      rcases data "console" with - | console
      · exact h
      · exact hmasked

theorem phoneNumber_of_direct {m m' : Market.State} {act : Market.Act}
    (h : ∀ device user, m.session device = some user → user.phoneNumber = none)
    (hdirect : direct act = true) (hstep : Market.step P m act = some m') :
    ∀ device user, m'.session device = some user → user.phoneNumber = none := by
  cases Market.steps_of_step hstep with
  | commitChanges device displayName user huser =>
    refine (Function.forall_update_iff m.session
      (p := fun _ currentUser ↦ ∀ u, currentUser = some u → u.phoneNumber = none)).mpr
      ⟨fun u hu ↦ ?_, fun d _ ↦ h d⟩
    rw [← Option.some_inj.mp hu]
    exact h device user huser
  | input | loadOffersForIUD | respond | store | reject => exact h
  | login | createUser | buttonLogout => exact absurd hdirect Bool.false_ne_true

/-- A session that begins or ends. -/
theorem phoneNumber_update {m : Market.State} {device : ℕ} {currentUser : Option AuthUser}
    (h : ∀ device user, m.session device = some user → user.phoneNumber = none)
    (hnone : ∀ user, currentUser = some user → user.phoneNumber = none) :
    ∀ d user, Function.update m.session device currentUser d = some user →
      user.phoneNumber = none :=
  (Function.forall_update_iff m.session
    (p := fun _ currentUser ↦ ∀ u, currentUser = some u → u.phoneNumber = none)).mpr
    ⟨hnone, fun d _ ↦ h d⟩

namespace Forms

theorem start (P : Platform) : Forms (machine P).start where
  phoneNumber _ user h := absurd h.symm (Option.some_ne_none user)
  cadastro _ := masked_empty
  perfil _ vc h := absurd h.symm (Option.some_ne_none vc)
  signups _ h := absurd h List.not_mem_nil

/-- What the forms submit is masked. -/
theorem submissions (h : Forms s) : ∀ p ∈ submissions s act, Masked p.2 := by
  intro p hp
  cases act with
  | perfil device act =>
    obtain ⟨profile, hprofile, rfl⟩ := Option.map_eq_some_iff.mp (Option.mem_toList.mp hp)
    obtain ⟨vc, hvc, hsubmitted⟩ := Option.bind_eq_some_iff.mp hprofile
    cases act with
    | pressedSalvarButton imagem =>
      obtain ⟨-, hsubmitted⟩ := Option.ite_none_right_eq_some.mp hsubmitted
      rw [← Option.some_inj.mp hsubmitted]
      exact h.perfil device vc hvc
    | edit | getDocument => exact absurd hsubmitted.symm (Option.some_ne_none profile)
  | createUser i user =>
    rw [Accounts.submissions] at hp
    rcases hget : s.signups[i]? with - | ⟨device, args⟩
    · rw [hget] at hp
      exact absurd hp List.not_mem_nil
    · rw [hget] at hp
      rw [List.mem_singleton.mp hp]
      exact h.signups (device, args) (List.mem_of_getElem? hget)
  | market | telefones | arrive | openAddPokemon | openPerfil | openCadastro | cadastro
  | createUserFails | signIn | login | buttonLogout => exact absurd hp List.not_mem_nil

/-- The profile form of a device becomes another. -/
theorem perfil_update (h : Forms s) {device : ℕ} {form : Option PerfilForm}
    (hform : ∀ vc, form = some vc → Masked vc.telephoneTextField) :
    ∀ d vc, Function.update s.perfil device form d = some vc → Masked vc.telephoneTextField :=
  (Function.forall_update_iff s.perfil
    (p := fun _ form ↦ ∀ vc, form = some vc → Masked vc.telephoneTextField)).mpr
    ⟨hform, fun d _ ↦ h.perfil d⟩

/-- A session begins or ends. -/
theorem restart (h : Forms s) (device : ℕ) {currentUser : Option AuthUser}
    (hnone : ∀ user, currentUser = some user → user.phoneNumber = none) :
    Forms (s.restart device (s.market.restart device currentUser)) where
  phoneNumber := phoneNumber_update h.phoneNumber hnone
  cadastro := h.cadastro
  perfil := h.perfil_update fun vc heq ↦ absurd heq.symm (Option.some_ne_none vc)
  signups := h.signups

/-- The sign-up form of a device becomes another. -/
theorem cadastro_update (h : Forms s) (device : ℕ) {form : CadastroViewController}
    (hform : Masked form.telefoneTextField) :
    ∀ d, Masked (Function.update s.cadastro device form d).telefoneTextField :=
  (Function.forall_update_iff s.cadastro (p := fun _ vc ↦ Masked vc.telefoneTextField)).mpr
    ⟨hform, fun d _ ↦ h.cadastro d⟩

theorem step (h : Forms s) (hflow : Flow Market.anybody masked s)
    (hemail : ByEmail s act) (hstep : (machine P).step s act = some t) : Forms t := by
  cases steps_of_step hstep with
  | market act market hdirect hmarket =>
    exact ⟨phoneNumber_of_direct h.phoneNumber hdirect hmarket, h.cadastro, h.perfil, h.signups⟩
  | telefones => exact ⟨h.phoneNumber, h.cadastro, h.perfil, h.signups⟩
  | getTelephone n device document telefones market harrive hmarket =>
    cases Market.steps_of_step hmarket with
    | input => exact ⟨h.phoneNumber, h.cadastro, h.perfil, h.signups⟩
  | getDocument n device document telefones vc vc' harrive hvc hvc' =>
    obtain ⟨-, uid, -, hdocument⟩ := hflow.telefones.arrive harrive
    refine ⟨h.phoneNumber, h.cadastro, h.perfil_update fun form hform ↦ ?_, h.signups⟩
    obtain rfl := Option.some_inj.mp hform
    refine masked_perfil (h.perfil device vc hvc) hvc' fun data heq ↦ ⟨uid, ?_⟩
    exact hdocument data (PerfilForm.Act.getDocument.inj heq)
  | openAddPokemon device user market huser hmarket =>
    cases Market.steps_of_step hmarket with
    | input => exact ⟨h.phoneNumber, h.cadastro, h.perfil, h.signups⟩
  | openPerfil device user huser =>
    refine ⟨h.phoneNumber, h.cadastro, h.perfil_update fun form hform ↦ ?_, h.signups⟩
    rw [← Option.some_inj.mp hform, PerfilForm.viewDidLoad, Option.bind_some,
      h.phoneNumber device user huser]
    exact masked_empty
  | perfil device act vc vc' hact hvc hvc' =>
    refine ⟨h.phoneNumber, h.cadastro, h.perfil_update fun form hform ↦ ?_, h.signups⟩
    obtain rfl := Option.some_inj.mp hform
    exact masked_perfil (h.perfil device vc hvc) hvc' fun data heq ↦ absurd heq (hact _)
  | openCadastro device profilePic =>
    exact ⟨h.phoneNumber, h.cadastro_update device masked_empty, h.perfil, h.signups⟩
  | cadastro device act form hform =>
    obtain ⟨hscreen, hsubmitted⟩ := masked_signUp (h.cadastro device) hform
    refine ⟨h.phoneNumber, h.cadastro_update device hscreen, h.perfil, fun p hp ↦ ?_⟩
    rcases List.mem_append.mp hp with hp | hp
    · exact h.signups p hp
    · obtain ⟨args, hargs, rfl⟩ := List.mem_map.mp hp
      exact hsubmitted args hargs
  | createUser i device args user market hget hmarket =>
    obtain rfl := Option.some_inj.mp hmarket
    exact ⟨phoneNumber_update h.phoneNumber fun u hu ↦ Option.some_inj.mp hu ▸ hemail, h.cadastro,
      h.perfil, fun p hp ↦ h.signups p (List.mem_of_mem_eraseIdx hp)⟩
  | createUserFails i p hget =>
    exact ⟨h.phoneNumber, h.cadastro, h.perfil,
      fun p hp ↦ h.signups p (List.mem_of_mem_eraseIdx hp)⟩
  | signIn device user market hmarket =>
    obtain rfl := Option.some_inj.mp hmarket
    exact ⟨phoneNumber_update h.phoneNumber fun u hu ↦ Option.some_inj.mp hu ▸ hemail, h.cadastro,
      h.perfil, h.signups⟩
  | login device user hmarket =>
    exact h.restart device fun u hu ↦ Option.some_inj.mp hu ▸ hemail
  | buttonLogout device hmarket =>
    exact h.restart device fun u hu ↦ absurd hu.symm (Option.some_ne_none u)

end Forms

/-! ## What is stored -/

/-- **Stored numbers are masked.** Among accounts that are made with an e-mail address, the
telephone in every document of an account and in every stored offer is as the mask leaves it. -/
theorem masked_of_run (hemail : (machine P).Allowed ByEmail (machine P).start acts)
    (hrun : (machine P).run acts = some s) :
    (∀ uid data, s.telefones.values uid = some data →
      ∃ telefone, data.string "telefone" = some telefone ∧ Masked telefone) ∧
    ∀ (k : String) data, s.market.anuncio[k]? = some data →
      ∃ telefone, data.string "telefone" = some telefone ∧ Masked telefone := by
  have hkept : Forms s ∧ Flow Market.anybody masked s :=
    Machine.invariant_of_allowed (I := fun s ↦ Forms s ∧ Flow Market.anybody masked s)
      (fun _ _ _ ⟨hforms, hflow⟩ hG hstep ↦ ⟨hforms.step hflow hG hstep,
        hflow.step (fun _ ↦ trivial) (fun _ _ _ _ ↦ id) (.inr fun _ _ ↦ trivial)
          hforms.submissions hstep⟩)
      ⟨.start P, .start _ _ P⟩ hemail hrun
  exact ⟨hkept.2.telefones.values, hkept.2.offers.anuncio⟩

/-- The sign-up form is filled in and submitted. -/
def signUpActs : List Act :=
  [.cadastro 0 (.edit .nome ⟨0, 0⟩ "Ana"), .cadastro 0 (.edit .telefone ⟨0, 0⟩ "11988887777"),
    .cadastro 0 (.edit .senha ⟨0, 0⟩ "s"), .cadastro 0 (.edit .email ⟨0, 0⟩ "ab@cd.ef"),
    .cadastro 0 .press]

/-- The account is created, its telephone stored and looked up, and an offer saved. -/
def contactActs : List Act :=
  [.createUser 0 sampleUser, .telefones (.store 0), .login 0 sampleUser, .openAddPokemon 0,
    .telefones (.evaluate 0), .arrive 0, .market (.input 0 (.edit .gameTitle ⟨0, 0⟩ "Red")),
    .market (.input 0 (.addPokemon (some sampleUser) "key-key-key-key-key1")),
    .market (.store 0 "")]

/-- The state after some actions. -/
def sampleState (acts : List Act) : State :=
  ((machine .scalarwise).run acts).getD (machine .scalarwise).start

theorem run_contactActs : (machine .scalarwise).run (signUpActs ++ contactActs)
    = some (sampleState (signUpActs ++ contactActs)) := by rfl

theorem masked_contactActs : ∃ data : Fields,
    (sampleState (signUpActs ++ contactActs)).market.anuncio["key-key-key-key-key1"]? = some data ∧
      data.string "telefone" = some "(11) 98888 7777" ∧
      ∃ telefone, data.string "telefone" = some telefone ∧ Masked telefone := by
  have hemail : (machine .scalarwise).Allowed ByEmail (machine .scalarwise).start
      (signUpActs ++ contactActs) :=
    Machine.allowed_of_forall_mem (by simp [signUpActs, contactActs, ByEmail, sampleUser]) _
  obtain ⟨data, hdata, htelefone⟩ : ∃ data : Fields,
    (sampleState (signUpActs ++ contactActs)).market.anuncio["key-key-key-key-key1"]? = some data ∧
      data.string "telefone" = some "(11) 98888 7777" := ⟨_, rfl, rfl⟩
  exact ⟨data, hdata, htelefone, (masked_of_run hemail run_contactActs).2 _ data hdata⟩

/-- What the account `uid` has submitted so far, or nothing. -/
def submitted (l : List (String × String)) : OnTelephones where
  Holds uid telefone := telefone = "" ∨ (uid, telefone) ∈ l
  empty _ := .inl rfl

/-- What has been submitted stays so. -/
theorem submitted_append {l l' : List (String × String)} (uid telefone : String)
    (h : (submitted l).Holds uid telefone) : (submitted (l ++ l')).Holds uid telefone :=
  h.imp_right (List.mem_append_left l')

/-- **A contact is the seller's own.** In a run where no sign-up or login is answered on a device
that has looked a telephone up, the telephone of a stored offer is empty or one that the account
named in the offer has submitted itself, and the screen of the offer shows it. -/
theorem submitted_of_run (horderly : (machine P).Allowed Orderly (machine P).start acts)
    (hrun : (machine P).run acts = some s) (hk : s.market.anuncio[k]? = some data) :
    ∃ telefone, (telefone = "" ∨
        (seller data, telefone) ∈ (machine P).trace submissions (machine P).start acts) ∧
      ∃ oferta, decodeOffer data = some oferta ∧
        (AnuncioViewController.viewDidLoad (some oferta)).bind AnuncioLabels.telefone
          = some telefone := by
  have hflow : Flow Eq (submitted ([] ++ (machine P).trace submissions (machine P).start acts)) s :=
    Machine.trace_invariant (I := fun s l ↦ Flow Eq (submitted l) s)
      (fun _ _ _ _ hflow hG hstep ↦ (hflow.mono submitted_append).step (fun _ ↦ rfl)
        (fun _ _ _ h ↦ h ▸ id) (.inl hG) (fun _ hp ↦ .inr (List.mem_append_right _ hp)) hstep)
      (.start _ _ P) horderly hrun
  rw [List.nil_append] at hflow
  obtain ⟨telefone, heq, hq⟩ := hflow.offers.anuncio k data hk
  -- for the market the document is that of an offer, which decodes
  obtain ⟨m, -, h⟩ := Market.represents_of_run (market_of_run hrun)
  obtain ⟨o, c, -, hfields⟩ := h.live hk
  refine ⟨telefone, hq, (o.withTexts c.texts).view, ?_, ?_⟩
  · rw [hfields]
    exact Offer.decodeOffer_fields _ _
  · rw [hfields] at heq
    exact heq

/-- No demand on the telephone. -/
def anyTelephone : OnTelephones where
  Holds _ _ := True
  empty _ := trivial

/-- In the same runs, whoever waits for a document waits for that of the account in session. -/
theorem waits_of_run (horderly : (machine P).Allowed Orderly (machine P).start acts)
    (hrun : (machine P).run acts = some s) :
    s.telefones.Carries (fun _ _ ↦ True) fun who uid ↦ uid = s.market.uid who.1 := by
  have hflow : Flow Eq anyTelephone s :=
    Machine.invariant_of_allowed
      (fun _ _ _ h hG hstep ↦ h.step (fun _ ↦ rfl) (fun _ _ _ _ _ ↦ trivial) (.inl hG)
        (fun _ _ ↦ trivial) hstep) (.start _ _ P) horderly hrun
  exact hflow.telefones.imp (fun _ _ _ ↦ trivial) fun _ _ _ ↦ id

/-- The owner of an account signs another one up, with a telephone of its own, but signs in while
that is under way and has the old telephone looked up before it is answered. -/
def lateActs : List Act :=
  signUpActs ++ [.createUser 0 sampleUser, .telefones (.store 0), .openCadastro 0 none,
    .cadastro 0 (.edit .nome ⟨0, 0⟩ "Ana"), .cadastro 0 (.edit .telefone ⟨0, 0⟩ "21955554444"),
    .cadastro 0 (.edit .senha ⟨0, 0⟩ "s"), .cadastro 0 (.edit .email ⟨0, 0⟩ "ef@cd.ef"),
    .cadastro 0 .press, .login 0 sampleUser, .openAddPokemon 0, .telefones (.evaluate 0), .arrive 0,
    .createUser 0 { sampleUser with uid := "uid-2" },
    .market (.input 0 (.edit .gameTitle ⟨0, 0⟩ "Red")),
    .market (.input 0 (.addPokemon (some { sampleUser with uid := "uid-2" })
      "key-key-key-key-key1")), .market (.store 0 "")]

-- the offer is the new account's, with the telephone of the old one
example : ∃ s data,
    (machine .scalarwise).run lateActs = some s ∧
      (machine .scalarwise).trace submissions (machine .scalarwise).start lateActs
        = [("uid-1", "(11) 98888 7777"), ("uid-2", "(21) 95555 4444")] ∧
      s.market.anuncio["key-key-key-key-key1"]? = some data ∧
      data.string "uid" = some "uid-2" ∧ data.string "telefone" = some "(11) 98888 7777" :=
  ⟨sampleState lateActs, _, rfl, rfl, rfl, rfl, rfl⟩

end Accounts

end Poketrader
