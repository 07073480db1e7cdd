import Poketrader.Accounts.Devices
import Poketrader.Market.Drafts
import Poketrader.Offers.Contact

/-!
# The way of a telephone

A stored offer carries a telephone that has travelled: from a form through the document of an
account and the add-offer screen into the offer. On the way nobody looks at it again, so what can be
said of it at the end is what can be said at the two places where it is submitted.

`Flow` follows a demand `Q` on an account and a telephone through every place a telephone can be in.
It is kept as long as what is submitted meets the demand. The one step that could break it is a
sign-up, or a login, answered where the telephone of somebody else has been looked up already, so
either that does not happen, or the demand is none on the account. `R` is the relation of the
account asked about to the account of the session, with the same two readings.
-/

open Document Foundation

namespace Poketrader

namespace Accounts

open Market (Meets seller)

variable {P : Platform} {s t : State} {act : Act} {uid : String} {data : Fields}

/-- A demand on an account and a telephone. There is none on the empty one. -/
structure OnTelephones where
  Holds : String → String → Prop
  empty : ∀ uid, Holds uid ""

variable {Q Q' : OnTelephones} {R : String → String → Prop}

/-- The telephone in a document is one of the account `uid`. -/
def Carries (Q : OnTelephones) (uid : String) (data : Fields) : Prop :=
  ∃ telefone, data.string "telefone" = some telefone ∧ Q.Holds uid telefone

theorem Carries.mono (hQ : ∀ u n, Q.Holds u n → Q'.Holds u n) (h : Carries Q uid data) :
    Carries Q' uid data := by
  obtain ⟨telefone, htelefone, hq⟩ := h
  exact ⟨telefone, htelefone, hQ uid telefone hq⟩

/-- An update that leaves the telephone and the account alone. -/
theorem Carries.update (h : Carries Q (seller data) data) {new : Fields}
    (htelefone : new "telefone" = none) (huid : new "uid" = none) :
    Carries Q (seller (data.update new)) (data.update new) := by
  obtain ⟨telefone, heq, hq⟩ := h
  refine ⟨telefone, ?_, ?_⟩
  · rw [Fields.string, Fields.update_of_eq_none htelefone]
    exact heq
  · rw [seller, Fields.string, Fields.update_of_eq_none huid]
    exact hq

/-- What is asked of forms and offers: the number looked up and the one stored are of the account.
-/
def OnTelephones.demand (Q : OnTelephones) : Market.Demand where
  draft uid vc := ∀ telefone, vc.phoneNumber = some telefone → Q.Holds uid telefone
  stored data := Carries Q (seller data) data
  opened _ telefone h := absurd h.symm (Option.some_ne_none telefone)
  save {user vc} h := by
    have huid : seller (vc.arguments.data user none) = user.uid := by
      simp [seller, SaveArguments.data]
    refine ⟨vc.phoneNumber.getD "", by simp [SaveArguments.data,
      AddPokemonViewController.arguments], ?_⟩
    rw [huid]
    cases hnumber : vc.phoneNumber with
    | none => exact Q.empty _
    | some telefone => exact h telefone hnumber
  identify h _ := h.update rfl rfl
  edit h _ := h.update rfl rfl

/-- The telephones meet the demand, and who waits for a document is as `R` asks of the account it is
about. -/
structure Flow (R : String → String → Prop) (Q : OnTelephones) (s : State) : Prop where
  offers : Meets Q.demand s.market
  telefones : s.telefones.Carries (Carries Q) fun who uid ↦ R uid (s.market.uid who.1)

/-- No telephone has been looked up on a device, or will be by a question already asked. -/
structure Unlooked (s : State) (device : ℕ) : Prop where
  phoneNumber : (s.market.devices device).add.phoneNumber = none
  waits : ∀ reader, ¬s.telefones.Waits (device, reader)

/-- A sign-up or a login is answered before a telephone has been looked up on the device. -/
def Orderly (s : State) : Act → Prop
  | .createUser i _ => ∀ p, s.signups[i]? = some p → Unlooked s p.1
  | .signIn device _ => Unlooked s device
  | .market _ | .telefones _ | .arrive _ | .openAddPokemon _ | .openPerfil _ | .perfil _ _
  | .openCadastro _ _ | .cadastro _ _ | .createUserFails _ | .login _ _ | .buttonLogout _ => True

/-! ## The add-offer form -/

/-- What is read into the add-offer screen, from a document or from none. -/
theorem draft_getTelephone {vc : AddPokemonViewController} {document : Option Fields}
    (hvc : Q.demand.draft uid vc) (hdocument : ∀ data, document = some data → Carries Q uid data) :
    Q.demand.draft uid (vc.getTelephone document) := by
  rcases document with - | data
  · exact hvc
  · obtain ⟨telefone, heq, hq⟩ := hdocument data rfl
    intro telefone' h
    rw [Contact.getTelephone_some heq] at h
    rwa [← Option.some_inj.mp h]

/-- An input that is direct leaves the telephone that has been looked up. -/
theorem phoneNumber_of_step {dev dev' : OfferForms.Device} {device : ℕ} {input : OfferForms.Input}
    {writes : List Write} (hdirect : direct (.input device input) = true)
    (h : dev.step P input = some (dev', writes)) : dev'.add.phoneNumber = dev.add.phoneNumber := by
  have hdraft := Market.draftStep_of_step h
  generalize dev'.add = vc at hdraft
  cases hdraft with
  | texts => rfl
  | sendDataToCadastroVC => exact Contact.sendDataToCadastroVC_phoneNumber _ _ _
  | getTelephone | cancelPokemon => exact absurd hdirect Bool.false_ne_true

/-- A step that the market takes by itself is admitted. -/
theorem admits_of_direct {m : Market.State} (h : Meets Q.demand m) {act : Market.Act}
    (hdirect : direct act = true) : Market.Admits Q.demand P m act := by
  cases act with
  | input device input =>
    intro dev writes hdev telefone heq
    rw [phoneNumber_of_step hdirect hdev] at heq
    exact h.drafts device telefone heq
  | createUser => exact absurd hdirect Bool.false_ne_true
  | loadOffersForIUD | respond | store | reject | login | commitChanges | buttonLogout => trivial

/-- It leaves the accounts. -/
theorem uid_of_direct {m m' : Market.State} {act : Market.Act} (hdirect : direct act = true)
    (hstep : Market.step P m act = some m') (d : ℕ) : m'.uid d = m.uid d := by
  cases Market.steps_of_step hstep with
  | commitChanges device displayName user huser => exact m.uid_displayName huser _ d
  | input | loadOffersForIUD | respond | store | reject => rfl
  | login | createUser | buttonLogout => exact absurd hdirect Bool.false_ne_true

/-- So does an input. -/
theorem uid_of_input {m m' : Market.State} {device : ℕ} {input : OfferForms.Input}
    (hstep : Market.step P m (.input device input) = some m') (d : ℕ) : m'.uid d = m.uid d := by
  cases Market.steps_of_step hstep with
  | input => rfl

theorem uid_restart_of_ne (m : Market.State) {device d : ℕ} (hd : d ≠ device)
    (currentUser : Option AuthUser) : (m.restart device currentUser).uid d = m.uid d :=
  m.uid_of_ne hd currentUser

/-! ## The flow -/

/-- What the forms submit is a document with its telephone. -/
theorem send_upload {ι : Type*} {r : Remote.Registers String Fields ι} {profile : Profile}
    {op : Operation} (h : AuthenticationWorker.upload profile (some uid) = some op) :
    op.send r = r.write uid (AuthenticationWorker.uploadData profile) := by
  rw [Operation.send, AuthenticationWorker.upload_writes h]
  rfl

theorem send_signup {ι : Type*} (r : Remote.Registers String Fields ι) (profile : Profile)
    (uid : String) : (AuthenticationWorker.signup profile (some uid) none).send r
      = r.write uid (AuthenticationWorker.signupData profile) := by
  rw [Operation.send, AuthenticationWorker.signup_writes]
  rfl

namespace Flow

theorem mono (hQ : ∀ u n, Q.Holds u n → Q'.Holds u n) (h : Flow R Q s) : Flow R Q' s where
  offers :=
    ⟨fun device telefone heq ↦ hQ _ _ (h.offers.drafts device telefone heq),
      fun p hp documentID userData args heq ↦
        (h.offers.writes p hp documentID userData args heq).mono hQ,
      fun k data hk ↦ (h.offers.anuncio k data hk).mono hQ⟩
  telefones := h.telefones.imp (fun _ _ ↦ Carries.mono hQ) fun _ _ _ ↦ id

theorem start (R : String → String → Prop) (Q : OnTelephones) (P : Platform) :
    Flow R Q (machine P).start where
  offers := .start _ P
  telefones := .empty

/-- A document arrives at the add-offer screen that has asked for it. -/
theorem getTelephone (h : Flow R Q s) (hQ : ∀ u v n, R u v → Q.Holds u n → Q.Holds v n)
    {n device : ℕ} {document : Option Fields}
    {telefones : Remote.Registers String Fields (ℕ × Reader)} {market : Market.State}
    (harrive : s.telefones.arrive n = some ((device, .addPokemon), document, telefones))
    (hmarket : Market.step P s.market (.input device (.getTelephone document)) = some market) :
    Flow R Q { s with market, telefones } := by
  obtain ⟨htelefones, uid, huid, hdocument⟩ := h.telefones.arrive harrive
  have hadmits : Market.Admits Q.demand P s.market (.input device (.getTelephone document)) := by
    intro dev writes hdev
    obtain ⟨rfl, -⟩ := Prod.mk.inj (Option.some_inj.mp hdev)
    refine draft_getTelephone (h.offers.drafts device) fun data hdata ↦ ?_
    obtain ⟨telefone, heq, hq⟩ := hdocument data hdata
    exact ⟨telefone, heq, hQ _ _ _ huid hq⟩
  refine ⟨h.offers.step hadmits hmarket, htelefones.imp (fun _ _ ↦ id) fun who _ _ hwho ↦ ?_⟩
  exact (uid_of_input hmarket who.1).symm ▸ hwho

/-- The add-offer screen opens, and asks for the telephone. -/
theorem openAddPokemon (h : Flow R Q s) (hR : ∀ u, R u u) {device : ℕ} {user : AuthUser}
    (huser : s.market.session device = some user) {market : Market.State}
    (hmarket : Market.step P s.market (.input device .cancelPokemon) = some market) :
    Flow R Q { s with
      market
      telefones := (s.telefones.forget (device, .addPokemon)).ask (device, .addPokemon)
        user.uid } := by
  have hadmits : Market.Admits Q.demand P s.market (.input device .cancelPokemon) := by
    intro dev writes hdev
    obtain ⟨rfl, -⟩ := Prod.mk.inj (Option.some_inj.mp hdev)
    exact Q.demand.opened _
  have hsame := uid_of_input hmarket
  refine ⟨h.offers.step hadmits hmarket, ?_⟩
  refine ((h.telefones.forget _).imp (fun _ _ ↦ id) fun who _ _ hwho ↦ ?_).ask ?_
  · exact (hsame who.1).symm ▸ hwho
  · exact ((hsame device).trans (s.market.uid_eq huser)).symm ▸ hR _

/-- A session begins or ends. -/
theorem restart (h : Flow R Q s) {device : ℕ} {currentUser : Option AuthUser}
    (hoffers : Meets Q.demand (s.market.restart device currentUser)) :
    Flow R Q (s.restart device (s.market.restart device currentUser)) where
  offers := hoffers
  telefones := by
    refine ((h.telefones.forget _).forget _).imp (fun _ _ ↦ id) fun who uid hwaits huid ↦ ?_
    obtain ⟨d, reader⟩ := who
    -- the device has given both of its questions up
    have hd : d ≠ device := by
      rintro rfl
      cases reader with
      | addPokemon => exact Remote.Registers.not_waits_forget _ _ hwaits
      | perfil => exact Remote.Registers.not_waits_forget _ _ hwaits.of_forget
    exact (uid_restart_of_ne s.market hd currentUser).symm ▸ huid

/-- The profile is saved. -/
theorem save (h : Flow R Q s) {device : ℕ} (vc : PerfilForm) {submitted : Option Profile}
    (hsubmitted : ∀ profile, submitted = some profile →
      Q.Holds (s.market.uid device) profile.telefone) :
    Flow R Q (s.save device vc submitted) where
  offers := h.offers
  telefones := by
    rw [State.save]
    rcases submitted with - | profile
    · exact h.telefones
    · rcases huser : s.market.session device with - | user
      · exact h.telefones
      · have hq := hsubmitted profile rfl
        rw [s.market.uid_eq huser] at hq
        dsimp only
        rw [Option.bind_some, Option.map_some, AuthenticationWorker.upload, Option.map_some,
          Option.elim_some, send_upload rfl]
        exact h.telefones.write ⟨profile.telefone, rfl, hq⟩

/-- Another account is signed in under the screens there are. -/
theorem signedIn (h : Flow R Q s) (hQ : ∀ u v n, R u v → Q.Holds u n → Q.Holds v n) {device : ℕ}
    {user : AuthUser} (hlooked : Unlooked s device ∨ ∀ u v, R u v) {market : Market.State}
    (hmarket : Market.step P s.market (.createUser device user) = some market) :
    Meets Q.demand market ∧
      s.telefones.Carries (Carries Q) fun who uid ↦ R uid (market.uid who.1) := by
  have hadmits : Market.Admits Q.demand P s.market (.createUser device user) := by
    intro telefone heq
    have hany := hlooked.resolve_left fun hunlooked ↦
      absurd (hunlooked.phoneNumber.symm.trans heq).symm (Option.some_ne_none telefone)
    exact hQ _ _ _ (hany _ _) (h.offers.drafts device telefone heq)
  refine ⟨h.offers.step hadmits hmarket, ?_⟩
  obtain rfl := Option.some_inj.mp hmarket
  refine h.telefones.imp (fun _ _ ↦ id) fun who uid hwaits huid ↦ ?_
  obtain ⟨d, reader⟩ := who
  by_cases hd : d = device
  · subst hd
    exact (hlooked.resolve_left fun hunlooked ↦ hunlooked.waits reader hwaits) _ _
  · rw [s.market.uid_of_ne hd]
    exact huid

/-- A sign-up is answered. -/
theorem createUser (h : Flow R Q s) (hQ : ∀ u v n, R u v → Q.Holds u n → Q.Holds v n) {i : ℕ}
    {args : CadastroArguments} (hget : s.signups[i]? = some (device, args)) {user : AuthUser}
    {market : Market.State}
    (hmarket : Market.step P s.market (.createUser device user) = some market)
    (horderly : Orderly s (.createUser i user) ∨ ∀ u v, R u v)
    (hsub : ∀ p ∈ submissions s (.createUser i user), Q.Holds p.1 p.2) :
    Flow R Q { s with
      market
      signups := s.signups.eraseIdx i
      telefones := (AuthenticationWorker.signup args.profile (some user.uid) none).send
        s.telefones } := by
  have hlooked : Unlooked s device ∨ ∀ u v, R u v :=
    horderly.imp_left fun h ↦ h (device, args) hget
  have hq : Q.Holds user.uid args.telefone := by
    refine hsub (user.uid, args.telefone) ?_
    rw [submissions, hget]
    exact List.mem_singleton_self _
  obtain ⟨hoffers, htelefones⟩ := h.signedIn hQ hlooked hmarket
  refine ⟨hoffers, ?_⟩
  rw [send_signup]
  exact htelefones.write ⟨args.telefone, rfl, hq⟩

/-- **The flow is kept** by every step whose submissions meet the demand. -/
theorem step (h : Flow R Q s) (hR : ∀ u, R u u) (hQ : ∀ u v n, R u v → Q.Holds u n → Q.Holds v n)
    (horderly : Orderly s act ∨ ∀ u v, R u v) (hsub : ∀ p ∈ submissions s act, Q.Holds p.1 p.2)
    (hstep : (machine P).step s act = some t) : Flow R Q t := by
  cases steps_of_step hstep with
  | market act market hdirect hmarket =>
    refine ⟨h.offers.step (admits_of_direct h.offers hdirect) hmarket,
      h.telefones.imp (fun _ _ ↦ id) ?_⟩
    exact fun who uid _ huid ↦ (uid_of_direct hdirect hmarket who.1).symm ▸ huid
  | telefones event telefones hevent => exact ⟨h.offers, h.telefones.event hevent⟩
  | getTelephone n device document telefones market harrive hmarket =>
    exact h.getTelephone hQ harrive hmarket
  | getDocument n device document telefones vc vc' harrive =>
    exact ⟨h.offers, (h.telefones.arrive harrive).1⟩
  | openAddPokemon device user market huser hmarket => exact h.openAddPokemon hR huser hmarket
  | openPerfil device user huser =>
    exact ⟨h.offers, (h.telefones.forget _).ask ((s.market.uid_eq huser).symm ▸ hR _)⟩
  | perfil device act vc vc' hact hvc hvc' =>
    refine h.save vc' fun profile hprofile ↦ ?_
    refine hsub (s.market.uid device, profile.telefone) ?_
    rw [submissions, hvc, Option.bind_some, hprofile]
    exact List.mem_singleton_self _
  | createUser i device args user market hget hmarket =>
    exact h.createUser hQ hget hmarket horderly hsub
  | signIn device user market hmarket =>
    obtain ⟨hoffers, htelefones⟩ := h.signedIn hQ horderly hmarket
    exact ⟨hoffers, htelefones⟩
  | login device user hmarket =>
    have hadmits : Market.Admits Q.demand P s.market (.login device user) := trivial
    exact h.restart (h.offers.step hadmits hmarket)
  | buttonLogout device hmarket =>
    have hadmits : Market.Admits Q.demand P s.market (.buttonLogout device) := trivial
    exact h.restart (h.offers.step hadmits hmarket)
  | openCadastro | cadastro | createUserFails => exact ⟨h.offers, h.telefones⟩

end Flow

end Accounts

end Poketrader
