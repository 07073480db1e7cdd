import Poketrader.Offers.Forms

/-!
# The market

Any number of devices with any number of users over one collection of offers. Signing in opens the
screens of a device anew and logging out closes them, while what has been sent is still stored or
rejected, in any order, and is announced when it is.

There is one more way to a session. An account that has been created is signed in when the answer
comes, wherever the device is by then: the sign-up form may have been left for the login, and the
login may have opened the screens for somebody else. (A second login that is answered late does the
same.)

A press is kept as the calls it makes of the worker, since the closures they are answered with
differ: saving prints, while updating and deleting put up an alert.
-/

open Document Foundation

namespace Poketrader

namespace Market

open OfferForms (Device Input EditScreen opened loaded)

/-- A call with its closure. -/
inductive Request where
  /-- The first write of `saveOffer`. -/
  | addDocument (documentID : String) (userData : AuthUser) (args : SaveArguments)
  /-- The second. -/
  | updateId (documentID : String)
  | updateOffer (id : String) (texts : OfferTexts)
  | deleteOffer (id : String)
  deriving DecidableEq

namespace Request

def write : Request → Write
  | .addDocument documentID userData args => .setData documentID (args.data userData none)
  | .updateId documentID => .updateData documentID (idData (some documentID))
  | .updateOffer id texts => .updateData id texts.data
  | .deleteOffer id => Poketrader.deleteOffer id

/-- The closure: the alert it shows, if any. -/
def completion : Request → Option String → Option Alert
  | .addDocument _ _ _, _ => none
  | .updateId _, _ => none
  | .updateOffer _ _, some err => some (.error "Alerta" err)
  | .updateOffer _ _, none => some (.success "Com Sucesso" "Atualização feita com sucesso.")
  | .deleteOffer _, some err => some (.error "Alerta" err)
  | .deleteOffer _, none => some (.success "Com Sucesso" "Pokemon foi excluido com sucesso.")

/-- The key that is drawn for the call. -/
def draws : Request → Option String
  | .addDocument documentID _ _ => some documentID
  | .updateId _ | .updateOffer _ _ | .deleteOffer _ => none

end Request

/-- The calls behind the writes of an input. -/
def requests (dev : Device) : Input → List Request
  | .addPokemon (some userData) documentID =>
    if dev.add.isValid then
      [.addDocument documentID userData dev.add.arguments, .updateId documentID]
    else []
  | .pressedEditarButton => (dev.screen.bind fun screen ↦
      screen.oferta.id.map fun id ↦ Request.updateOffer id screen.texts).toList
  | .pressedExcluirButton => (dev.screen.bind fun screen ↦
      screen.oferta.id.map Request.deleteOffer).toList
  | _ => []

/-- The screens of a device as they open. -/
def newDevice : Device where
  add := opened
  ofertas := []
  screen := none

/-- A call on its way. -/
structure Pending where
  device : ℕ
  /-- Who was signed in on the device at the press. -/
  uid : String
  request : Request
  deriving DecidableEq

/-- What a call announces when it is answered. -/
def Pending.announced (p : Pending) (err : Option String) : List (Pending × Alert) :=
  ((p.request.completion err).map fun alert ↦ (p, alert)).toList

structure State where
  anuncio : Collection
  devices : ℕ → Device
  /-- `Auth.auth().currentUser` on each device. -/
  session : ℕ → Option AuthUser
  /-- The keys drawn so far. -/
  drawn : List String
  /-- The answers to the queries on their way, each to its device. -/
  answers : List (ℕ × List OfertaElement)
  /-- The calls on their way. -/
  writes : List Pending
  /-- The alerts shown, each with the call it is about. -/
  alerts : List (Pending × Alert)

inductive Act where
  | input (device : ℕ) (input : Input)
  /-- The query of a device is evaluated. -/
  | loadOffersForIUD (device : ℕ)
  /-- The `i`-th answer on its way arrives. -/
  | respond (i : ℕ)
  /-- The backend gets to the `i`-th call on its way. The message is for the case that there is no
  document to update. -/
  | store (i : ℕ) (message : String)
  /-- The backend rejects the `i`-th call on its way. -/
  | reject (i : ℕ) (message : String)
  | login (device : ℕ) (user : AuthUser)
  /-- An answer signs an account in: that of a sign-up, or of a login. -/
  | createUser (device : ℕ) (user : AuthUser)
  /-- The profile is saved under another name. -/
  | commitChanges (device : ℕ) (displayName : String)
  | buttonLogout (device : ℕ)

namespace State

/-- The `uid` of the session of a device. -/
def uid (s : State) (device : ℕ) : String := ((s.session device).map AuthUser.uid).getD ""

/-- The screens of a device are behind the login, and a new document gets a new key. -/
def Possible (s : State) (device : ℕ) : Input → Prop
  | .addPokemon currentUser documentID => (s.session device).isSome ∧
      currentUser = s.session device ∧ documentID.length = 20 ∧ documentID ∉ s.drawn
  | _ => (s.session device).isSome

instance (s : State) (device : ℕ) : ∀ input, Decidable (s.Possible device input)
  | .addPokemon _ _ => inferInstanceAs (Decidable (_ ∧ _ ∧ _ ∧ _))
  | .edit _ _ _ | .editDescription _ _ | .sendDataToCadastroVC _ _ | .getTelephone _
  | .cancelPokemon | .openScreen _ | .editStat _ _ _ | .editObs _ _ | .pressedEditarButton
  | .pressedExcluirButton => inferInstanceAs (Decidable (_ = true))

/-- An input leaves `dev` of the device and makes some calls. -/
def input (s : State) (device : ℕ) (dev : Device) (calls : List Request) : State :=
  { s with
    devices := Function.update s.devices device dev
    drawn := s.drawn ++ calls.filterMap Request.draws
    writes := s.writes ++ calls.map (Pending.mk device (s.uid device)) }

/-- The `i`-th call on its way, `p`, is answered. -/
def answered (s : State) (i : ℕ) (p : Pending) (err : Option String) : State :=
  { s with
    writes := s.writes.eraseIdx i
    alerts := s.alerts ++ p.announced err }

/-- The backend gets to it. -/
def store (s : State) (i : ℕ) (p : Pending) (message : String) : State :=
  { s.answered i p (if (p.request.write.apply s.anuncio).isSome then none else some message) with
    anuncio := p.request.write.commit s.anuncio }

/-- The session of a device begins or ends, which replaces its screens. -/
def restart (s : State) (device : ℕ) (currentUser : Option AuthUser) : State :=
  { s with
    session := Function.update s.session device currentUser
    devices := Function.update s.devices device newDevice
    answers := s.answers.filter fun answer ↦ answer.1 ≠ device }

theorem uid_eq (s : State) {device : ℕ} {user : AuthUser}
    (huser : s.session device = some user) : s.uid device = user.uid := by
  rw [uid, huser]
  rfl

/-- Another session leaves those of the other devices. -/
theorem uid_of_ne (s : State) {device d : ℕ} (h : d ≠ device) (currentUser : Option AuthUser) :
    ({ s with session := Function.update s.session device currentUser } : State).uid d
      = s.uid d := by
  simp only [State.uid, Function.update_of_ne h]

/-- Another name leaves the account. -/
theorem uid_displayName (s : State) {device : ℕ} {user : AuthUser}
    (huser : s.session device = some user) (displayName : Option String) (d : ℕ) :
    ({ s with
      session := Function.update s.session device (some { user with displayName }) } : State).uid d
      = s.uid d := by
  by_cases hd : d = device
  · subst hd
    simp only [State.uid, Function.update_self, huser, Option.map_some]
  · exact s.uid_of_ne hd _

end State

def step (P : Platform) (s : State) : Act → Option State
  | .input device input =>
    if s.Possible device input then
      ((s.devices device).step P input).map fun (dev, _) ↦
        s.input device dev (requests (s.devices device) input)
    else none
  | .loadOffersForIUD device =>
    if (s.session device).isSome then
      some { s with answers := s.answers ++ [(device, loaded (s.session device) s.anuncio)] }
    else none
  | .respond i => (s.answers[i]?).map fun (device, ofertas) ↦
      { s with
        answers := s.answers.eraseIdx i
        devices := Function.update s.devices device { s.devices device with ofertas } }
  | .store i message => (s.writes[i]?).map fun p ↦ s.store i p message
  | .reject i message => (s.writes[i]?).map fun p ↦ s.answered i p (some message)
  | .login device user => some (s.restart device (some user))
  | .createUser device user =>
    some { s with session := Function.update s.session device (some user) }
  | .commitChanges device displayName => (s.session device).map fun user ↦
      { s with
        session := Function.update s.session device
          (some { user with displayName := some displayName }) }
  | .buttonLogout device =>
    if (s.session device).isSome then some (s.restart device none) else none

/-- Nobody is signed in and nothing is stored. -/
def machine (P : Platform) : Machine State Act where
  start := ⟨∅, fun _ ↦ newDevice, fun _ ↦ none, [], [], [], []⟩
  step := step P

variable {P : Platform}

/-- The calls of an input are those whose writes the forms issue. -/
theorem write_requests {dev dev' : Device} {input : Input} {writes : List Write}
    (h : dev.step P input = some (dev', writes)) :
    writes = (requests dev input).map Request.write := by
  cases input with
  | addPokemon currentUser documentID =>
    have hwrites : writes = (dev.add.addPokemon currentUser documentID).writes := by
      rw [Device.step] at h
      generalize dev.add.addPokemon currentUser documentID = press at h
      exact (Prod.mk.inj (Option.some_inj.mp h)).2.symm
    rw [hwrites]
    by_cases hvalid : dev.add.isValid = true
    · rw [AddPokemonViewController.addPokemon_writes_of_isValid hvalid]
      rcases currentUser with - | userData
      · rfl
      · rw [requests, if_pos hvalid]
        rfl
    · rw [AddPokemonViewController.addPokemon, if_neg hvalid]
      rcases currentUser with - | userData
      · rfl
      · rw [requests, if_neg hvalid]
        rfl
  | pressedEditarButton =>
    obtain ⟨screen, hscreen, h⟩ := Option.bind_eq_some_iff.mp h
    obtain ⟨write, hwrite, heq⟩ := Option.map_eq_some_iff.mp h
    obtain ⟨id, hid, rfl⟩ := Option.map_eq_some_iff.mp hwrite
    rw [Option.getD_some] at hid
    rw [requests, hscreen, Option.bind_some, hid, ← (Prod.mk.inj heq).2]
    rfl
  | pressedExcluirButton =>
    obtain ⟨screen, hscreen, h⟩ := Option.bind_eq_some_iff.mp h
    obtain ⟨write, hwrite, heq⟩ := Option.map_eq_some_iff.mp h
    obtain ⟨id, hid, rfl⟩ := Option.map_eq_some_iff.mp hwrite
    rw [requests, hscreen, Option.bind_some, hid, ← (Prod.mk.inj heq).2]
    rfl
  | sendDataToCadastroVC | getTelephone | cancelPokemon =>
    exact (Prod.mk.inj (Option.some_inj.mp h)).2.symm
  | edit | editDescription | openScreen =>
    obtain ⟨x, -, heq⟩ := Option.map_eq_some_iff.mp h
    exact (Prod.mk.inj heq).2.symm
  | editStat | editObs =>
    obtain ⟨screen, -, h⟩ := Option.bind_eq_some_iff.mp h
    obtain ⟨x, -, heq⟩ := Option.map_eq_some_iff.mp h
    exact (Prod.mk.inj heq).2.symm

/-! ## Steps, case by case -/

/-- The calls an input can make. -/
inductive Calls (dev : Device) : Input → List Request → Prop
  | save (userData : AuthUser) (documentID : String) : Calls dev (.addPokemon userData documentID)
      [.addDocument documentID userData dev.add.arguments, .updateId documentID]
  | editar (screen : EditScreen) (id : String) (hscreen : dev.screen = some screen)
      (hid : screen.oferta.id = some id) :
    Calls dev .pressedEditarButton [.updateOffer id screen.texts]
  | excluir (screen : EditScreen) (id : String) (hscreen : dev.screen = some screen)
      (hid : screen.oferta.id = some id) : Calls dev .pressedExcluirButton [.deleteOffer id]
  | none (input : Input) : Calls dev input []

theorem calls_requests (dev : Device) (input : Input) : Calls dev input (requests dev input) := by
  cases input with
  | addPokemon currentUser documentID =>
    rcases currentUser with - | userData
    · exact .none _
    · by_cases hvalid : dev.add.isValid = true
      · rw [requests, if_pos hvalid]
        exact .save userData documentID
      · rw [requests, if_neg hvalid]
        exact .none _
  | pressedEditarButton =>
    rcases hscreen : dev.screen with - | screen
    · rw [requests, hscreen]
      exact .none _
    · rcases hid : screen.oferta.id with - | id
      · rw [requests, hscreen, Option.bind_some, hid]
        exact .none _
      · rw [requests, hscreen, Option.bind_some, hid]
        exact .editar screen id hscreen hid
  | pressedExcluirButton =>
    rcases hscreen : dev.screen with - | screen
    · rw [requests, hscreen]
      exact .none _
    · rcases hid : screen.oferta.id with - | id
      · rw [requests, hscreen, Option.bind_some, hid]
        exact .none _
      · rw [requests, hscreen, Option.bind_some, hid]
        exact .excluir screen id hscreen hid
  | edit | editDescription | sendDataToCadastroVC | getTelephone | cancelPokemon | openScreen
  | editStat | editObs => exact .none _

/-- An input leaves the list as it is, and the offer of the screen unless it opens one. -/
theorem ofertas_and_screen_of_step {dev dev' : Device} {input : Input} {writes : List Write}
    (h : dev.step P input = some (dev', writes)) :
    dev'.ofertas = dev.ofertas ∧ ∀ screen', dev'.screen = some screen' →
      screen'.oferta ∈ dev.ofertas ∨
        ∃ screen, dev.screen = some screen ∧ screen'.oferta = screen.oferta := by
  cases input with
  | addPokemon currentUser documentID =>
    rw [Device.step] at h
    generalize dev.add.addPokemon currentUser documentID = press at h
    obtain ⟨rfl, -⟩ := Prod.mk.inj (Option.some_inj.mp h)
    exact ⟨rfl, fun screen' h ↦ .inr ⟨screen', h, rfl⟩⟩
  | sendDataToCadastroVC | getTelephone | cancelPokemon =>
    obtain ⟨rfl, -⟩ := Prod.mk.inj (Option.some_inj.mp h)
    exact ⟨rfl, fun screen' h ↦ .inr ⟨screen', h, rfl⟩⟩
  | edit | editDescription =>
    obtain ⟨form, -, heq⟩ := Option.map_eq_some_iff.mp h
    obtain ⟨rfl, -⟩ := Prod.mk.inj heq
    exact ⟨rfl, fun screen' h ↦ .inr ⟨screen', h, rfl⟩⟩
  | openScreen row =>
    obtain ⟨oferta, hoferta, heq⟩ := Option.map_eq_some_iff.mp h
    obtain ⟨rfl, -⟩ := Prod.mk.inj heq
    refine ⟨rfl, fun screen' h ↦ .inl ?_⟩
    rw [← Option.some_inj.mp h]
    exact List.mem_of_getElem? hoferta
  | editStat | editObs =>
    obtain ⟨screen, hscreen, h⟩ := Option.bind_eq_some_iff.mp h
    obtain ⟨texts, -, heq⟩ := Option.map_eq_some_iff.mp h
    obtain ⟨rfl, -⟩ := Prod.mk.inj heq
    refine ⟨rfl, fun screen' h ↦ .inr ⟨screen, hscreen, ?_⟩⟩
    rw [← Option.some_inj.mp h]
  | pressedEditarButton | pressedExcluirButton =>
    obtain ⟨screen, hscreen, h⟩ := Option.bind_eq_some_iff.mp h
    obtain ⟨write, -, heq⟩ := Option.map_eq_some_iff.mp h
    obtain ⟨rfl, -⟩ := Prod.mk.inj heq
    exact ⟨rfl, fun screen' h ↦ .inr ⟨screen', h, rfl⟩⟩

/-- What a step does, action by action. -/
inductive Steps (P : Platform) (s : State) : Act → State → Prop
  | input (device : ℕ) (input : Input) (dev : Device) (writes : List Write)
      (hpossible : s.Possible device input)
      (hdev : (s.devices device).step P input = some (dev, writes)) :
    Steps P s (.input device input) (s.input device dev (requests (s.devices device) input))
  | loadOffersForIUD (device : ℕ) (user : AuthUser) (huser : s.session device = some user) :
    Steps P s (.loadOffersForIUD device)
      { s with answers := s.answers ++ [(device, loaded (some user) s.anuncio)] }
  | respond (i device : ℕ) (ofertas : List OfertaElement)
      (hanswer : s.answers[i]? = some (device, ofertas)) :
    Steps P s (.respond i)
      { s with
        answers := s.answers.eraseIdx i
        devices := Function.update s.devices device { s.devices device with ofertas } }
  | store (i : ℕ) (message : String) (p : Pending) (hp : s.writes[i]? = some p) :
    Steps P s (.store i message) (s.store i p message)
  | reject (i : ℕ) (message : String) (p : Pending) (hp : s.writes[i]? = some p) :
    Steps P s (.reject i message) (s.answered i p (some message))
  | login (device : ℕ) (user : AuthUser) :
    Steps P s (.login device user) (s.restart device (some user))
  | createUser (device : ℕ) (user : AuthUser) :
    Steps P s (.createUser device user)
      { s with session := Function.update s.session device (some user) }
  | commitChanges (device : ℕ) (displayName : String) (user : AuthUser)
      (huser : s.session device = some user) :
    Steps P s (.commitChanges device displayName)
      { s with
        session := Function.update s.session device
          (some { user with displayName := some displayName }) }
  | buttonLogout (device : ℕ) (user : AuthUser) (huser : s.session device = some user) :
    Steps P s (.buttonLogout device) (s.restart device none)

theorem steps_of_step {s t : State} {act : Act} (h : step P s act = some t) :
    Steps P s act t := by
  cases act with
  | input device input =>
    obtain ⟨hpossible, h⟩ := Option.ite_none_right_eq_some.mp h
    obtain ⟨⟨dev, writes⟩, hdev, rfl⟩ := Option.map_eq_some_iff.mp h
    exact .input device input dev writes hpossible hdev
  | loadOffersForIUD device =>
    obtain ⟨hin, h⟩ := Option.ite_none_right_eq_some.mp h
    obtain ⟨user, huser⟩ := Option.isSome_iff_exists.mp hin
    rw [huser, Option.some_inj] at h
    exact h ▸ .loadOffersForIUD device user huser
  | respond i =>
    obtain ⟨⟨device, ofertas⟩, hanswer, rfl⟩ := Option.map_eq_some_iff.mp h
    exact .respond i device ofertas hanswer
  | store i message =>
    obtain ⟨p, hp, rfl⟩ := Option.map_eq_some_iff.mp h
    exact .store i message p hp
  | reject i message =>
    obtain ⟨p, hp, rfl⟩ := Option.map_eq_some_iff.mp h
    exact .reject i message p hp
  | login device user => exact Option.some_inj.mp h ▸ .login device user
  | createUser device user => exact Option.some_inj.mp h ▸ .createUser device user
  | commitChanges device displayName =>
    obtain ⟨user, huser, rfl⟩ := Option.map_eq_some_iff.mp h
    exact .commitChanges device displayName user huser
  | buttonLogout device =>
    obtain ⟨hin, h⟩ := Option.ite_none_right_eq_some.mp h
    obtain ⟨user, huser⟩ := Option.isSome_iff_exists.mp hin
    exact Option.some_inj.mp h ▸ .buttonLogout device user huser

end Market

end Poketrader
