import Poketrader.Offers.Store
import Poketrader.Views.MeuAnuncioViewController

/-!
# Editing an offer

The owner of some offers at work on one or several devices. A device queries the owner's offers; the
answer travels and replaces the list of the device; a row of the list opens an edit screen, whose
eight texts are changed and written back; the write travels and is applied.

A screen writes all eight texts, changed or not, and nothing in a write says which. What a write
changes besides the texts its user changed is therefore what others have changed since: `version`
counts the edits applied to an offer, and a screen is kept with the count its list was read at.
-/

open Std (ExtTreeMap)
open Document

namespace Poketrader

namespace Editing

open MeuAnuncioViewController

/-- An offer as a query returned it, with the number of edits applied to it by then. -/
structure Snapshot where
  oferta : OfertaElement
  version : ℕ
  deriving DecidableEq

/-- An open edit screen. -/
structure Screen where
  opened : Snapshot
  texts : OfferTexts
  deriving DecidableEq

/-- A write on its way to the store, and the screen it was pressed on. -/
structure Pending where
  screen : Screen
  write : Write

structure State where
  anuncio : Collection
  /-- The number of edits applied to each offer. -/
  version : String → ℕ
  /-- The answers on their way, each to its device. -/
  answers : List (ℕ × List Snapshot)
  /-- The list of each device. -/
  lists : ℕ → List Snapshot
  screens : List Screen
  writes : List Pending

inductive Act where
  /-- The query of a device is evaluated. -/
  | query (device : ℕ)
  /-- The `i`-th answer on its way arrives. -/
  | respond (i : ℕ)
  /-- A row of the list of a device is tapped. -/
  | openScreen (device row : ℕ)
  /-- The user changes a text of the `i`-th screen. -/
  | change (i : ℕ) (a : Attr) (text : String)
  /-- Editar is pressed on the `i`-th screen. -/
  | editar (i : ℕ)
  /-- The `i`-th write on its way is applied. -/
  | store (i : ℕ)

/-- What `loadOffersForIUD` brings. -/
def loaded (user : AuthUser) (t : Collection) : List OfertaElement :=
  match loadOffersForIUD (some user) (.ofDocuments (ownDocuments (some user) t)) with
  | some (some ofertas, _) => ofertas.ofertas.getD []
  | _ => []

def State.snapshot (s : State) (oferta : OfertaElement) : Snapshot where
  oferta := oferta
  version := s.version (oferta.id.getD "")

def State.store (s : State) (i : ℕ) (p : Pending) : State :=
  { s with
    anuncio := p.write.commit s.anuncio
    version := fun k ↦ if k = p.write.id then s.version k + 1 else s.version k
    writes := s.writes.eraseIdx i }

def step (user : AuthUser) (s : State) : Act → Option State
  | .query device =>
    some { s with answers := s.answers ++ [(device, (loaded user s.anuncio).map s.snapshot)] }
  | .respond i => (s.answers[i]?).map fun answer ↦
      { s with
        answers := s.answers.eraseIdx i
        lists := fun device ↦ if device = answer.1 then answer.2 else s.lists device }
  | .openScreen device row => ((s.lists device)[row]?).map fun snapshot ↦
      { s with screens := s.screens ++ [⟨snapshot, viewDidLoad snapshot.oferta⟩] }
  | .change i a text => (s.screens[i]?).map fun screen ↦
      { s with screens := s.screens.set i { screen with texts := screen.texts.set a text } }
  | .editar i => (s.screens[i]?).bind fun screen ↦
      -- all eight texts are written, those of an outdated snapshot included
      (pressedEditarButton (some screen.opened.oferta) screen.texts).map fun write ↦
        { s with writes := s.writes ++ [⟨screen, write⟩] }
  | .store i => (s.writes[i]?).map fun p ↦ s.store i p

/-- The devices of a user, over the offers stored. -/
def machine (user : AuthUser) (m : ExtTreeMap String Offer) : Machine State Act where
  start := ⟨stored m, fun _ ↦ 0, [], fun _ ↦ [], [], []⟩
  step := step user

/-- The steps, action by action. -/
inductive Steps (user : AuthUser) : State → Act → State → Prop
  | query {s : State} (device : ℕ) : Steps user s (.query device)
      { s with answers := s.answers ++ [(device, (loaded user s.anuncio).map s.snapshot)] }
  | respond {s : State} (i : ℕ) (answer : ℕ × List Snapshot)
      (hanswer : s.answers[i]? = some answer) : Steps user s (.respond i)
      { s with
        answers := s.answers.eraseIdx i
        lists := fun device ↦ if device = answer.1 then answer.2 else s.lists device }
  | openScreen {s : State} (device row : ℕ) (opened : Snapshot)
      (hopened : (s.lists device)[row]? = some opened) : Steps user s (.openScreen device row)
      { s with screens := s.screens ++ [⟨opened, viewDidLoad opened.oferta⟩] }
  | change {s : State} (i : ℕ) (a : Attr) (text : String) (screen : Screen)
      (hscreen : s.screens[i]? = some screen) : Steps user s (.change i a text)
      { s with screens := s.screens.set i { screen with texts := screen.texts.set a text } }
  | editar {s : State} (i : ℕ) (screen : Screen) (write : Write)
      (hscreen : s.screens[i]? = some screen)
      (hwrite : pressedEditarButton (some screen.opened.oferta) screen.texts = some write) :
    Steps user s (.editar i) { s with writes := s.writes ++ [⟨screen, write⟩] }
  | store {s : State} (i : ℕ) (p : Pending) (hp : s.writes[i]? = some p) :
    Steps user s (.store i) (s.store i p)

theorem steps_of_step {user : AuthUser} {s t : State} {act : Act}
    (hstep : step user s act = some t) : Steps user s act t := by
  cases act with
  | query device => exact Option.some_inj.mp hstep ▸ .query device
  | respond i =>
    obtain ⟨answer, hanswer, rfl⟩ := Option.map_eq_some_iff.mp hstep
    exact .respond i answer hanswer
  | openScreen device row =>
    obtain ⟨opened, hopened, rfl⟩ := Option.map_eq_some_iff.mp hstep
    exact .openScreen device row opened hopened
  | change i a text =>
    obtain ⟨screen, hscreen, rfl⟩ := Option.map_eq_some_iff.mp hstep
    exact .change i a text screen hscreen
  | editar i =>
    obtain ⟨screen, hscreen, hstep⟩ := Option.bind_eq_some_iff.mp hstep
    obtain ⟨write, hwrite, rfl⟩ := Option.map_eq_some_iff.mp hstep
    exact .editar i screen write hscreen hwrite
  | store i =>
    obtain ⟨p, hp, rfl⟩ := Option.map_eq_some_iff.mp hstep
    exact .store i p hp

/-- The stored value of an attribute. -/
def storedText (t : Collection) (k : String) (a : Attr) : Option String :=
  (t[k]?).bind fun data ↦ data.string a.key

theorem string_fields_key (id : String) (o : Offer) (a : Attr) :
    (o.fields id).string a.key = some (o.toOfferTexts.get a) := by
  cases a <;> simp [Offer.fields, Attr.key, OfferTexts.get]

theorem storedText_stored (m : ExtTreeMap String Offer) (k : String) (a : Attr) :
    storedText (stored m) k a = (m[k]?).map fun o : Offer ↦ o.toOfferTexts.get a := by
  rw [storedText, getElem?_stored]
  cases m[k]? with
  | none => rfl
  | some o => rw [Option.map_some, Option.bind_some, Option.map_some, string_fields_key]

theorem loaded_stored (user : AuthUser) (m : ExtTreeMap String Offer) :
    loaded user (stored m) = (m.toList.filter fun p ↦ p.2.uid = user.uid).map
      fun p ↦ p.2.ownView (some user) p.1 := by
  rw [loaded, loadOffersForIUD_stored]
  rfl

/-- The edit screen opens with the texts stored. -/
theorem viewDidLoad_ownView (user : AuthUser) (k : String) (o : Offer) :
    viewDidLoad (o.ownView (some user) k) = o.toOfferTexts := rfl

/-! ## The invariant -/

/-- The snapshots held anywhere. -/
inductive Held (s : State) : Snapshot → Prop
  | answer (answer : ℕ × List Snapshot) (ha : answer ∈ s.answers) (snapshot : Snapshot)
      (hs : snapshot ∈ answer.2) : Held s snapshot
  | list (device : ℕ) (snapshot : Snapshot) (hs : snapshot ∈ s.lists device) : Held s snapshot
  | screen (screen : Screen) (hs : screen ∈ s.screens) : Held s screen.opened
  | write (p : Pending) (hp : p ∈ s.writes) : Held s p.screen.opened

/-- A snapshot shows the texts of an offer as they are stored unless the offer has been edited
since. -/
def Faithful (m : ExtTreeMap String Offer) (version : String → ℕ) (snapshot : Snapshot) : Prop :=
  ∃ k, snapshot.oferta.id = some k ∧ snapshot.version ≤ version k ∧
    (snapshot.version = version k →
      ∃ o, m[k]? = some o ∧ viewDidLoad snapshot.oferta = o.toOfferTexts)

structure Consistent (m : ExtTreeMap String Offer) (s : State) : Prop where
  stored : s.anuncio = stored m
  faithful : ∀ snapshot, Held s snapshot → Faithful m s.version snapshot
  pressed : ∀ p ∈ s.writes,
    pressedEditarButton (some p.screen.opened.oferta) p.screen.texts = some p.write

theorem consistent_start (user : AuthUser) (m : ExtTreeMap String Offer) :
    Consistent m (machine user m).start where
  stored := rfl
  faithful snapshot h := by cases h <;> simp_all [machine]
  pressed p h := absurd h List.not_mem_nil

/-- The write of a screen is an update of the offer it shows with its texts. -/
theorem Consistent.write_eq {m : ExtTreeMap String Offer} {s : State} (h : Consistent m s)
    {p : Pending} (hp : p ∈ s.writes) :
    ∃ k, p.screen.opened.oferta.id = some k ∧ p.write = .updateData k p.screen.texts.data := by
  have hpressed := h.pressed p hp
  rw [pressedEditarButton, Option.getD_some, updateOffer] at hpressed
  obtain ⟨k, hk, hwrite⟩ := Option.map_eq_some_iff.mp hpressed
  exact ⟨k, hk, hwrite.symm⟩

/-- A step that applies no write and holds no new snapshot. -/
theorem Consistent.of_held {m : ExtTreeMap String Offer} {s t : State} (h : Consistent m s)
    (hanuncio : t.anuncio = s.anuncio) (hversion : t.version = s.version)
    (hheld : ∀ snapshot, Held t snapshot → Held s snapshot)
    (hpressed : ∀ p ∈ t.writes,
      pressedEditarButton (some p.screen.opened.oferta) p.screen.texts = some p.write) :
    Consistent m t where
  stored := hanuncio.trans h.stored
  faithful snapshot hs := hversion ▸ h.faithful snapshot (hheld snapshot hs)
  pressed := hpressed

/-- What a query returns is faithful. -/
theorem Consistent.faithful_loaded {m : ExtTreeMap String Offer} {s : State}
    (h : Consistent m s) (user : AuthUser) :
    ∀ snapshot ∈ (loaded user s.anuncio).map s.snapshot, Faithful m s.version snapshot := by
  rw [h.stored, loaded_stored, List.map_map]
  intro snapshot hs
  obtain ⟨⟨k, o⟩, hp, rfl⟩ := List.mem_map.mp hs
  have hget : m[k]? = some o :=
    ExtTreeMap.mem_toList_iff_getElem?_eq_some.mp (List.mem_filter.mp hp).1
  exact ⟨k, rfl, Nat.le_refl _, fun _ ↦ ⟨o, hget, viewDidLoad_ownView user k o⟩⟩

theorem Consistent.query {m : ExtTreeMap String Offer} {s : State} (h : Consistent m s)
    (user : AuthUser) (device : ℕ) :
    Consistent m
      { s with answers := s.answers ++ [(device, (loaded user s.anuncio).map s.snapshot)] } where
  stored := h.stored
  faithful snapshot hs := by
    cases hs with
    | answer answer ha _ hs =>
      obtain ha | ha := List.mem_append.mp ha
      · exact h.faithful snapshot (.answer answer ha snapshot hs)
      · obtain rfl := List.mem_singleton.mp ha
        exact h.faithful_loaded user snapshot hs
    | list device _ hs => exact h.faithful snapshot (.list device snapshot hs)
    | screen screen hs => exact h.faithful _ (.screen screen hs)
    | write p hp => exact h.faithful _ (.write p hp)
  pressed := h.pressed

/-- Applying the write of a screen replaces the texts of its offer and outdates every snapshot of
it. -/
theorem Consistent.store {m : ExtTreeMap String Offer} {s : State} (h : Consistent m s) {i : ℕ}
    {p : Pending} (hp : s.writes[i]? = some p) :
    ∃ k, p.screen.opened.oferta.id = some k ∧
      Consistent (m.modify k (Offer.withTexts p.screen.texts)) (s.store i p) := by
  have hmem : p ∈ s.writes := List.mem_of_getElem? hp
  obtain ⟨k, hk, hwrite⟩ := h.write_eq hmem
  refine ⟨k, hk, ?_, fun snapshot hs ↦ ?_, fun q hq ↦ ?_⟩
  · rw [State.store, hwrite, h.stored]
    exact commit_updateData_map _ _ _ fun o ↦ Offer.update_data k p.screen.texts o
  · have hheld : Held s snapshot := by
      cases hs with
      | answer answer ha _ hs => exact .answer (s := s) answer ha snapshot hs
      | list device _ hs => exact .list (s := s) device snapshot hs
      | screen screen hs => exact .screen (s := s) screen hs
      | write q hq => exact .write q (List.mem_of_mem_eraseIdx hq)
    obtain ⟨j, hj, hle, htexts⟩ := h.faithful snapshot hheld
    refine ⟨j, hj, ?_, fun hversion ↦ ?_⟩
    · simp only [State.store]
      split <;> omega
    · simp only [State.store, hwrite, Write.id] at hversion
      split at hversion
      · exact absurd hversion (by omega)
      · next hne =>
        obtain ⟨o, ho, htexts⟩ := htexts hversion
        refine ⟨o, ?_, htexts⟩
        rw [ExtTreeMap.getElem?_modify, if_neg]
        · exact ho
        · rw [Std.LawfulEqCmp.compare_eq_iff_eq]
          exact fun heq ↦ hne heq.symm
  · exact h.pressed q (List.mem_of_mem_eraseIdx hq)

theorem Consistent.step {m : ExtTreeMap String Offer} {s t : State} {act : Act} {user : AuthUser}
    (h : Consistent m s) (hstep : step user s act = some t) : ∃ m', Consistent m' t := by
  cases steps_of_step hstep with
  | query device => exact ⟨m, h.query user device⟩
  | respond i answer hanswer =>
    refine ⟨m, h.of_held rfl rfl (fun snapshot hs ↦ ?_) h.pressed⟩
    cases hs with
    | answer other ha _ hs => exact .answer other (List.mem_of_mem_eraseIdx ha) snapshot hs
    | list device _ hs =>
      simp only at hs
      split at hs
      · exact .answer answer (List.mem_of_getElem? hanswer) snapshot hs
      · exact .list device snapshot hs
    | screen screen hs => exact .screen (s := s) screen hs
    | write p hp => exact .write (s := s) p hp
  | openScreen device row opened hopened =>
    refine ⟨m, h.of_held rfl rfl (fun snapshot hs ↦ ?_) h.pressed⟩
    cases hs with
    | answer answer ha _ hs => exact .answer (s := s) answer ha snapshot hs
    | list device _ hs => exact .list (s := s) device snapshot hs
    | screen screen hs =>
      obtain hs | hs := List.mem_append.mp hs
      · exact .screen screen hs
      · obtain rfl := List.mem_singleton.mp hs
        exact .list device opened (List.mem_of_getElem? hopened)
    | write p hp => exact .write (s := s) p hp
  | change i a text changed hchanged =>
    refine ⟨m, h.of_held rfl rfl (fun snapshot hs ↦ ?_) h.pressed⟩
    cases hs with
    | answer answer ha _ hs => exact .answer (s := s) answer ha snapshot hs
    | list device _ hs => exact .list (s := s) device snapshot hs
    | screen screen hs =>
      -- changing a text leaves what the screen was opened with
      obtain hs | rfl := List.mem_or_eq_of_mem_set hs
      · exact .screen screen hs
      · exact .screen changed (List.mem_of_getElem? hchanged)
    | write p hp => exact .write (s := s) p hp
  | editar i screen write hscreen hwrite =>
    refine ⟨m, h.of_held rfl rfl (fun snapshot hs ↦ ?_) fun p hp ↦ ?_⟩
    · cases hs with
      | answer answer ha _ hs => exact .answer (s := s) answer ha snapshot hs
      | list device _ hs => exact .list (s := s) device snapshot hs
      | screen screen hs => exact .screen (s := s) screen hs
      | write p hp =>
        obtain hp | hp := List.mem_append.mp hp
        · exact .write p hp
        · obtain rfl := List.mem_singleton.mp hp
          exact .screen screen (List.mem_of_getElem? hscreen)
    · obtain hp | hp := List.mem_append.mp hp
      · exact h.pressed p hp
      · obtain rfl := List.mem_singleton.mp hp
        exact hwrite
  | store i p hp =>
    obtain ⟨k, -, hk⟩ := h.store hp
    exact ⟨_, hk⟩

theorem consistent_of_run {user : AuthUser} {m : ExtTreeMap String Offer} {acts : List Act}
    {s : State} (hrun : (machine user m).run acts = some s) : ∃ m', Consistent m' s :=
  Machine.invariant (I := fun s ↦ ∃ m', Consistent m' s) (fun _ _ _ ⟨_, h⟩ hstep ↦ h.step hstep)
    ⟨m, consistent_start user m⟩ hrun

/-! ## What an edit changes -/

/-- Only applying a write changes the collection. -/
theorem anuncio_eq_of_step {user : AuthUser} {s t : State} {act : Act}
    (hstep : step user s act = some t) :
    t.anuncio = s.anuncio ∨ ∃ i p, act = .store i ∧ s.writes[i]? = some p ∧ t = s.store i p := by
  cases steps_of_step hstep with
  | query | respond | openScreen | change | editar => exact Or.inl rfl
  | store i p hp => exact Or.inr ⟨i, p, rfl, hp, rfl⟩

/-- One offer, stored. -/
def sampleOffers : ExtTreeMap String Offer :=
  (∅ : ExtTreeMap String Offer).insert "key-1" (Offer.ofSave sampleUser sampleArguments)

/-- The offer is opened and its level changed. -/
def levelActs : List Act :=
  [.query 0, .respond 0, .openScreen 0 0, .change 0 .nv "6", .editar 0]

/-- Back in a list that has not been read again, the offer is opened once more and another text
changed. -/
def healthActs : List Act :=
  levelActs ++ [.store 0, .openScreen 0 0, .change 1 .hp "36", .editar 1]

/-- The state after some actions on the stored offer. -/
def sampleState (acts : List Act) : State :=
  ((machine sampleUser sampleOffers).run acts).getD (machine sampleUser sampleOffers).start

end Editing

end Poketrader
