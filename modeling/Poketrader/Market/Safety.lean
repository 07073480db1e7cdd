import Poketrader.Market.Sellers
import Poketrader.Offers.Lens

/-!
# What the market guarantees

Everything here holds in every run of any number of devices, with users coming and going and calls
stored in any order or rejected. It all rests on the simulation by the registry of sellers: an offer
is its seller's from the first to the last, it is never resurrected, its texts are those of the last
edit that was announced, and nobody is shown an offer of somebody else to press a button on.
-/

open Document Foundation

namespace Poketrader

namespace Market

open OfferForms (Device Input EditScreen)
open Registry (Phase)

variable {P : Platform} {acts bs cs : List Act} {s t u : State} {m : String → Standing}
  {k : String} {data : Fields}

/-! ## Every run is a run of the registry -/

/-- No demand on what is shown to whom. -/
def anybody (_ _ : String) : Prop := True

theorem represents_of_exec (h : Represents anybody m s) (hexec : (machine P).exec s bs = some t) :
    ∃ m', sellers.exec m ((machine P).trace deeds s bs) = some m' ∧ Represents anybody m' t :=
  Machine.exec_trace_of_allowed (G := fun _ _ ↦ True) (R := fun s m ↦ Represents anybody m s)
    (fun _ _ _ _ h _ hstep ↦ h.step (fun _ ↦ trivial) (.inr fun _ _ ↦ trivial) hstep) h
    (Machine.allowed_of_forall_mem (fun _ _ _ ↦ trivial) s) hexec

theorem represents_own_of_exec (h : Represents Eq m s) (horderly : (machine P).Allowed Orderly s bs)
    (hexec : (machine P).exec s bs = some t) :
    ∃ m', sellers.exec m ((machine P).trace deeds s bs) = some m' ∧ Represents Eq m' t :=
  Machine.exec_trace_of_allowed (R := fun s m ↦ Represents Eq m s)
    (fun _ _ _ _ h hG hstep ↦ h.step (fun _ ↦ rfl) (.inl hG) hstep) h horderly hexec

theorem represents_of_run (hrun : (machine P).run acts = some s) :
    ∃ m, sellers.run ((machine P).trace deeds (machine P).start acts) = some m ∧
      Represents anybody m s :=
  represents_of_exec (.start P) hrun

theorem represents_own_of_run (horderly : (machine P).Allowed Orderly (machine P).start acts)
    (hrun : (machine P).run acts = some s) :
    ∃ m, sellers.run ((machine P).trace deeds (machine P).start acts) = some m ∧
      Represents Eq m s :=
  represents_own_of_exec (.start P) horderly hrun

/-- A user signs up, signs in and publishes an offer. -/
def publishedActs : List Act :=
  [.createUser 0 sampleUser, .login 0 sampleUser, .input 0 (.edit .gameTitle ⟨0, 0⟩ "Red"),
    .input 0 (.addPokemon (some sampleUser) "key-key-key-key-key1"), .store 0 "", .store 0 ""]

/-- The user changes the level of the offer. -/
def editingActs : List Act :=
  [.loadOffersForIUD 0, .respond 0, .input 0 (.openScreen 0),
    .input 0 (.editStat .nv ⟨0, 0⟩ "6"), .input 0 .pressedEditarButton, .store 0 ""]

/-- The user deletes the offer shown. -/
def deletingActs : List Act := [.input 0 .pressedExcluirButton, .store 0 ""]

/-- The state after some actions. -/
def sampleState (acts : List Act) : State :=
  ((machine .scalarwise).run acts).getD (machine .scalarwise).start

theorem run_publishedActs :
    (machine .scalarwise).run publishedActs = some (sampleState publishedActs) := by rfl

theorem exec_editingActs : (machine .scalarwise).exec (sampleState publishedActs) editingActs
    = some (sampleState (publishedActs ++ editingActs)) := by rfl

theorem run_editingActs : (machine .scalarwise).run (publishedActs ++ editingActs)
    = some (sampleState (publishedActs ++ editingActs)) := by rfl

theorem exec_deletingActs :
    (machine .scalarwise).exec (sampleState (publishedActs ++ editingActs)) deletingActs
      = some (sampleState (publishedActs ++ editingActs ++ deletingActs)) := by rfl

theorem run_deletingActs :
    (machine .scalarwise).run (publishedActs ++ editingActs ++ deletingActs)
      = some (sampleState (publishedActs ++ editingActs ++ deletingActs)) := by rfl

theorem orderly_publishedActs : (machine .scalarwise).Allowed Orderly (machine .scalarwise).start
    publishedActs := by
  refine fun t _ ↦ ⟨⟨rfl, rfl, fun answer h ↦ absurd h List.not_mem_nil⟩, ?_⟩
  exact Machine.allowed_of_forall_mem (by simp [Orderly]) t

/-- The fields of an offer that no write changes. -/
theorem fields_of_ne (o : Offer) (texts : OfferTexts) (id : String) {j : String} (hid : j ≠ "id")
    (hattr : ∀ a : Attr, j ≠ a.key) : (o.withTexts texts).fields id j = o.fields "No Id" j := by
  have hnone : idData (some id) j = none :=
    Fields.ofList_eq_none fun hmem ↦ hid (List.mem_singleton.mp hmem)
  have hidentified : o.fields id = (o.fields "No Id").update (idData (some id)) :=
    (Offer.update_idData "No Id" (some id) o).symm
  rw [← Offer.update_data, Fields.update_of_eq_none (texts.data_of_ne hattr), hidentified,
    Fields.update_of_eq_none hnone]

theorem fields_id (id : String) (o : Offer) : o.fields id "id" = some (.string id) := rfl

/-- A document that has its copy of the key keeps it. -/
theorem identified_foldl (amendments : List Amendment) {c : Content} (h : c.identified = true) :
    (amendments.foldl Content.amended c).identified = true := by
  induction amendments generalizing c with
  | nil => exact h
  | cons a amendments ih =>
    rcases a with - | texts
    · exact ih rfl
    · exact ih h

/-- **The life of an offer.** A document that is stored at some point of a run keeps, for as long as
it is there, every field but the eight texts and its copy of the key, which only ever changes to the
key; and once the document is gone it does not come back. -/
theorem life_of_document (hrun : (machine P).run acts = some s)
    (ht : (machine P).exec s bs = some t) (hu : (machine P).exec t cs = some u)
    (hk : s.anuncio[k]? = some data) :
    (t.anuncio[k]? = none → u.anuncio[k]? = none) ∧
      ∀ after, t.anuncio[k]? = some after →
        (∀ j, j ≠ "id" → (∀ a : Attr, j ≠ a.key) → after j = data j) ∧
          (after "id" = data "id" ∨ after "id" = some (.string k)) := by
  obtain ⟨ms, -, hs⟩ := represents_of_run hrun
  obtain ⟨mt, hmt, ht⟩ := represents_of_exec hs ht
  obtain ⟨mu, hmu, hu⟩ := represents_of_exec ht hu
  obtain ⟨o, c, hlive, hfields⟩ := hs.live hk
  have hst : Phase.live (seller data) o c ≤ mt k := hlive ▸ Registry.le_of_exec hmt k
  constructor
  · intro hgone
    rw [ht.anuncio] at hgone
    rcases Phase.live_le hst with ⟨c', hc'⟩ | hg
    · rw [hc'] at hgone
      exact absurd hgone (Option.some_ne_none _)
    · have htu : Phase.gone (seller data) o ≤ mu k := hg ▸ Registry.le_of_exec hmu k
      rw [hu.anuncio, Phase.gone_le htu]
      rfl
  · intro after hafter
    obtain ⟨o', c', hlive', hfields'⟩ := ht.live hafter
    rw [hlive'] at hst
    obtain ⟨hseller, rfl⟩ : seller after = seller data ∧ o' = o := hst
    rw [hseller] at hlive'
    rw [hfields, hfields']
    refine ⟨fun j hid hattr ↦ ?_, ?_⟩
    · rw [fields_of_ne _ _ _ hid hattr, fields_of_ne _ _ _ hid hattr]
    · rw [fields_id, fields_id]
      by_cases hc' : c'.identified = true
      · exact .inr (by rw [if_pos hc'])
      · -- what is not identified now has not been before
        have hc : ¬c.identified = true := fun hc ↦
          hc' (Registry.content_of_exec hmt hlive hlive' ▸ identified_foldl _ hc)
        exact .inl (by rw [if_neg hc, if_neg hc'])

/-- The offer is published, edited and deleted. -/
theorem life_of_document_deletingActs : ∃ data after : Fields,
    (sampleState publishedActs).anuncio["key-key-key-key-key1"]? = some data ∧
      (sampleState (publishedActs ++ editingActs)).anuncio["key-key-key-key-key1"]? = some after ∧
      after "game" = data "game" := by
  obtain ⟨data, hdata⟩ : ∃ data : Fields,
    (sampleState publishedActs).anuncio["key-key-key-key-key1"]? = some data := ⟨_, rfl⟩
  obtain ⟨after, hafter⟩ : ∃ data : Fields,
    (sampleState (publishedActs ++ editingActs)).anuncio["key-key-key-key-key1"]? = some data :=
    ⟨_, rfl⟩
  have hgame : ∀ a : Attr, "game" ≠ a.key := fun a ↦ by
    rcases a with - | - | - | - | - | - | - | - <;> decide
  obtain ⟨-, hkept⟩ := life_of_document run_publishedActs exec_editingActs exec_deletingActs hdata
  exact ⟨data, after, hdata, hafter, (hkept after hafter).1 "game" (by decide) hgame⟩

/-! ## Nobody else's offer -/

/-- What a call amounts to is done for the account that made it. -/
theorem Represents.who_eq (h : Represents Eq m s) {p : Pending} (hp : p ∈ s.writes) {d : Deed}
    (hd : d ∈ p.request.deeds s.anuncio) : d.who = p.uid := by
  have hpermitted := h.writes p hp
  have hnone : ∀ {k : String} {f : Fields → List Deed}, d ∈ (s.anuncio[k]?).elim [] f →
      ∃ data, s.anuncio[k]? = some data ∧ d ∈ f data := by
    intro k f hd
    cases hdata : s.anuncio[k]? with
    | none =>
      rw [hdata] at hd
      exact absurd hd List.not_mem_nil
    | some data =>
      rw [hdata] at hd
      exact ⟨data, rfl, hd⟩
  have htarget : ∀ {k : String}, Target Eq m p.uid k → ∀ data : Fields,
      s.anuncio[k]? = some data → seller data = p.uid := by
    intro k htarget data hdata
    obtain ⟨o, c, hlive, -⟩ := h.live hdata
    rcases htarget with rfl | ⟨u, o', rfl, hpub⟩
    · exact absurd rfl (h.ne_noId (by rw [hlive]; simp))
    · rw [hlive] at hpub
      exact hpub.1
  obtain ⟨device, uid, request⟩ := p
  cases request with
  | addDocument documentID userData args =>
    rw [List.mem_singleton.mp hd]
    exact hpermitted.2
  | updateId documentID =>
    obtain ⟨data, hdata, hd⟩ := hnone hd
    rw [List.mem_singleton.mp hd]
    obtain ⟨o, c, hlive, -⟩ := h.live hdata
    have howner : (m documentID).owner = some uid := hpermitted
    rw [hlive] at howner
    exact Option.some_inj.mp howner
  | updateOffer id texts =>
    obtain ⟨data, hdata, hd⟩ := hnone hd
    rw [List.mem_singleton.mp hd]
    exact htarget hpermitted data hdata
  | deleteOffer id =>
    obtain ⟨data, hdata, hd⟩ := hnone hd
    rw [List.mem_singleton.mp hd]
    exact htarget hpermitted data hdata

/-- **Only the seller acts.** In a run where no sign-up is answered under the screens of somebody
else, whatever a call on its way would do if it were stored now, it would do to a key of the account
that was signed in at the press. -/
theorem who_of_run (horderly : (machine P).Allowed Orderly (machine P).start acts)
    (hrun : (machine P).run acts = some s) {p : Pending} (hp : p ∈ s.writes) {d : Deed}
    (hd : d ∈ p.request.deeds s.anuncio) : d.who = p.uid := by
  obtain ⟨m, -, h⟩ := represents_own_of_run horderly hrun
  exact h.who_eq hp hd

/-- The user of the first device presses Editar. -/
def pressedActs : List Act :=
  [.loadOffersForIUD 0, .respond 0, .input 0 (.openScreen 0), .input 0 .pressedEditarButton]

theorem run_pressedActs : (machine .scalarwise).run (publishedActs ++ pressedActs)
    = some (sampleState (publishedActs ++ pressedActs)) := by rfl

theorem orderly_pressedActs : (machine .scalarwise).Allowed Orderly (machine .scalarwise).start
    (publishedActs ++ pressedActs) := by
  refine fun t _ ↦ ⟨⟨rfl, rfl, fun answer h ↦ absurd h List.not_mem_nil⟩, ?_⟩
  exact Machine.allowed_of_forall_mem (by simp [pressedActs, Orderly]) t

theorem who_pressedActs : ∃ p ∈ (sampleState (publishedActs ++ pressedActs)).writes,
    ∃ d ∈ p.request.deeds (sampleState (publishedActs ++ pressedActs)).anuncio,
      d.key = "key-key-key-key-key1" ∧ d.who = "uid-1" ∧ p.uid = "uid-1" := by
  obtain ⟨p, d, hp, hd, hkey, huid⟩ : ∃ (p : Pending) (d : Deed),
      p ∈ (sampleState (publishedActs ++ pressedActs)).writes ∧
        d ∈ p.request.deeds (sampleState (publishedActs ++ pressedActs)).anuncio ∧
        d.key = "key-key-key-key-key1" ∧ p.uid = "uid-1" :=
    ⟨_, _, List.mem_cons_self, List.mem_cons_self, rfl, rfl⟩
  exact ⟨p, hp, d, hd, hkey, (who_of_run orderly_pressedActs run_pressedActs hp hd).trans huid,
    huid⟩

/-- Nothing is pressed in a session of the account `uid`. -/
def Silent (uid : String) (s : State) : Act → Prop
  | .input device input => s.uid device = uid → requests (s.devices device) input = []
  | .loadOffersForIUD _ | .respond _ | .store _ _ | .reject _ _ | .login _ _ | .createUser _ _
  | .commitChanges _ _ | .buttonLogout _ => True

/-- Nor is anything of it on its way. -/
def NothingOf (uid : String) (s : State) : Prop := ∀ p ∈ s.writes, p.uid ≠ uid

theorem nothingOf_step {uid : String} {act : Act} (h : NothingOf uid s) (hsilent : Silent uid s act)
    (hstep : (machine P).step s act = some t) : NothingOf uid t := by
  cases steps_of_step hstep with
  | input device input dev writes hpossible hdev =>
    intro p hp
    rcases List.mem_append.mp hp with hp | hp
    · exact h p hp
    · obtain ⟨c, hc, rfl⟩ := List.mem_map.mp hp
      rintro huid
      rw [hsilent huid] at hc
      exact absurd hc List.not_mem_nil
  | store i message p hp => exact fun q hq ↦ h q (List.mem_of_mem_eraseIdx hq)
  | reject i message p hp => exact fun q hq ↦ h q (List.mem_of_mem_eraseIdx hq)
  | loadOffersForIUD | respond | login | createUser | commitChanges | buttonLogout => exact h

theorem Represents.who_ne {uid : String} {act : Act} (hrep : Represents Eq m s)
    (h : NothingOf uid s) (hsilent : Silent uid s act) : ∀ d ∈ deeds s act, d.who ≠ uid := by
  intro d hd
  cases act with
  | input device input =>
    obtain ⟨j, hj, rfl⟩ := List.mem_map.mp hd
    rintro huid
    rw [hsilent huid] at hj
    exact absurd hj List.not_mem_nil
  | store i message =>
    rw [deeds] at hd
    rcases hp : s.writes[i]? with - | p
    · rw [hp] at hd
      exact absurd hd List.not_mem_nil
    · rw [hp] at hd
      have hmem : p ∈ s.writes := List.mem_of_getElem? hp
      rw [hrep.who_eq hmem hd]
      exact h p hmem
  | loadOffersForIUD | respond | reject | login | createUser | commitChanges | buttonLogout =>
    exact absurd hd List.not_mem_nil

/-- **Nobody else changes an offer.** While its seller presses nothing and has nothing on its way, a
stored document stays exactly as it is, whatever all other sessions do. -/
theorem document_eq_of_silent {uid : String}
    (horderly : (machine P).Allowed Orderly (machine P).start acts)
    (hrun : (machine P).run acts = some s) (hk : s.anuncio[k]? = some data)
    (huid : data.string "uid" = some uid) (hnothing : NothingOf uid s)
    (hsilent : (machine P).Allowed (fun s a ↦ Silent uid s a ∧ Orderly s a) s bs)
    (hexec : (machine P).exec s bs = some t) : t.anuncio[k]? = some data := by
  obtain ⟨ms, -, hs⟩ := represents_own_of_run horderly hrun
  obtain ⟨mt, hmt, ht⟩ :=
    represents_own_of_exec hs (hsilent.mono fun _ _ ↦ And.right) hexec
  obtain ⟨o, c, hlive, -⟩ := hs.live hk
  have howner : (ms k).owner = some uid := by
    rw [hlive]
    exact congrArg (fun u : Option String ↦ some (u.getD "")) huid
  have hothers := Machine.forall_mem_trace (I := fun s ↦ NothingOf uid s ∧ ∃ m, Represents Eq m s)
    (Q := fun d : Deed ↦ d.who ≠ uid) (M := machine P) (f := deeds)
    (fun _ _ _ ⟨hn, m, hm⟩ hG hstep ↦ ⟨nothingOf_step hn hG.1 hstep,
      (hm.step (fun _ ↦ rfl) (.inl hG.2) hstep).imp fun _ ↦ And.right⟩)
    (fun _ _ _ ⟨hn, m, hm⟩ hG _ ↦ hm.who_ne hn hG.1) ⟨hnothing, ms, hs⟩ hsilent hexec
  have hsame : mt k = ms k :=
    Registry.phase_eq_of_exec howner (fun d hd _ ↦ hothers d hd) hmt
  rw [ht.anuncio, hsame, ← hs.anuncio]
  exact hk

/-- Another user takes over the device. -/
def otherActs : List Act :=
  [.buttonLogout 0, .login 0 { sampleUser with uid := "uid-2" }, .loadOffersForIUD 0, .respond 0]

theorem exec_otherActs : (machine .scalarwise).exec (sampleState publishedActs) otherActs
    = some (sampleState (publishedActs ++ otherActs)) := by rfl

theorem document_eq_otherActs : ∃ data : Fields,
    (sampleState publishedActs).anuncio["key-key-key-key-key1"]? = some data ∧
      (sampleState (publishedActs ++ otherActs)).anuncio["key-key-key-key-key1"]? = some data := by
  obtain ⟨data, hdata, huid⟩ : ∃ data : Fields,
    (sampleState publishedActs).anuncio["key-key-key-key-key1"]? = some data ∧
      data.string "uid" = some "uid-1" := ⟨_, rfl, rfl⟩
  have hsilent : (machine .scalarwise).Allowed (fun s a ↦ Silent "uid-1" s a ∧ Orderly s a)
      (sampleState publishedActs) otherActs :=
    Machine.allowed_of_forall_mem (by simp [otherActs, Silent, Orderly]) _
  exact ⟨data, hdata, document_eq_of_silent orderly_publishedActs run_publishedActs hdata huid
    (fun p hp ↦ absurd hp List.not_mem_nil) hsilent exec_otherActs⟩

/-! ## What is shown to whom -/

/-- `oferta` is the offer `o`, under its key or under the fallback. -/
structure Shows (oferta : OfertaElement) (k : String) (o : Offer) : Prop where
  id : oferta.id = some k ∨ oferta.id = some "No Id"
  pokemon : oferta.pokemon = some o.pokemon
  nome : oferta.nome = some o.userName
  game : oferta.game = some o.game

/-- **Everybody is shown their own.** In a run where no sign-up is answered under the screens of
somebody else, every offer in the list of a device, or on its edit screen, was published by the
account whose session the device is in, and is shown as it was published, whoever used the device
before and however late the answer to a query came. -/
theorem shows_own_of_run (horderly : (machine P).Allowed Orderly (machine P).start acts)
    (hrun : (machine P).run acts = some s) (device : ℕ) {oferta : OfertaElement}
    (hshown : oferta ∈ (s.devices device).ofertas ∨
      ∃ screen, (s.devices device).screen = some screen ∧ screen.oferta = oferta) :
    ∃ k o, .publish (s.uid device) k o ∈ (machine P).trace deeds (machine P).start acts ∧
      o.uid = s.uid device ∧ Shows oferta k o := by
  obtain ⟨m, hm, h⟩ := represents_own_of_run horderly hrun
  have hshown : Shown Eq m (s.uid device) oferta := by
    rcases hshown with hmem | ⟨screen, hscreen, rfl⟩
    · exact (h.devices device).ofertas oferta hmem
    · exact (h.devices device).screen screen hscreen
  obtain ⟨k, u, o, rfl, hpub, hid, hpokemon, hnome, hgame⟩ := hshown
  have hmem := (Registry.publish_mem_of_exec hm hpub).resolve_left id
  exact ⟨k, o, hmem, h.published_uid k _ o hpub, hid, hpokemon, hnome, hgame⟩

end Market

end Poketrader
