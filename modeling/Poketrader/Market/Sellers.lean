import Mathlib.Data.List.Nodup
import Poketrader.Market.Devices
import Poketrader.Registry.Ownership

/-!
# The market as a registry

What the collection is for, stated without documents, queries or devices: a registry in which every
key belongs to a seller, who publishes an offer under it, edits the eight texts of the offer and
withdraws it.

## The simulation

The registry takes part in the run of the devices by the calls that are stored. A call is traced to
an action of the seller whom the document names, or to none where there is no document.
`Represents.step` says that the registry never refuses, so the collection is always the one it
describes.

## Who acts

Whether a call comes from the seller is another question, and the answer depends on the sessions. A
button acts on the offer of its screen, the screen shows an offer of the list, and the list holds
what was found under the `uid` of the session of its time. What is asked of the account of a session
and of the seller of what it shows is therefore a parameter of the invariant. With no demand it
holds in every run, and with equality in those where no sign-up is answered under the screens of
somebody else.

An offer is also shown before its copy of the key is stored, with the fallback in its place. Such an
offer is no threat to anybody else's, since no key is the fallback.
-/

open Document Foundation

namespace Poketrader

namespace Market

open OfferForms (Device Input EditScreen loaded)
open Registry (Phase)

/-! ## The registry of sellers -/

/-- What can change of an offer that is published: whether the document has its key, and the eight
texts. -/
structure Content where
  identified : Bool
  texts : OfferTexts
  deriving DecidableEq

inductive Amendment where
  | identify
  | edit (texts : OfferTexts)
  deriving DecidableEq

namespace Content

def init (o : Offer) : Content where
  identified := false
  texts := o.toOfferTexts

def amended (c : Content) : Amendment → Content
  | .identify => { c with identified := true }
  | .edit texts => { c with texts }

end Content

/-- The phases of a key, with the offer as it was published. -/
abbrev Standing := Phase String Offer Content

/-- An action of a seller. -/
abbrev Deed := Registry.Act String String Offer Amendment

def sellers : Machine (String → Standing) Deed := Registry.machine Content.init Content.amended

/-- The document of a key. -/
def document (k : String) : Standing → Option Fields
  | .live _ o c => some ((o.withTexts c.texts).fields (if c.identified then k else "No Id"))
  | .free | .reserved _ | .gone _ _ => none

/-! ## What the devices do to it -/

/-- The seller a document names. -/
def seller (data : Fields) : String := (data.string "uid").getD ""

/-- What storing a call amounts to. A call for a document that is not there is nothing. -/
def Request.deeds (t : Collection) : Request → List Deed
  | .addDocument documentID userData args =>
    [.publish userData.uid documentID (Offer.ofSave userData args)]
  | .updateId documentID =>
    (t[documentID]?).elim [] fun data ↦ [.amend (seller data) documentID .identify]
  | .updateOffer id texts => (t[id]?).elim [] fun data ↦ [.amend (seller data) id (.edit texts)]
  | .deleteOffer id => (t[id]?).elim [] fun data ↦ [.withdraw (seller data) id]

/-- What a step amounts to. -/
def deeds (s : State) : Act → List Deed
  | .input device input =>
    ((requests (s.devices device) input).filterMap Request.draws).map (.reserve (s.uid device))
  | .store i _ => (s.writes[i]?).elim [] fun p ↦ p.request.deeds s.anuncio
  | .loadOffersForIUD _ | .respond _ | .reject _ _ | .login _ _ | .createUser _ _
  | .commitChanges _ _ | .buttonLogout _ => []

/-! ## The invariant -/

section

variable (R : String → String → Prop) (m : String → Standing)

/-- An offer on a screen of `who` is one that has been published, shown under its key or under the
fallback, and its seller is as `R` asks. -/
def Shown (who : String) (oferta : OfertaElement) : Prop :=
  ∃ k u o, R who u ∧ (m k).Published u o ∧ (oferta.id = some k ∨ oferta.id = some "No Id") ∧
    oferta.pokemon = some o.pokemon ∧ oferta.nome = some o.userName ∧ oferta.game = some o.game

/-- A key `who` may press a button on. -/
def Target (who id : String) : Prop := id = "No Id" ∨ ∃ u o, R who u ∧ (m id).Published u o

/-- The calls that can be on their way. -/
def Permitted (p : Pending) : Prop :=
  match p.request with
  | .addDocument documentID userData _ =>
    m documentID = .reserved userData.uid ∧ userData.uid = p.uid
  | .updateId documentID => (m documentID).owner = some p.uid
  | .updateOffer id _ | .deleteOffer id => Target R m p.uid id

/-- A device of `who` has no other offers. -/
structure OwnDevice (who : String) (dev : Device) : Prop where
  ofertas : ∀ oferta ∈ dev.ofertas, Shown R m who oferta
  screen : ∀ screen, dev.screen = some screen → Shown R m who screen.oferta

/-- The keys that are still to be published. -/
def creates (writes : List Pending) : List String := writes.filterMap fun p ↦ p.request.draws

/-- The collection is the one the registry describes, and nothing on a screen or on its way goes
beyond what the registry grants. -/
structure Represents (s : State) : Prop where
  anuncio : ∀ k : String, s.anuncio[k]? = document k (m k)
  drawn : ∀ k, m k ≠ .free → k ∈ s.drawn
  autoId : ∀ k ∈ s.drawn, k.length = 20
  published_uid : ∀ k who o, (m k).Published who o → o.uid = who
  writes : ∀ p ∈ s.writes, Permitted R m p
  creates_nodup : (creates s.writes).Nodup
  answers : ∀ answer ∈ s.answers, ∀ oferta ∈ answer.2, Shown R m (s.uid answer.1) oferta
  devices : ∀ device, OwnDevice R m (s.uid device) (s.devices device)

end

variable {R : String → String → Prop} {m m' : String → Standing} {s t : State} {P : Platform}
  {who : String}

theorem Shown.mono (hle : m ≤ m') {oferta : OfertaElement} (h : Shown R m who oferta) :
    Shown R m' who oferta := by
  obtain ⟨k, u, o, hR, hpub, hrest⟩ := h
  exact ⟨k, u, o, hR, hpub.mono (hle k), hrest⟩

theorem Target.mono (hle : m ≤ m') {id : String} (h : Target R m who id) : Target R m' who id :=
  h.imp_right fun ⟨u, o, hR, ho⟩ ↦ ⟨u, o, hR, ho.mono (hle id)⟩

theorem OwnDevice.mono (hle : m ≤ m') {dev : Device} (h : OwnDevice R m who dev) :
    OwnDevice R m' who dev where
  ofertas oferta hoferta := (h.ofertas oferta hoferta).mono hle
  screen screen hscreen := (h.screen screen hscreen).mono hle

/-- What can be on its way stays so, but for the creation of a document, which waits for its key to
be left alone. -/
theorem Permitted.mono (hle : m ≤ m') {p : Pending} (h : Permitted R m p)
    (hkeep : ∀ k, p.request.draws = some k → m' k = m k) : Permitted R m' p := by
  obtain ⟨device, uid, request⟩ := p
  cases request with
  | addDocument documentID userData args => exact ⟨(hkeep documentID rfl).trans h.1, h.2⟩
  | updateId documentID => exact Phase.owner_mono h (hle documentID)
  | updateOffer id texts => exact Target.mono hle h
  | deleteOffer id => exact Target.mono hle h

/-- The offer of a screen is a target. -/
theorem Shown.target {oferta : OfertaElement} (h : Shown R m who oferta) {id : String}
    (hid : oferta.id = some id) : Target R m who id := by
  obtain ⟨k, u, o, hR, hpub, hk | hk, -⟩ := h
  · obtain rfl := Option.some_inj.mp (hk.symm.trans hid)
    exact .inr ⟨u, o, hR, hpub⟩
  · exact .inl (Option.some_inj.mp (hid.symm.trans hk))

theorem document_eq_some {k : String} {p : Standing} {data : Fields}
    (h : document k p = some data) : ∃ u o c, p = .live u o c ∧
      data = (o.withTexts c.texts).fields (if c.identified then k else "No Id") := by
  rcases p with - | u | ⟨u, o, c⟩ | ⟨u, o⟩
  · exact absurd h.symm (Option.some_ne_none data)
  · exact absurd h.symm (Option.some_ne_none data)
  · exact ⟨u, o, c, rfl, (Option.some_inj.mp h).symm⟩
  · exact absurd h.symm (Option.some_ne_none data)

/-- A device shows nothing, and no answer is on its way to it. -/
structure Bare (s : State) (device : ℕ) : Prop where
  ofertas : (s.devices device).ofertas = []
  screen : (s.devices device).screen = none
  answers : ∀ answer ∈ s.answers, answer.1 ≠ device

/-- A sign-up or a login is answered before anything has been shown on the device. -/
def Orderly (s : State) : Act → Prop
  | .createUser device _ => Bare s device
  | .input _ _ | .loadOffersForIUD _ | .respond _ | .store _ _ | .reject _ _ | .login _ _
  | .commitChanges _ _ | .buttonLogout _ => True

namespace Represents

/-- A stored document is a live key's, and names its owner. -/
theorem live (h : Represents R m s) {k : String} {data : Fields} (hk : s.anuncio[k]? = some data) :
    ∃ o c, m k = .live (seller data) o c ∧
      data = (o.withTexts c.texts).fields (if c.identified then k else "No Id") := by
  obtain ⟨u, o, c, hlive, rfl⟩ := document_eq_some ((h.anuncio k).symm.trans hk)
  have hu : o.uid = u := h.published_uid k u o (by rw [hlive]; exact ⟨rfl, rfl⟩)
  refine ⟨o, c, ?_, rfl⟩
  rw [seller, Offer.string_fields_uid, Option.getD_some]
  exact hlive.trans (by rw [← hu]; rfl)

/-- A key that has an owner is not the fallback. -/
theorem ne_noId (h : Represents R m s) {k : String} (hk : m k ≠ .free) : k ≠ "No Id" := by
  rintro rfl
  exact absurd (h.autoId _ (h.drawn _ hk)) (by decide)

/-! ## The steps -/

theorem start (P : Platform) : Represents R (fun _ ↦ .free) (machine P).start where
  anuncio _ := rfl
  drawn _ hk := absurd rfl hk
  autoId _ hk := absurd hk List.not_mem_nil
  published_uid _ _ _ h := h.elim
  writes _ hp := absurd hp List.not_mem_nil
  creates_nodup := List.nodup_nil
  answers _ h := absurd h List.not_mem_nil
  devices _ :=
    ⟨fun _ h ↦ absurd h List.not_mem_nil, fun _ h ↦ absurd h.symm (Option.some_ne_none _)⟩

/-- A document waiting to be created has its key reserved. -/
theorem reserved_of_draws (h : Represents R m s) {p : Pending} (hp : p ∈ s.writes) {k : String}
    (hk : p.request.draws = some k) : m k = .reserved p.uid := by
  have hpermitted := h.writes p hp
  obtain ⟨device, uid, request⟩ := p
  cases request with
  | addDocument documentID userData args =>
    obtain rfl := Option.some_inj.mp hk
    exact hpermitted.2 ▸ hpermitted.1
  | updateId _ | updateOffer _ _ | deleteOffer _ => exact absurd hk.symm (Option.some_ne_none _)

theorem reserved_of_creates (h : Represents R m s) {k : String} (hk : k ∈ creates s.writes) :
    ∃ u, m k = .reserved u := by
  obtain ⟨p, hp, hdraws⟩ := List.mem_filterMap.mp hk
  exact ⟨p.uid, h.reserved_of_draws hp hdraws⟩

/-- An input that draws no key. -/
theorem issue (h : Represents R m s) {device : ℕ} {dev : Device} {calls : List Request}
    (hdev : OwnDevice R m (s.uid device) dev) (hdraws : ∀ c ∈ calls, c.draws = none)
    (hcalls : ∀ c ∈ calls, Permitted R m ⟨device, s.uid device, c⟩) :
    Represents R m (s.input device dev calls) where
  anuncio := h.anuncio
  drawn k hk := List.mem_append_left _ (h.drawn k hk)
  autoId k hk := by
    have hnone : calls.filterMap Request.draws = [] := List.filterMap_eq_nil_iff.mpr hdraws
    rw [State.input, hnone, List.append_nil] at hk
    exact h.autoId k hk
  published_uid := h.published_uid
  writes p hp := by
    rcases List.mem_append.mp hp with hp | hp
    · exact h.writes p hp
    · obtain ⟨c, hc, rfl⟩ := List.mem_map.mp hp
      exact hcalls c hc
  creates_nodup := by
    have hnone : creates (calls.map (Pending.mk device (s.uid device))) = [] := by
      rw [creates, List.filterMap_map]
      exact List.filterMap_eq_nil_iff.mpr hdraws
    rw [State.input, creates, List.filterMap_append]
    rw [creates] at hnone
    rw [hnone, List.append_nil]
    exact h.creates_nodup
  answers := h.answers
  devices d := by
    change OwnDevice R m (s.uid d) (Function.update s.devices device dev d)
    by_cases hd : d = device
    · subst hd
      rwa [Function.update_self]
    · rw [Function.update_of_ne hd]
      exact h.devices d

/-- A save reserves the key it draws. -/
theorem reserve (h : Represents R m s) {device : ℕ} {dev : Device} {userData : AuthUser}
    {documentID : String} (args : SaveArguments) (hdev : OwnDevice R m (s.uid device) dev)
    (huid : userData.uid = s.uid device) (hlength : documentID.length = 20)
    (hnew : documentID ∉ s.drawn) :
    Represents R (Function.update m documentID (.reserved (s.uid device)))
      (s.input device dev [.addDocument documentID userData args, .updateId documentID]) := by
  have hfree : m documentID = .free := by
    by_contra hne
    exact hnew (h.drawn documentID hne)
  have hle : m ≤ Function.update m documentID (.reserved (s.uid device)) := by
    refine le_update_self_iff.mpr ?_
    rw [hfree]
    trivial
  -- a key that is reserved already is another one
  have hother : ∀ k u, m k = .reserved u →
      Function.update m documentID (.reserved (s.uid device)) k = m k := by
    intro k u hk
    refine Function.update_of_ne ?_ _ _
    rintro rfl
    exact absurd (hfree.symm.trans hk) (by simp)
  refine ⟨fun k ↦ ?_, fun k hk ↦ ?_, fun k hk ↦ ?_, fun k who o hpub ↦ ?_, fun p hp ↦ ?_, ?_,
    fun answer ha oferta hoferta ↦ (h.answers answer ha oferta hoferta).mono hle, fun d ↦ ?_⟩
  · by_cases hk : k = documentID
    · subst hk
      rw [Function.update_self]
      refine (h.anuncio k).trans ?_
      rw [hfree]
      rfl
    · rw [Function.update_of_ne hk]
      exact h.anuncio k
  · by_cases hkey : k = documentID
    · exact List.mem_append_right _ (hkey ▸ List.mem_singleton_self _)
    · rw [Function.update_of_ne hkey] at hk
      exact List.mem_append_left _ (h.drawn k hk)
  · rcases List.mem_append.mp hk with hk | hk
    · exact h.autoId k hk
    · rw [List.mem_singleton.mp hk]
      exact hlength
  · by_cases hkey : k = documentID
    · subst hkey
      rw [Function.update_self] at hpub
      exact hpub.elim
    · rw [Function.update_of_ne hkey] at hpub
      exact h.published_uid k who o hpub
  · rcases List.mem_append.mp hp with hp | hp
    · exact (h.writes p hp).mono hle fun k hk ↦ hother k _ (h.reserved_of_draws hp hk)
    · rcases List.mem_cons.mp hp with rfl | hp
      · exact ⟨(Function.update_self ..).trans (by rw [huid]), huid⟩
      · rw [List.mem_singleton.mp hp]
        change (Function.update m documentID (.reserved (s.uid device)) documentID).owner = _
        rw [Function.update_self]
        rfl
  · have hnot : documentID ∉ creates s.writes := by
      intro hmem
      obtain ⟨u, hu⟩ := h.reserved_of_creates hmem
      exact absurd (hfree.symm.trans hu) (by simp)
    have happend : creates (s.input device dev
        [.addDocument documentID userData args, .updateId documentID]).writes
        = creates s.writes ++ [documentID] := List.filterMap_append
    rw [happend]
    exact List.Nodup.append h.creates_nodup (List.nodup_singleton _)
      (List.disjoint_singleton.mpr hnot)
  · change OwnDevice R _ (s.uid d) (Function.update s.devices device dev d)
    by_cases hd : d = device
    · subst hd
      rw [Function.update_self]
      exact hdev.mono hle
    · rw [Function.update_of_ne hd]
      exact (h.devices d).mono hle

/-- The call that is answered is not among the others. -/
theorem ne_of_draws (h : Represents R m s) {i : ℕ} {p q : Pending} (hp : s.writes[i]? = some p)
    {k j : String} (hk : p.request.draws = some k) (hq : q ∈ s.writes.eraseIdx i)
    (hj : q.request.draws = some j) : j ≠ k := by
  obtain ⟨hi, hget⟩ := List.getElem?_eq_some_iff.mp hp
  have hperm : (creates (p :: s.writes.eraseIdx i)).Perm (creates s.writes) :=
    (hget ▸ List.getElem_cons_eraseIdx_perm hi).filterMap _
  have hnodup := hperm.nodup_iff.mpr h.creates_nodup
  have hcons : creates (p :: s.writes.eraseIdx i) = k :: creates (s.writes.eraseIdx i) := by
    rw [creates, List.filterMap_cons, hk]
    rfl
  rw [hcons, List.nodup_cons] at hnodup
  rintro rfl
  exact hnodup.1 (List.mem_filterMap.mpr ⟨q, hq, hj⟩)

/-- A call is answered without having been stored. -/
theorem answered (h : Represents R m s) (i : ℕ) (p : Pending) (err : Option String) :
    Represents R m (s.answered i p err) where
  anuncio := h.anuncio
  drawn := h.drawn
  autoId := h.autoId
  published_uid := h.published_uid
  writes q hq := h.writes q (List.mem_of_mem_eraseIdx hq)
  creates_nodup := h.creates_nodup.sublist ((s.writes.eraseIdx_sublist i).filterMap _)
  answers := h.answers
  devices := h.devices

/-- A call is stored, which brings its key from its phase to `q`. -/
theorem store_of_le (h : Represents R m s) {i : ℕ} {p : Pending} (message : String) {k : String}
    {q : Standing} (hk : p.request.write.id = k) (hle : m k ≤ q)
    (hdoc : (p.request.write.commit s.anuncio)[k]? = document k q)
    (hdrawn : q ≠ .free → k ∈ s.drawn) (hseller : ∀ who o, q.Published who o → o.uid = who)
    (hkeep : ∀ r ∈ s.writes.eraseIdx i, r.request.draws ≠ some k) :
    Represents R (Function.update m k q) (s.store i p message) := by
  have hmono : m ≤ Function.update m k q := le_update_self_iff.mpr hle
  refine ⟨fun j ↦ ?_, fun j hj ↦ ?_, h.autoId, fun j who o hpub ↦ ?_, fun r hr ↦ ?_,
    h.creates_nodup.sublist ((s.writes.eraseIdx_sublist i).filterMap _),
    fun answer ha oferta hoferta ↦ (h.answers answer ha oferta hoferta).mono hmono,
    fun d ↦ (h.devices d).mono hmono⟩
  · by_cases hj : j = k
    · subst hj
      rw [Function.update_self]
      exact hdoc
    · rw [Function.update_of_ne hj]
      exact (Write.getElem?_commit_of_ne _ _ (hk ▸ Ne.symm hj)).trans (h.anuncio j)
  · by_cases hjk : j = k
    · subst hjk
      rw [Function.update_self] at hj
      exact hdrawn hj
    · rw [Function.update_of_ne hjk] at hj
      exact h.drawn j hj
  · by_cases hjk : j = k
    · subst hjk
      rw [Function.update_self] at hpub
      exact hseller who o hpub
    · rw [Function.update_of_ne hjk] at hpub
      exact h.published_uid j who o hpub
  · refine (h.writes r (List.mem_of_mem_eraseIdx hr)).mono hmono fun j hj ↦ ?_
    refine Function.update_of_ne ?_ _ _
    rintro rfl
    exact hkeep r hr hj

/-- A call for a document that is not there changes nothing. -/
theorem store_of_not_mem (h : Represents R m s) {i : ℕ} {p : Pending} (message : String)
    (hcommit : p.request.write.commit s.anuncio = s.anuncio) :
    Represents R m (s.store i p message) := by
  have hsame : s.store i p message = s.answered i p
      (if (p.request.write.apply s.anuncio).isSome then none else some message) := by
    rw [State.store, hcommit]
    rfl
  rw [hsame]
  exact h.answered i p _

/-- One action of the registry. -/
theorem exec_singleton {a : Deed} {k : String} {q : Standing} (hk : a.key = k)
    (hnext : Phase.Next Content.init Content.amended (m k) a q) :
    sellers.exec m [a] = some (Function.update m k q) := by
  subst hk
  exact Machine.exec_of_step (Registry.step_eq_some_iff.mpr ⟨q, hnext, rfl⟩)

/-- A call about the live offer `o` of `who` brings its key to the phase `q`. -/
theorem store_live (h : Represents R m s) {i : ℕ} {p : Pending} {k who : String} {o : Offer}
    {c : Content} (message : String) {a : Deed} {q : Standing} (hk : p.request.write.id = k)
    (hkey : a.key = k) (hlive : m k = .live who o c)
    (hnext : Phase.Next Content.init Content.amended (.live who o c) a q)
    (hdoc : (p.request.write.commit s.anuncio)[k]? = document k q) :
    ∃ m', sellers.exec m [a] = some m' ∧ Represents R m' (s.store i p message) := by
  have hnext' := hlive ▸ hnext
  have hle : Phase.live who o c ≤ q := hnext.le
  have hpub : q.Published who o := hle
  refine ⟨_, exec_singleton hkey hnext', h.store_of_le message hk hnext'.le hdoc ?_ ?_ ?_⟩
  · exact fun _ ↦ h.drawn _ (by rw [hlive]; simp)
  · intro who' o' hpub'
    have howner := hpub'.owner_eq.symm.trans hpub.owner_eq
    obtain rfl := Option.some_inj.mp howner
    refine h.published_uid k who' o' ?_
    rw [hlive]
    rcases Phase.live_le hle with ⟨c', rfl⟩ | rfl
    · exact hpub'
    · exact hpub'
  · intro r hr hdraws
    have hreserved := h.reserved_of_draws (List.mem_of_mem_eraseIdx hr) hdraws
    rw [hlive] at hreserved
    exact absurd hreserved (by simp)

/-- **The backend gets to a call.** -/
theorem store (h : Represents R m s) {i : ℕ} {p : Pending} (message : String)
    (hp : s.writes[i]? = some p) :
    ∃ m', sellers.exec m (p.request.deeds s.anuncio) = some m' ∧
      Represents R m' (s.store i p message) := by
  have hpermitted := h.writes p (List.mem_of_getElem? hp)
  have hcreates := fun {k : String} (hk : p.request.draws = some k) (r : Pending)
    (hr : r ∈ s.writes.eraseIdx i) (hj : r.request.draws = some k) ↦ h.ne_of_draws hp hk hr hj rfl
  obtain ⟨device, uid, request⟩ := p
  cases request with
  | addDocument documentID userData args =>
    obtain ⟨hreserved, -⟩ := hpermitted
    have hnext : Phase.Next Content.init Content.amended (m documentID)
        (.publish userData.uid documentID (Offer.ofSave userData args))
        (.live userData.uid (Offer.ofSave userData args)
          (.init (Offer.ofSave userData args))) :=
      hreserved ▸ .publish userData.uid documentID _
    refine ⟨_, exec_singleton rfl hnext,
      h.store_of_le message rfl hnext.le ?_ ?_ ?_ (hcreates rfl)⟩
    · exact (Write.getElem?_commit_setData ..).trans (if_pos rfl)
    · exact fun _ ↦ h.drawn documentID (by rw [hreserved]; simp)
    · rintro who o ⟨rfl, rfl⟩
      rfl
  | updateId documentID =>
    rw [Request.deeds]
    cases hdata : s.anuncio[documentID]? with
    | none => exact ⟨m, rfl, h.store_of_not_mem message (Write.commit_updateData_of_none _ hdata)⟩
    | some data =>
      obtain ⟨o, c, hlive, hfields⟩ := h.live hdata
      refine h.store_live (k := documentID) message rfl rfl hlive
        (.amend (seller data) documentID Amendment.identify o c) ?_
      refine (Write.getElem?_commit_updateData ..).trans ?_
      rw [if_pos rfl, hdata, hfields]
      exact congrArg some (Offer.update_idData _ _ _)
  | updateOffer id texts =>
    rw [Request.deeds]
    cases hdata : s.anuncio[id]? with
    | none => exact ⟨m, rfl, h.store_of_not_mem message (Write.commit_updateData_of_none _ hdata)⟩
    | some data =>
      obtain ⟨o, c, hlive, hfields⟩ := h.live hdata
      refine h.store_live (k := id) message rfl rfl hlive
        (.amend (seller data) id (Amendment.edit texts) o c) ?_
      refine (Write.getElem?_commit_updateData ..).trans ?_
      rw [if_pos rfl, hdata, hfields]
      exact congrArg some (Offer.update_data _ _ _)
  | deleteOffer id =>
    rw [Request.deeds]
    cases hdata : s.anuncio[id]? with
    | none =>
      refine ⟨m, rfl, h.store_of_not_mem message ?_⟩
      refine Std.ExtTreeMap.ext_getElem? fun j ↦ ?_
      refine (Write.getElem?_commit_delete ..).trans ?_
      split
      · next hj => exact (hj ▸ hdata).symm
      · rfl
    | some data =>
      obtain ⟨o, c, hlive, -⟩ := h.live hdata
      refine h.store_live (k := id) message rfl rfl hlive (.withdraw (seller data) id o c) ?_
      exact (Write.getElem?_commit_delete ..).trans (if_pos rfl)

/-- **An input.** -/
theorem input (h : Represents R m s) {device : ℕ} {input : Input} {dev : Device}
    {writes : List Write} (hpossible : s.Possible device input)
    (hdev : (s.devices device).step P input = some (dev, writes)) :
    ∃ m', sellers.exec m (deeds s (.input device input)) = some m' ∧
      Represents R m' (s.input device dev (requests (s.devices device) input)) := by
  have hown := h.devices device
  obtain ⟨hofertas, hscreen⟩ := ofertas_and_screen_of_step hdev
  have hdev' : OwnDevice R m (s.uid device) dev := by
    refine ⟨fun oferta hoferta ↦ hown.ofertas oferta (hofertas ▸ hoferta), fun screen' h' ↦ ?_⟩
    rcases hscreen screen' h' with hmem | ⟨screen, h'', heq⟩
    · exact hown.ofertas _ hmem
    · exact heq ▸ hown.screen screen h''
  have hcalls := calls_requests (s.devices device) input
  rw [deeds]
  generalize requests (s.devices device) input = calls at hcalls ⊢
  cases hcalls with
  | save userData documentID =>
    obtain ⟨-, huser, hlength, hnew⟩ := hpossible
    have huid : userData.uid = s.uid device := by
      rw [State.uid, ← huser]
      rfl
    have hfree : m documentID = .free := by
      by_contra hne
      exact hnew (h.drawn documentID hne)
    have hnext : Phase.Next Content.init Content.amended (m documentID)
        (.reserve (s.uid device) documentID) (.reserved (s.uid device)) :=
      hfree ▸ .reserve (s.uid device) documentID
    exact ⟨_, exec_singleton rfl hnext, h.reserve _ hdev' huid hlength hnew⟩
  | editar screen id hscreen hid =>
    refine ⟨m, rfl, h.issue hdev' (fun c hc ↦ ?_) fun c hc ↦ ?_⟩
    · rw [List.mem_singleton.mp hc]
      rfl
    · rw [List.mem_singleton.mp hc]
      exact (hown.screen screen hscreen).target hid
  | excluir screen id hscreen hid =>
    refine ⟨m, rfl, h.issue hdev' (fun c hc ↦ ?_) fun c hc ↦ ?_⟩
    · rw [List.mem_singleton.mp hc]
      rfl
    · rw [List.mem_singleton.mp hc]
      exact (hown.screen screen hscreen).target hid
  | none => exact ⟨m, rfl, h.issue hdev' (fun c hc ↦ absurd hc List.not_mem_nil)
      fun c hc ↦ absurd hc List.not_mem_nil⟩

/-- What a query finds is the user's own. -/
theorem shown_of_mem_loaded (h : Represents R m s) (hR : ∀ u, R u u) {user : AuthUser}
    {oferta : OfertaElement} (hmem : oferta ∈ loaded (some user) s.anuncio) :
    Shown R m user.uid oferta := by
  have hloaded : loaded (some user) s.anuncio
      = appendDecoded (decodeOwnOffer (some user)) (ownDocuments (some user) s.anuncio) := rfl
  rw [hloaded, appendDecoded_eq, List.mem_filterMap] at hmem
  obtain ⟨⟨k, data⟩, hdoc, hdecode⟩ := hmem
  obtain ⟨hdata, huid⟩ := mem_whereField_iff.mp hdoc
  have hseller : seller data = user.uid := congrArg (·.getD "") huid
  obtain ⟨o, c, hlive, hfields⟩ := h.live hdata
  dsimp only at hdecode hlive hfields
  rw [hfields, Offer.decodeOwnOffer_fields, Option.some_inj] at hdecode
  subst hdecode
  refine ⟨k, user.uid, o, hR _, ?_, ?_, rfl, rfl, rfl⟩
  · rw [hlive]
    exact ⟨hseller, rfl⟩
  · by_cases hc : c.identified = true
    · exact .inl (congrArg some (if_pos hc))
    · exact .inr (congrArg some (if_neg hc))

theorem load (h : Represents R m s) (hR : ∀ u, R u u) {device : ℕ} {user : AuthUser}
    (huser : s.session device = some user) :
    Represents R m
      { s with answers := s.answers ++ [(device, loaded (some user) s.anuncio)] } where
  anuncio := h.anuncio
  drawn := h.drawn
  autoId := h.autoId
  published_uid := h.published_uid
  writes := h.writes
  creates_nodup := h.creates_nodup
  answers answer ha oferta hoferta := by
    rcases List.mem_append.mp ha with ha | ha
    · exact h.answers answer ha oferta hoferta
    · obtain rfl := List.mem_singleton.mp ha
      exact (s.uid_eq huser).symm ▸ h.shown_of_mem_loaded hR hoferta
  devices := h.devices

theorem respond (h : Represents R m s) {i device : ℕ} {ofertas : List OfertaElement}
    (hanswer : s.answers[i]? = some (device, ofertas)) :
    Represents R m
      { s with
        answers := s.answers.eraseIdx i
        devices := Function.update s.devices device { s.devices device with ofertas } } where
  anuncio := h.anuncio
  drawn := h.drawn
  autoId := h.autoId
  published_uid := h.published_uid
  writes := h.writes
  creates_nodup := h.creates_nodup
  answers answer ha := h.answers answer (List.mem_of_mem_eraseIdx ha)
  devices d := by
    change OwnDevice R m (s.uid d)
      (Function.update s.devices device { s.devices device with ofertas } d)
    by_cases hd : d = device
    · subst hd
      rw [Function.update_self]
      exact ⟨h.answers _ (List.mem_of_getElem? hanswer), (h.devices d).screen⟩
    · rw [Function.update_of_ne hd]
      exact h.devices d

/-- A device that is left or entered has nothing of an earlier user. -/
theorem restart (h : Represents R m s) (device : ℕ) (currentUser : Option AuthUser) :
    Represents R m (s.restart device currentUser) where
  anuncio := h.anuncio
  drawn := h.drawn
  autoId := h.autoId
  published_uid := h.published_uid
  writes := h.writes
  creates_nodup := h.creates_nodup
  answers answer ha := by
    obtain ⟨ha, hne⟩ := List.mem_filter.mp ha
    have huid : (s.restart device currentUser).uid answer.1 = s.uid answer.1 :=
      s.uid_of_ne (of_decide_eq_true hne) currentUser
    exact huid.symm ▸ h.answers answer ha
  devices d := by
    change OwnDevice R m _ (Function.update s.devices device newDevice d)
    by_cases hd : d = device
    · subst hd
      rw [Function.update_self]
      exact ⟨fun _ h ↦ absurd h List.not_mem_nil, fun _ h ↦ absurd h.symm (Option.some_ne_none _)⟩
    · have huid : (s.restart device currentUser).uid d = s.uid d := s.uid_of_ne hd currentUser
      rw [Function.update_of_ne hd, huid]
      exact h.devices d

/-- Another name leaves the account. -/
theorem commitChanges (h : Represents R m s) {device : ℕ} {user : AuthUser}
    (huser : s.session device = some user) (displayName : String) :
    Represents R m
      { s with
        session := Function.update s.session device
          (some { user with displayName := some displayName }) } := by
  have huid := s.uid_displayName huser (some displayName)
  refine ⟨h.anuncio, h.drawn, h.autoId, h.published_uid, h.writes, h.creates_nodup,
    fun answer ha ↦ ?_, fun d ↦ ?_⟩
  · exact (huid answer.1).symm ▸ h.answers answer ha
  · exact (huid d).symm ▸ h.devices d

/-- A sign-up is answered on a device that shows nothing, or where nothing is asked. -/
theorem createUser (h : Represents R m s) {device : ℕ} (user : AuthUser)
    (hbare : Bare s device ∨ ∀ u v, R u v) :
    Represents R m { s with session := Function.update s.session device (some user) } := by
  -- what is shown elsewhere is shown to the same account, and here it is no matter to whom
  have hshown : ∀ d oferta, (d = device → ¬Bare s device) → Shown R m (s.uid d) oferta →
      Shown R m (({ s with
        session := Function.update s.session device (some user) } : State).uid d) oferta := by
    intro d oferta hd hs
    by_cases heq : d = device
    · obtain ⟨k, u, o, -, hrest⟩ := hs
      exact ⟨k, u, o, (hbare.resolve_left (hd heq)) _ _, hrest⟩
    · rwa [s.uid_of_ne heq]
  refine ⟨h.anuncio, h.drawn, h.autoId, h.published_uid, h.writes, h.creates_nodup,
    fun answer ha oferta hoferta ↦ hshown _ _ ?_ (h.answers answer ha oferta hoferta),
    fun d ↦ ⟨fun oferta hoferta ↦ hshown _ _ ?_ ((h.devices d).ofertas oferta hoferta),
      fun screen hscreen ↦ hshown _ _ ?_ ((h.devices d).screen screen hscreen)⟩⟩
  · exact fun hd hb ↦ hb.answers answer ha hd
  · rintro rfl hb
    rw [hb.ofertas] at hoferta
    exact absurd hoferta List.not_mem_nil
  · rintro rfl hb
    exact absurd (hb.screen.symm.trans hscreen).symm (Option.some_ne_none screen)

/-- **A step of the devices** is the actions it is traced to. -/
theorem step (h : Represents R m s) (hR : ∀ u, R u u) {act : Act}
    (horderly : Orderly s act ∨ ∀ u v, R u v) (hstep : (machine P).step s act = some t) :
    ∃ m', sellers.exec m (deeds s act) = some m' ∧ Represents R m' t := by
  cases steps_of_step hstep with
  | input device input dev writes hpossible hdev => exact h.input hpossible hdev
  | loadOffersForIUD device user huser => exact ⟨m, rfl, h.load hR huser⟩
  | respond i device ofertas hanswer => exact ⟨m, rfl, h.respond hanswer⟩
  | store i message p hp =>
    rw [deeds, hp]
    exact h.store message hp
  | reject i message p hp => exact ⟨m, rfl, h.answered i p _⟩
  | login device user => exact ⟨m, rfl, h.restart device _⟩
  | createUser device user => exact ⟨m, rfl, h.createUser user horderly⟩
  | commitChanges device displayName user huser =>
    exact ⟨m, rfl, h.commitChanges huser displayName⟩
  | buttonLogout device user huser => exact ⟨m, rfl, h.restart device none⟩

end Represents

end Market

end Poketrader
