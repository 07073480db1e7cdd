import Mathlib.Data.List.Nodup
import Mathlib.Data.List.Perm.Basic
import Poketrader.Offers.Store
import Poketrader.Views.MeuAnuncioViewController

/-!
# Offer identity

An offer is shown with the value of its field `id`, and deleted and edited under that value. The
value is a copy of the document key which only the second write of `saveOffer` puts in place. Here
the two writes are steps of their own: each is answered whenever the backend gets to it, or fails,
in any order with the other writes and with the queries of any device.

## When the copy is right

A document holds the right copy exactly from the moment its second write has been applied to it.
`Coherent` says so, for all documents at once, and along any run. Hence a query returns wrongly
identified offers exactly when it meets a document of the user that has had its first write but not
its second. A drawn key has twenty characters, so the fallback never happens to be one.
-/

open Std (ExtTreeMap)
open Document

namespace Poketrader

namespace Identity

open MeuAnuncioViewController

/-- The backend and the devices of its users. -/
structure Devices where
  anuncio : Collection
  /-- The keys drawn so far. -/
  drawn : List String
  /-- The writes issued and not yet answered. -/
  inFlight : List Write
  /-- The documents to which their second write has been applied. -/
  identified : List String
  /-- What `loadOffersForIUD` has returned, each offer with the key it was stored under. -/
  returned : List (String × OfertaElement)

inductive Act where
  /-- `saveOffer` draws a key and issues its two writes. -/
  | save (user : AuthUser) (documentID : AutoId) (args : SaveArguments)
  /-- A returned offer is deleted. -/
  | excluir (shown : String × OfertaElement)
  /-- A returned offer is edited. -/
  | editar (shown : String × OfertaElement) (texts : OfferTexts)
  /-- The backend gets to the `i`-th write in flight. -/
  | answer (i : ℕ)
  /-- The `i`-th write in flight fails. -/
  | fail (i : ℕ)
  /-- `loadOffersForIUD` on a device of the user. -/
  | load (user : AuthUser)

/-- The document whose copy of the key a write puts in place. -/
def identifies : Write → Option String
  | .updateData id data => if (data "id").isSome then some id else none
  | _ => none

/-- The document a write creates. -/
def creates : Write → Option String
  | .setData id _ => some id
  | _ => none

/-- The documents identified after a write. -/
def identifiedBy (w : Write) (t : Collection) : List String :=
  ((identifies w).filter fun id ↦ (t[id]?).isSome).toList

/-- What `loadOffersForIUD` returns to a device of the user, each offer with its key. -/
def ownOffers (user : AuthUser) (t : Collection) : List (String × OfertaElement) :=
  (ownDocuments (some user) t).filterMap fun doc ↦
    (decodeOwnOffer (some user) doc.2).map fun oferta ↦ (doc.1, oferta)

def Devices.answer (s : Devices) (i : ℕ) (w : Write) : Devices :=
  { s with
    anuncio := w.commit s.anuncio
    identified := identifiedBy w s.anuncio ++ s.identified
    inFlight := s.inFlight.eraseIdx i }

def Devices.issue (s : Devices) (ws : List Write) : Devices :=
  { s with inFlight := s.inFlight ++ ws }

def step (s : Devices) : Act → Option Devices
  | .save user documentID args =>
    if documentID.key ∈ s.drawn then none
    else some (({ s with drawn := documentID.key :: s.drawn } : Devices).issue
      (saveOffer (some user) documentID.key args))
  | .excluir shown =>
    if shown ∈ s.returned then (pressedExcluirButton shown.2).map fun w ↦ s.issue [w] else none
  | .editar shown texts =>
    if shown ∈ s.returned then (updateOffer shown.2 texts).map fun w ↦ s.issue [w] else none
  | .answer i => (s.inFlight[i]?).map fun w ↦ s.answer i w
  | .fail i => (s.inFlight[i]?).map fun _ ↦ { s with inFlight := s.inFlight.eraseIdx i }
  | .load user => some { s with returned := s.returned ++ ownOffers user s.anuncio }

def devices : Machine Devices Act where
  start := ⟨∅, [], [], [], []⟩
  step := step

/-- The steps, action by action. -/
inductive Steps : Devices → Act → Devices → Prop
  | save {s : Devices} (user : AuthUser) (documentID : AutoId) (args : SaveArguments)
      (hnew : documentID.key ∉ s.drawn) :
    Steps s (.save user documentID args)
      (({ s with drawn := documentID.key :: s.drawn } : Devices).issue
        (saveOffer (some user) documentID.key args))
  | excluir {s : Devices} (shown : String × OfertaElement) (id : String)
      (hid : shown.2.id = some id) : Steps s (.excluir shown) (s.issue [.delete id])
  | editar {s : Devices} (shown : String × OfertaElement) (texts : OfferTexts) (id : String)
      (hid : shown.2.id = some id) : Steps s (.editar shown texts) (s.issue [.updateData id texts.data])
  | answer {s : Devices} (i : ℕ) (w : Write) (hw : s.inFlight[i]? = some w) :
    Steps s (.answer i) (s.answer i w)
  | fail {s : Devices} (i : ℕ) (w : Write) (hw : s.inFlight[i]? = some w) :
    Steps s (.fail i) { s with inFlight := s.inFlight.eraseIdx i }
  | load {s : Devices} (user : AuthUser) :
    Steps s (.load user) { s with returned := s.returned ++ ownOffers user s.anuncio }

theorem steps_of_step {s t : Devices} {a : Act} (ht : devices.step s a = some t) :
    Steps s a t := by
  cases a with
  | save user documentID args =>
    simp only [devices, step] at ht
    split at ht
    · exact absurd ht (by simp)
    · next hnew => exact Option.some_inj.mp ht ▸ .save user documentID args hnew
  | excluir shown =>
    obtain ⟨-, ht⟩ := Option.ite_none_right_eq_some.mp ht
    obtain ⟨w, hw, rfl⟩ := Option.map_eq_some_iff.mp ht
    obtain ⟨id, hid, rfl⟩ := Option.map_eq_some_iff.mp hw
    exact .excluir shown id hid
  | editar shown texts =>
    obtain ⟨-, ht⟩ := Option.ite_none_right_eq_some.mp ht
    obtain ⟨w, hw, rfl⟩ := Option.map_eq_some_iff.mp ht
    obtain ⟨id, hid, rfl⟩ := Option.map_eq_some_iff.mp hw
    exact .editar shown texts id hid
  | answer i =>
    obtain ⟨w, hw, rfl⟩ := Option.map_eq_some_iff.mp ht
    exact .answer i w hw
  | fail i =>
    obtain ⟨w, hw, rfl⟩ := Option.map_eq_some_iff.mp ht
    exact .fail i w hw
  | load user => exact Option.some_inj.mp ht ▸ .load user

/-- A query is answered when every stored offer of its user has had its second write. -/
def Settled (s : Devices) : Act → Prop
  | .load user => ∀ k data, s.anuncio[k]? = some data → data.string "uid" = some user.uid →
      k ∈ s.identified
  | _ => True

/-- Deleting and editing an offer that was shown act on the document it was decoded from. -/
structure ActsOnItsDocument (shown : String × OfertaElement) : Prop where
  id_eq : shown.2.id = some shown.1
  /-- A deletion succeeds, removes that document and leaves the others. -/
  delete_removes : ∀ t : Collection, ∃ w t', pressedExcluirButton shown.2 = some w ∧
    w.apply t = some t' ∧ t'[shown.1]? = none ∧ ∀ j, shown.1 ≠ j → t'[j]? = t[j]?
  update_targets : ∀ texts, ∃ w, updateOffer shown.2 texts = some w ∧ w.id = shown.1

theorem actsOnItsDocument_iff (shown : String × OfertaElement) :
    ActsOnItsDocument shown ↔ shown.2.id = some shown.1 := by
  refine ⟨ActsOnItsDocument.id_eq, fun h ↦ ⟨h, fun t ↦ ?_, fun texts ↦ ?_⟩⟩
  · refine ⟨.delete shown.1, (Write.delete shown.1).commit t, ?_, rfl, ?_, fun j hj ↦ ?_⟩
    · rw [pressedExcluirButton, h, Option.map_some, deleteOffer]
    · rw [Write.getElem?_commit_delete, if_pos rfl]
    · exact Write.getElem?_commit_of_ne _ _ hj
  · exact ⟨.updateData shown.1 texts.data, by rw [updateOffer, h, Option.map_some], rfl⟩

/-! ## The invariant -/

/-- The value of the field `id` of a stored offer. -/
def idOf (identified : List String) (k : String) : String :=
  if k ∈ identified then k else "No Id"

/-- The writes that can be in flight. -/
inductive Issued : Write → Prop
  | create (documentID : AutoId) (o : Offer) : Issued (.setData documentID.key (o.fields "No Id"))
  | identify (k : String) : Issued (.updateData k (idData (some k)))
  | edit (k : String) (texts : OfferTexts) : Issued (.updateData k texts.data)
  | remove (k : String) : Issued (.delete k)

/-- What holds in every state: a stored document is an offer whose field `id` is right exactly if
it has been identified, and a document still to be created is new. -/
structure Coherent (s : Devices) : Prop where
  stored : ∀ k data, s.anuncio[k]? = some data →
    k.length = 20 ∧ k ∈ s.drawn ∧ ∃ o : Offer, data = o.fields (idOf s.identified k)
  issued : ∀ w ∈ s.inFlight, Issued w
  identified_drawn : ∀ k ∈ s.identified, k ∈ s.drawn
  creates_nodup : (s.inFlight.filterMap creates).Nodup
  creates_new : ∀ k ∈ s.inFlight.filterMap creates,
    k ∈ s.drawn ∧ k ∉ s.identified ∧ s.anuncio[k]? = none

theorem coherent_start : Coherent devices.start where
  stored k data h := by simp [devices] at h
  issued w h := by simp [devices] at h
  identified_drawn k h := by simp [devices] at h
  creates_nodup := List.nodup_nil
  creates_new k h := by simp [devices] at h

/-- Forgetting a write in flight, which is what its failure does, keeps the invariant. -/
theorem Coherent.eraseIdx {s : Devices} (h : Coherent s) (i : ℕ) :
    Coherent { s with inFlight := s.inFlight.eraseIdx i } where
  stored := h.stored
  issued w hw := h.issued w (List.mem_of_mem_eraseIdx hw)
  identified_drawn := h.identified_drawn
  creates_nodup := h.creates_nodup.sublist (s.inFlight.eraseIdx_sublist i |>.filterMap creates)
  creates_new k hk := h.creates_new k ((s.inFlight.eraseIdx_sublist i |>.filterMap creates).mem hk)

/-- Issuing a write that creates nothing keeps the invariant. -/
theorem Coherent.issue {s : Devices} (h : Coherent s) {w : Write} (hw : Issued w)
    (hnone : creates w = none) : Coherent (s.issue [w]) := by
  have hcreates : (s.inFlight ++ [w]).filterMap creates = s.inFlight.filterMap creates := by
    rw [List.filterMap_append, List.filterMap_cons_none hnone, List.filterMap_nil, List.append_nil]
  refine ⟨h.stored, fun v hv ↦ ?_, h.identified_drawn, ?_, fun k hk ↦ ?_⟩
  · rcases List.mem_append.mp hv with hv | hv
    · exact h.issued v hv
    · exact List.mem_singleton.mp hv ▸ hw
  · rw [Devices.issue, hcreates]
    exact h.creates_nodup
  · rw [Devices.issue, hcreates] at hk
    exact h.creates_new k hk

/-- Saving draws a new key, so its first write creates a document no other write creates. -/
theorem Coherent.save {s : Devices} (h : Coherent s) (user : AuthUser) (documentID : AutoId)
    (args : SaveArguments) (hnew : documentID.key ∉ s.drawn) :
    Coherent (({ s with drawn := documentID.key :: s.drawn } : Devices).issue
      (saveOffer (some user) documentID.key args)) := by
  have hcreates : (s.inFlight ++ saveOffer (some user) documentID.key args).filterMap creates
      = s.inFlight.filterMap creates ++ [documentID.key] := by
    rw [List.filterMap_append]
    rfl
  refine ⟨fun k data hk ↦ ?_, fun w hw ↦ ?_, fun k hk ↦ ?_, ?_, fun k hk ↦ ?_⟩
  · obtain ⟨hlen, hdrawn, ho⟩ := h.stored k data hk
    exact ⟨hlen, List.mem_cons_of_mem _ hdrawn, ho⟩
  · rcases List.mem_append.mp hw with hw | hw
    · exact h.issued w hw
    · simp only [saveOffer, List.mem_cons, List.not_mem_nil, or_false] at hw
      rcases hw with rfl | rfl
      · exact .create documentID (Offer.ofSave user args)
      · exact .identify documentID.key
  · exact List.mem_cons_of_mem _ (h.identified_drawn k hk)
  · rw [Devices.issue, hcreates, ← List.concat_eq_append]
    exact List.Nodup.concat (fun hmem ↦ hnew (h.creates_new _ hmem).1) h.creates_nodup
  · rw [Devices.issue, hcreates, List.mem_append, List.mem_singleton] at hk
    rcases hk with hk | rfl
    · obtain ⟨hdrawn, hk⟩ := h.creates_new k hk
      exact ⟨List.mem_cons_of_mem _ hdrawn, hk⟩
    · refine ⟨List.mem_cons_self, fun hmem ↦ hnew (h.identified_drawn _ hmem), ?_⟩
      cases hget : s.anuncio[documentID.key]? with
      | none => exact hget
      | some data => exact absurd (h.stored _ data hget).2.1 hnew

/-- The copy that the second write of a save puts in place, in an encoding of any offer. -/
theorem identifiedBy_identify (k : String) (t : Collection) :
    identifiedBy (.updateData k (idData (some k))) t = if (t[k]?).isSome then [k] else [] := by
  have hid : identifies (.updateData k (idData (some k))) = some k := rfl
  rw [identifiedBy, hid]
  cases h : (t[k]?).isSome <;> simp [Option.filter, h]

theorem identifiedBy_eq_nil {w : Write} (h : identifies w = none) (t : Collection) :
    identifiedBy w t = [] := by
  rw [identifiedBy, h]
  rfl

theorem identifies_edit (k : String) (texts : OfferTexts) :
    identifies (.updateData k texts.data) = none := rfl

/-- The write that is answered creates none of the documents still to be created. -/
theorem Coherent.creates_rest {s : Devices} (h : Coherent s) {i : ℕ} {w : Write}
    (hw : s.inFlight[i]? = some w) {k : String} (hk : creates w = some k) :
    k ∉ (s.inFlight.eraseIdx i).filterMap creates ∧ k ∈ s.inFlight.filterMap creates := by
  obtain ⟨hi, hget⟩ := List.getElem?_eq_some_iff.mp hw
  have hperm : (w :: s.inFlight.eraseIdx i).Perm s.inFlight :=
    hget ▸ List.getElem_cons_eraseIdx_perm hi
  have hmap := hperm.filterMap creates
  rw [List.filterMap_cons_some hk] at hmap
  exact ⟨(List.nodup_cons.mp (hmap.nodup_iff.mpr h.creates_nodup)).1,
    hmap.mem_iff.mp List.mem_cons_self⟩

theorem answer_identified {s : Devices} {w : Write} (h : identifies w = none) (i : ℕ) :
    (s.answer i w).identified = s.identified := by
  rw [Devices.answer, identifiedBy_eq_nil h, List.nil_append]

/-- A write that identifies nothing and creates nothing keeps the invariant if what it leaves
stored is still an encoding with the same `id`. -/
theorem Coherent.answer_of_change {s : Devices} (h : Coherent s) {i : ℕ} {w : Write}
    (hident : identifies w = none)
    (hchange : ∀ (k : String) (data : Fields), (w.commit s.anuncio)[k]? = some data →
      ∃ old : Fields, s.anuncio[k]? = some old ∧
        ∀ (id : String) (o : Offer), old = o.fields id → ∃ o' : Offer, data = o'.fields id) :
    Coherent (s.answer i w) := by
  have hrest := h.eraseIdx i
  have hids := answer_identified hident (s := s) i
  refine ⟨fun k data hk ↦ ?_, hrest.issued, ?_, hrest.creates_nodup, fun k hk ↦ ?_⟩
  · obtain ⟨old, hold, hkeep⟩ := hchange k data hk
    obtain ⟨hlen, hdrawn, o, ho⟩ := h.stored k old hold
    rw [hids]
    exact ⟨hlen, hdrawn, hkeep _ o ho⟩
  · rw [hids]
    exact h.identified_drawn
  · obtain ⟨hkdrawn, hkident, hknone⟩ := hrest.creates_new k hk
    refine ⟨hkdrawn, hids ▸ hkident, ?_⟩
    cases hget : (w.commit s.anuncio)[k]? with
    | none => exact hget
    | some data =>
      obtain ⟨old, hold, -⟩ := hchange k data hget
      exact absurd (hold.symm.trans hknone) (by simp)

/-- The first write of a save. Its document is new: nothing has identified it, and no other write
in flight creates it. -/
theorem Coherent.answer_create {s : Devices} (h : Coherent s) {i : ℕ} {documentID : AutoId}
    {o : Offer} (hw : s.inFlight[i]? = some (.setData documentID.key (o.fields "No Id"))) :
    Coherent (s.answer i (.setData documentID.key (o.fields "No Id"))) := by
  have hrest := h.eraseIdx i
  obtain ⟨hnotin, hin⟩ := h.creates_rest hw (k := documentID.key) rfl
  obtain ⟨hdrawn, hident, -⟩ := h.creates_new _ hin
  refine ⟨fun k data hk ↦ ?_, hrest.issued, h.identified_drawn, hrest.creates_nodup, fun k hk ↦ ?_⟩
  · rw [Devices.answer, Write.getElem?_commit_setData] at hk
    split at hk
    · next heq =>
      have hid : idOf s.identified k = "No Id" := if_neg (heq ▸ hident)
      refine ⟨heq ▸ documentID.length_eq, heq ▸ hdrawn, o, ?_⟩
      rw [← Option.some_inj.mp hk]
      exact congrArg (Offer.fields · o) hid.symm
    · exact h.stored k data hk
  · obtain ⟨hkdrawn, hkident, hknone⟩ := hrest.creates_new k hk
    have hne : documentID.key ≠ k := by
      rintro rfl
      exact hnotin hk
    refine ⟨hkdrawn, hkident, ?_⟩
    rw [Devices.answer, Write.getElem?_commit_setData, if_neg hne]
    exact hknone

/-- The second write of a save: where the document is stored, its field `id` becomes right and it
counts as identified; where it is not, the write fails. -/
theorem Coherent.answer_identify {s : Devices} (h : Coherent s) (i : ℕ) (k : String) :
    Coherent (s.answer i (.updateData k (idData (some k)))) := by
  have hrest := h.eraseIdx i
  have hids : (s.answer i (.updateData k (idData (some k)))).identified
      = (if (s.anuncio[k]?).isSome then [k] else []) ++ s.identified := by
    rw [Devices.answer, identifiedBy_identify]
  refine ⟨fun j data hj ↦ ?_, hrest.issued, fun j hj ↦ ?_, hrest.creates_nodup, fun j hj ↦ ?_⟩
  · rw [Devices.answer, Write.getElem?_commit_updateData] at hj
    rw [hids]
    split at hj
    · next heq =>
      subst heq
      obtain ⟨old, hold, rfl⟩ := Option.map_eq_some_iff.mp hj
      obtain ⟨hlen, hdrawn, o, rfl⟩ := h.stored k old hold
      refine ⟨hlen, hdrawn, o, ?_⟩
      rw [Offer.update_idData, hold]
      simp [idOf]
    · next hne =>
      obtain ⟨hlen, hdrawn, o, rfl⟩ := h.stored j data hj
      refine ⟨hlen, hdrawn, o, ?_⟩
      have hmem : j ∈ (if (s.anuncio[k]?).isSome then [k] else []) ++ s.identified
          ↔ j ∈ s.identified := by
        split <;> simp [Ne.symm hne]
      simp only [idOf, hmem]
  · rw [hids, List.mem_append] at hj
    rcases hj with hj | hj
    · split at hj
      · next hsome =>
        obtain ⟨data, hdata⟩ := Option.isSome_iff_exists.mp hsome
        exact List.mem_singleton.mp hj ▸ (h.stored k data hdata).2.1
      · exact absurd hj List.not_mem_nil
    · exact h.identified_drawn j hj
  · obtain ⟨hjdrawn, hjident, hjnone⟩ := hrest.creates_new j hj
    refine ⟨hjdrawn, ?_, ?_⟩
    · rw [hids, List.mem_append, not_or]
      refine ⟨?_, hjident⟩
      split
      · next hsome =>
        rw [List.mem_singleton]
        rintro rfl
        simp [show s.anuncio[j]? = none from hjnone] at hsome
      · exact List.not_mem_nil
    · rw [Devices.answer, Write.getElem?_commit_updateData,
        show s.anuncio[j]? = none from hjnone]
      split
      · rfl
      · rfl

/-- Answering a write keeps the invariant, one case for each kind of write. -/
theorem Coherent.answer {s : Devices} (h : Coherent s) {i : ℕ} {w : Write}
    (hw : s.inFlight[i]? = some w) : Coherent (s.answer i w) := by
  rcases h.issued w (List.mem_of_getElem? hw) with ⟨documentID, o⟩ | k | ⟨k, texts⟩ | k
  · exact h.answer_create hw
  · exact h.answer_identify i k
  · refine h.answer_of_change (identifies_edit k texts) fun j data hj ↦ ?_
    rw [Write.getElem?_commit_updateData] at hj
    split at hj
    · obtain ⟨old, hold, rfl⟩ := Option.map_eq_some_iff.mp hj
      refine ⟨old, hold, ?_⟩
      rintro id o rfl
      exact ⟨o.withTexts texts, Offer.update_data id texts o⟩
    · exact ⟨data, hj, fun id o ho ↦ ⟨o, ho⟩⟩
  · refine h.answer_of_change rfl fun j data hj ↦ ?_
    rw [Write.getElem?_commit_delete] at hj
    split at hj
    · exact absurd hj (by simp)
    · exact ⟨data, hj, fun id o ho ↦ ⟨o, ho⟩⟩

/-- Every step keeps the invariant. -/
theorem Coherent.step {s t : Devices} {a : Act} (h : Coherent s) (ht : devices.step s a = some t) :
    Coherent t := by
  cases steps_of_step ht with
  | save user documentID args hnew => exact h.save user documentID args hnew
  | excluir shown id _ => exact h.issue (.remove id) rfl
  | editar shown texts id _ => exact h.issue (.edit id texts) rfl
  | answer i w hw => exact h.answer hw
  | fail i w _ => exact h.eraseIdx i
  | load user => exact ⟨h.stored, h.issued, h.identified_drawn, h.creates_nodup, h.creates_new⟩

/-! ## The exact schedule -/

theorem idOf_eq_iff {identified : List String} {k : String} (hk : k.length = 20) :
    idOf identified k = k ↔ k ∈ identified := by
  rw [idOf]
  split
  · next h => exact iff_of_true rfl h
  · next h =>
    refine iff_of_false ?_ h
    rintro rfl
    exact absurd hk (by decide)

theorem mem_ownOffers {user : AuthUser} {t : Collection} {shown : String × OfertaElement} :
    shown ∈ ownOffers user t ↔ ∃ data, t[shown.1]? = some data ∧
      data.string "uid" = some user.uid ∧ decodeOwnOffer (some user) data = some shown.2 := by
  simp only [ownOffers, List.mem_filterMap, ownDocuments, mem_whereField_iff, Option.map_some,
    Option.getD_some, Option.map_eq_some_iff]
  constructor
  · rintro ⟨doc, ⟨hdoc, huid⟩, oferta, hdec, rfl⟩
    exact ⟨doc.2, hdoc, huid, hdec⟩
  · rintro ⟨data, hdoc, huid, hdec⟩
    exact ⟨(shown.1, data), ⟨hdoc, huid⟩, shown.2, hdec, rfl⟩

/-- A query returns rightly identified offers exactly when it is answered in a settled state. -/
theorem Coherent.ownOffers_iff {s : Devices} (h : Coherent s) (user : AuthUser) :
    (∀ shown ∈ ownOffers user s.anuncio, shown.2.id = some shown.1) ↔ Settled s (.load user) := by
  constructor
  · intro hids k data hk huid
    obtain ⟨hlen, -, o, rfl⟩ := h.stored k data hk
    have hmem : (k, o.ownView (some user) (idOf s.identified k)) ∈ ownOffers user s.anuncio :=
      mem_ownOffers.mpr ⟨_, hk, huid, Offer.decodeOwnOffer_fields _ _ _⟩
    exact (idOf_eq_iff hlen).mp (Option.some_inj.mp (hids _ hmem))
  · intro hsettled shown hshown
    obtain ⟨data, hk, huid, hdec⟩ := mem_ownOffers.mp hshown
    obtain ⟨hlen, -, o, rfl⟩ := h.stored shown.1 data hk
    rw [Offer.decodeOwnOffer_fields, Option.some_inj] at hdec
    rw [← hdec]
    exact congrArg some ((idOf_eq_iff hlen).mpr (hsettled shown.1 _ hk huid))

/-- Only a query adds to what was returned, and it adds rightly identified offers exactly when the
state is settled. -/
theorem Coherent.returned_iff {s t : Devices} {a : Act} (h : Coherent s)
    (ht : devices.step s a = some t) :
    (∀ shown ∈ t.returned, shown.2.id = some shown.1)
      ↔ (∀ shown ∈ s.returned, shown.2.id = some shown.1) ∧ Settled s a := by
  cases steps_of_step ht with
  | save | excluir | editar | answer | fail => exact (and_iff_left trivial).symm
  | load user =>
    rw [← h.ownOffers_iff user]
    simp only [List.mem_append, or_imp, forall_and]

/-- **When a shown offer acts on its own document.** In any run of the devices, every offer that
`loadOffersForIUD` returned is deleted and edited under the key it was decoded from exactly if
every query was answered in a state where the user's stored offers had all had their second
write. -/
theorem returned_acts_iff_settled {acts : List Act} {s : Devices} (h : devices.run acts = some s) :
    (∀ shown ∈ s.returned, ActsOnItsDocument shown)
      ↔ devices.Allowed Settled devices.start acts := by
  have hstart : ∀ shown ∈ devices.start.returned, shown.2.id = some shown.1 := by
    simp [devices]
  rw [← Machine.run_iff_allowed (fun _ _ _ ↦ Coherent.step) (fun _ _ _ ↦ Coherent.returned_iff)
    coherent_start hstart h]
  simp only [actsOnItsDocument_iff]

def sampleId : AutoId := ⟨"aaaaaaaaaaaaaaaaaaaa", by decide⟩

/-- A query after both writes of a save. -/
def settledActs : List Act :=
  [.save sampleUser sampleId sampleArguments, .answer 0, .answer 0, .load sampleUser]

theorem returned_acts_iff_settled_settledActs :
    (∀ shown ∈ ((devices.run settledActs).getD devices.start).returned, ActsOnItsDocument shown)
      ↔ devices.Allowed Settled devices.start settledActs := by
  have hrun : devices.run settledActs
      = some ((devices.run settledActs).getD devices.start) := by rfl
  exact returned_acts_iff_settled hrun

/-- A query between the two writes of a save. -/
def hastyActs : List Act := [.save sampleUser sampleId sampleArguments, .answer 0, .load sampleUser]

/-- It returns the offer under the fallback. Deleting the offer shown is then answered with
success, and the offer stays. -/
theorem hastyActs_misidentifies :
    ∃ s shown, devices.run hastyActs = some s ∧ shown ∈ s.returned ∧
      ¬ActsOnItsDocument shown ∧
      ∃ w t, pressedExcluirButton shown.2 = some w ∧ w.apply s.anuncio = some t ∧
        (t[shown.1]?).isSome = true := by
  refine ⟨(devices.run hastyActs).getD devices.start,
    (sampleId.key, (Offer.ofSave sampleUser sampleArguments).ownView (some sampleUser) "No Id"),
    rfl, by decide, ?_, .delete "No Id", _, rfl, rfl, by decide⟩
  rw [actsOnItsDocument_iff]
  decide

end Identity

end Poketrader
