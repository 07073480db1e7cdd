import Poketrader.Network.OfertasWorker
import Poketrader.Transition.Machine

/-!
# The offer store

What the `anuncio` collection is for, stated without field names: a map from keys to offers, in
which saving adds an offer, updating replaces its eight texts and deleting removes it. The
collection itself, under the worker's calls with every write applied in the order issued, is the
image of that map under `Offer.fields`.

## The simulation

Everything rests on one observation: under these calls every document ever stored is the encoding
of an offer under its own key. The two writes of `saveOffer` together store `Offer.fields` of the
new offer; the write of `updateOffer` turns the encoding of an offer into the encoding of the
changed offer. So the run of the collection is the image of the run of the map, and a loader only
ever meets encodings, on which all of its casts succeed.
-/

open Std (ExtTreeMap)
open Document

namespace Poketrader

/-! ## Offers without field names -/

/-- An offer: who made it, what it offers, and the eight texts its owner may change. -/
structure Offer extends OfferTexts where
  uid : String
  email : String
  userName : String
  telefone : String
  name : String
  url : String
  game : String
  deriving DecidableEq

namespace Offer

/-- The offer a user saves. -/
def ofSave (user : AuthUser) (args : SaveArguments) : Offer where
  uid := user.uid
  email := user.email.getD "No email"
  userName := user.displayName.getD "No name"
  telefone := args.telefone.getD ""
  name := args.name.getD "No name"
  url := args.url.getD "No url"
  game := args.game.getD "No game"
  nv := args.nv.getD "No nv"
  hp := args.hp.getD "No hp"
  defesa := args.defesa.getD "No def"
  ata := args.ata.getD "No ata"
  vel := args.vel.getD "No vel"
  defSp := args.defSp.getD "No def sp"
  ataSp := args.ataSp.getD "No ata sp"
  obs := args.obs.getD "No obs"

/-- The offer with its eight texts replaced. -/
def withTexts (texts : OfferTexts) (o : Offer) : Offer := { o with toOfferTexts := texts }

/-- The document that stores an offer, given the value of its field `id`. -/
def fields (id : String) (o : Offer) : Fields :=
  Fields.ofList
    [("id", .string id), ("telefone", .string o.telefone), ("email", .string o.email),
      ("userName", .string o.userName), ("name", .string o.name), ("uid", .string o.uid),
      ("url", .string o.url), ("game", .string o.game), ("nv", .string o.nv), ("hp", .string o.hp),
      ("def", .string o.defesa), ("ata", .string o.ata), ("vel", .string o.vel),
      ("defSp", .string o.defSp), ("ataSp", .string o.ataSp), ("obs", .string o.obs)]

/-- The Pokemon of an offer, as both loaders rebuild it. -/
def pokemon (o : Offer) : Pokemon :=
  Pokemon.init o.url
    { id := none
      name := some o.name
      sprites := some ⟨some ⟨none, some ⟨some o.url⟩⟩⟩
      stats := none }

/-- The offer as everybody sees it. -/
def view (o : Offer) : OfertaElement where
  nv := some o.nv
  hp := some o.hp
  defesa := some o.defesa
  ata := some o.ata
  vel := some o.vel
  defSp := some o.defSp
  ataSp := some o.ataSp
  game := some o.game
  pokemon := some o.pokemon
  observacoes := some o.obs
  nome := some o.userName
  email := some o.email
  telefone := some o.telefone

/-- The offer as its owner sees it: with the key, and with the contact of the session. -/
def ownView (currentUser : Option AuthUser) (id : String) (o : Offer) : OfertaElement :=
  { o.view with
    id := some id
    email := currentUser.bind AuthUser.email
    telefone := currentUser.bind AuthUser.phoneNumber }

/-! ## The encoding -/

theorem fields_ofSave (user : AuthUser) (args : SaveArguments) (ref : Option String) :
    args.data user ref = (ofSave user args).fields (ref.getD "No Id") := rfl

@[simp] theorem string_fields_id (id : String) (o : Offer) :
    (o.fields id).string "id" = some id := rfl

@[simp] theorem string_fields_uid (id : String) (o : Offer) :
    (o.fields id).string "uid" = some o.uid := by
  simp [fields]

/-- The second write of `saveOffer` sets the copy of the key and nothing else. -/
theorem update_idData (id : String) (ref : Option String) (o : Offer) :
    (o.fields id).update (idData ref) = o.fields (ref.getD "No Id") :=
  Fields.update_ofList_cons _ _ _ _

/-- The write of `updateOffer` replaces the eight texts. -/
theorem update_data (id : String) (texts : OfferTexts) (o : Offer) :
    (o.fields id).update texts.data = (o.withTexts texts).fields id := by
  funext j
  by_cases h : j ∈ ["nv", "hp", "def", "ata", "vel", "ataSp", "defSp", "obs"]
  · simp only [List.mem_cons, List.not_mem_nil, or_false] at h
    rcases h with rfl | rfl | rfl | rfl | rfl | rfl | rfl | rfl <;> rfl
  · have hnew : texts.data j = none := Fields.ofList_eq_none h
    simp only [List.mem_cons, List.not_mem_nil, or_false, not_or] at h
    obtain ⟨hnv, hhp, hdef, hata, hvel, hataSp, hdefSp, hobs⟩ := h
    rw [Fields.update_of_eq_none hnew]
    simp only [fields, withTexts, Fields.ofList_cons, hnv, hhp, hdef, hata, hvel, hataSp, hdefSp,
      hobs, if_false]

/-- Every cast of `loadOffers` succeeds on an encoding, whatever its field `id` holds. -/
theorem decodeOffer_fields (id : String) (o : Offer) : decodeOffer (o.fields id) = some o.view := by
  simp [decodeOffer, fields, view, pokemon]

theorem decodeOwnOffer_fields (currentUser : Option AuthUser) (id : String) (o : Offer) :
    decodeOwnOffer currentUser (o.fields id) = some (o.ownView currentUser id) := by
  simp [decodeOwnOffer, fields, ownView, view, pokemon]

end Offer

/-! ## The two stores -/

/-- A call of the worker. The key of `saveOffer` is the one drawn for the new document. -/
inductive Call where
  | saveOffer (currentUser : Option AuthUser) (documentID : String) (args : SaveArguments)
  | updateOffer (offer : OfertaElement) (texts : OfferTexts)
  | deleteOffer (id : String)

/-- The writes a call issues, in order. A call that traps issues none. -/
def Call.writes : Call → List Write
  | .saveOffer currentUser documentID args => Poketrader.saveOffer currentUser documentID args
  | .updateOffer offer texts => (Poketrader.updateOffer offer texts).toList
  | .deleteOffer id => [Poketrader.deleteOffer id]

/-- Whether the key a call draws is a new one. -/
def Call.Fresh (keys : String → Prop) : Call → Prop
  | .saveOffer _ documentID _ => ¬keys documentID
  | _ => True

instance (keys : String → Prop) [DecidablePred keys] : DecidablePred (Call.Fresh keys)
  | .saveOffer _ documentID _ => inferInstanceAs (Decidable (¬keys documentID))
  | .updateOffer _ _ => .isTrue trivial
  | .deleteOffer _ => .isTrue trivial

/-- The collection, with the writes of each call applied in the order issued. -/
def anuncio : Machine Collection Call where
  start := ∅
  step t call :=
    if call.Fresh (· ∈ t) then some (call.writes.foldl (fun t w ↦ w.commit t) t) else none

/-- The effect of a call on the offers. -/
def Call.effect : Call → ExtTreeMap String Offer → ExtTreeMap String Offer
  | .saveOffer (some user) documentID args, m => m.insert documentID (Offer.ofSave user args)
  | .saveOffer none _ _, m => m
  | .updateOffer offer texts, m =>
    match offer.id with
    | some id => m.modify id (Offer.withTexts texts)
    | none => m
  | .deleteOffer id, m => m.erase id

/-- The offers themselves. -/
def offerStore : Machine (ExtTreeMap String Offer) Call where
  start := ∅
  step m call := if call.Fresh (· ∈ m) then some (call.effect m) else none

/-! ## The simulation -/

/-- The collection that stores a map of offers: each under its own key. -/
def stored (m : ExtTreeMap String Offer) : Collection := m.map Offer.fields

theorem mem_stored {m : ExtTreeMap String Offer} {id : String} : id ∈ stored m ↔ id ∈ m := by
  rw [stored, ExtTreeMap.mem_map]

theorem getElem?_stored (m : ExtTreeMap String Offer) (id : String) :
    (stored m)[id]? = (m[id]?).map (Offer.fields id) :=
  ExtTreeMap.getElem?_map

theorem toList_stored (m : ExtTreeMap String Offer) :
    (stored m).toList = m.toList.map fun p ↦ (p.1, p.2.fields p.1) :=
  ExtTreeMap.toList_map

/-- The writes of one call, applied in order to a stored map, store the map after the call. -/
theorem foldl_writes_stored (call : Call) (m : ExtTreeMap String Offer) :
    call.writes.foldl (fun t w ↦ w.commit t) (stored m) = stored (call.effect m) := by
  cases call with
  | saveOffer currentUser documentID args =>
    cases currentUser with
    | none => rfl
    | some user =>
      have hdata : (args.data user none).update (idData (some documentID))
          = (Offer.ofSave user args).fields documentID := by
        rw [Offer.fields_ofSave, Offer.update_idData, Option.getD_some]
      calc (Write.updateData documentID (idData (some documentID))).commit
            ((Write.setData documentID (args.data user none)).commit (stored m))
          = (stored m).insert documentID ((Offer.ofSave user args).fields documentID) := by
            rw [Write.commit_updateData_commit_setData, hdata, Write.commit_setData]
        _ = stored (m.insert documentID (Offer.ofSave user args)) := insert_map _ _ _ _
  | updateOffer offer texts =>
    cases hid : offer.id with
    | none =>
      simp only [Call.writes, updateOffer, Call.effect, hid, Option.map_none, Option.toList_none,
        List.foldl_nil]
    | some id =>
      simp only [Call.writes, updateOffer, Call.effect, hid, Option.map_some, Option.toList_some,
        List.foldl_cons, List.foldl_nil]
      exact commit_updateData_map _ _ _ fun o ↦ Offer.update_data id texts o
  | deleteOffer id => exact erase_map _ _ _

/-- One step of the collection is the image of one step of the store. -/
theorem anuncio_step_stored (m : ExtTreeMap String Offer) (call : Call) :
    anuncio.step (stored m) call = (offerStore.step m call).map stored := by
  have hfresh : call.Fresh (· ∈ stored m) ↔ call.Fresh (· ∈ m) := by
    cases call with
    | saveOffer currentUser documentID args => exact not_congr mem_stored
    | updateOffer offer texts => exact Iff.rfl
    | deleteOffer id => exact Iff.rfl
  simp only [anuncio, offerStore, hfresh, foldl_writes_stored]
  split
  · rfl
  · rfl

/-- **Refinement.** The runs of the collection are the images of the runs of the store. -/
theorem anuncio_run (calls : List Call) :
    anuncio.run calls = (offerStore.run calls).map stored := by
  have hstart : anuncio.start = stored offerStore.start := by
    refine ExtTreeMap.ext_getElem? fun j ↦ ?_
    rw [getElem?_stored]
    rfl
  rw [Machine.run, hstart]
  exact Machine.exec_map anuncio_step_stored calls offerStore.start

theorem exists_stored_of_run {calls : List Call} {t : Collection} (h : anuncio.run calls = some t) :
    ∃ m, offerStore.run calls = some m ∧ t = stored m := by
  rw [anuncio_run] at h
  obtain ⟨m, hm, rfl⟩ := Option.map_eq_some_iff.mp h
  exact ⟨m, hm, rfl⟩

/-! ## What the loaders return -/

/-- `loadOffers` shows every offer of the store, once. -/
theorem loadOffers_stored (m : ExtTreeMap String Offer) :
    loadOffers (.ofDocuments (stored m).toList)
      = some (some { ofertas := some (m.toList.map fun p ↦ p.2.view) }, none) := by
  simp only [loadOffers, QueryAnswer.ofDocuments, Option.getD_some, appendDecoded_eq,
    toList_stored, List.filterMap_map, Function.comp_def, Offer.decodeOffer_fields,
    List.filterMap_eq_map']

/-- The documents asked for are the encodings of the user's own offers. -/
theorem ownDocuments_stored (user : AuthUser) (m : ExtTreeMap String Offer) :
    ownDocuments (some user) (stored m)
      = (m.toList.filter fun p ↦ p.2.uid = user.uid).map fun p ↦ (p.1, p.2.fields p.1) := by
  simp only [ownDocuments, whereField, toList_stored, List.filter_map, Function.comp_def,
    Offer.string_fields_uid, Option.map_some, Option.getD_some, Option.some_inj]

/-- `loadOffersForIUD` shows every offer of the user, once. -/
theorem loadOffersForIUD_stored (user : AuthUser) (m : ExtTreeMap String Offer) :
    loadOffersForIUD (some user) (.ofDocuments (ownDocuments (some user) (stored m)))
      = some (some { ofertas := some ((m.toList.filter fun p ↦ p.2.uid = user.uid).map
          fun p ↦ p.2.ownView (some user) p.1) }, none) := by
  simp only [loadOffersForIUD, QueryAnswer.ofDocuments, Option.getD_some, appendDecoded_eq,
    ownDocuments_stored, List.filterMap_map, Function.comp_def, Offer.decodeOwnOffer_fields,
    List.filterMap_eq_map']

/-! ## The loaders refine the store -/

theorem map_fst_toList_stored (m : ExtTreeMap String Offer) :
    (stored m).toList.map Prod.fst = m.toList.map Prod.fst := by
  simp only [toList_stored, List.map_map, Function.comp_def]

theorem nodup_map_fst_toList (m : ExtTreeMap String Offer) : (m.toList.map Prod.fst).Nodup := by
  rw [List.nodup_iff_pairwise_ne, List.pairwise_map]
  exact m.distinct_keys_toList.imp fun h heq ↦ h (Std.LawfulEqCmp.compare_eq_iff_eq.mpr heq)

/-- A call writes to the documents it names and to no other. -/
theorem anuncio_step_frame {t t' : Collection} {call : Call} (h : anuncio.step t call = some t')
    {j : String} (hj : ∀ w ∈ call.writes, w.id ≠ j) : t'[j]? = t[j]? := by
  have hfold : ∀ (ws : List Write) (u : Collection), (∀ w ∈ ws, w.id ≠ j) →
      (ws.foldl (fun t w ↦ w.commit t) u)[j]? = u[j]? := by
    intro ws
    induction ws with
    | nil => exact fun _ _ ↦ rfl
    | cons w ws ih =>
      intro u hws
      rw [List.foldl_cons, ih _ fun v hv ↦ hws v (List.mem_cons_of_mem _ hv)]
      exact Write.getElem?_commit_of_ne w u (hws w List.mem_cons_self)
  simp only [anuncio] at h
  split at h
  · rw [← Option.some_inj.mp h]
    exact hfold _ _ hj
  · exact absurd h (by simp)

/-- **The loaders show the store.** After any calls on an empty collection, the documents are the
live offers, under distinct keys; `loadOffers` returns each of them once, `loadOffersForIUD`
returns each of the user's own once with its key, and the next update or deletion leaves every
other document as it is. -/
theorem loads_refine {calls : List Call} {t : Collection} (h : anuncio.run calls = some t) :
    ∃ m, offerStore.run calls = some m ∧
      t.toList.map Prod.fst = m.toList.map Prod.fst ∧ (m.toList.map Prod.fst).Nodup ∧
      loadOffers (.ofDocuments t.toList)
        = some (some { ofertas := some (m.toList.map fun p ↦ p.2.view) }, none) ∧
      (∀ user : AuthUser,
        loadOffersForIUD (some user) (.ofDocuments (ownDocuments (some user) t))
          = some (some { ofertas := some ((m.toList.filter fun p ↦ p.2.uid = user.uid).map
              fun p ↦ p.2.ownView (some user) p.1) }, none)) ∧
      (∀ offer texts t', anuncio.step t (.updateOffer offer texts) = some t' →
        ∀ j, offer.id ≠ some j → t'[j]? = t[j]?) ∧
      ∀ id t', anuncio.step t (.deleteOffer id) = some t' → ∀ j, id ≠ j → t'[j]? = t[j]? := by
  obtain ⟨m, hm, rfl⟩ := exists_stored_of_run h
  refine ⟨m, hm, map_fst_toList_stored m, nodup_map_fst_toList m, loadOffers_stored m,
    fun user ↦ loadOffersForIUD_stored user m, ?_, ?_⟩
  · intro offer texts t' ht j hj
    refine anuncio_step_frame ht fun w hw ↦ ?_
    simp only [Call.writes, updateOffer, Option.mem_toList, Option.map_eq_some_iff] at hw
    obtain ⟨id, hid, rfl⟩ := hw
    exact fun hij ↦ hj (hij ▸ hid)
  · intro id t' ht j hj
    refine anuncio_step_frame ht fun w hw ↦ ?_
    rw [Call.writes, List.mem_singleton] at hw
    exact hw ▸ hj

/-- An account for concrete runs. -/
def sampleUser : AuthUser where
  uid := "uid-1"
  email := some "seller@mail.com"
  displayName := none
  phoneNumber := none

/-- Arguments for concrete runs, most of them left to their defaults. -/
def sampleArguments : SaveArguments where
  name := some "pikachu"
  telefone := some "(11) 98888 7777"
  url := some "https://img/25.png"
  game := some "Red"
  nv := some "5"
  hp := none
  defesa := none
  ata := some "55"
  vel := none
  defSp := none
  ataSp := some "50"
  obs := none

/-- Two offers, one edited and one deleted. -/
def sampleCalls : List Call :=
  [.saveOffer (some sampleUser) "key-1" sampleArguments,
    .saveOffer (some sampleUser) "key-2" sampleArguments,
    .updateOffer { id := some "key-1" } ⟨"6", "35", "40", "55", "90", "50", "50", "shiny"⟩,
    .deleteOffer "key-2"]

theorem loads_refine_sampleCalls : ∃ m, offerStore.run sampleCalls = some m ∧
    loadOffers (.ofDocuments ((anuncio.run sampleCalls).getD ∅).toList)
      = some (some { ofertas := some (m.toList.map fun p ↦ p.2.view) }, none) := by
  have hrun : anuncio.run sampleCalls = some ((anuncio.run sampleCalls).getD ∅) := by rfl
  obtain ⟨m, hm, -, -, hload, -⟩ := loads_refine hrun
  exact ⟨m, hm, hload⟩

end Poketrader
