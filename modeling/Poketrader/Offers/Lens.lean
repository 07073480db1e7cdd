import Poketrader.Offers.Malformed
import Poketrader.Views.MeuAnuncioViewController

/-!
# The edit screen as a lens

The screen shows eight texts of a document and writes eight texts back to it. The decoder, the
fields of the screen, the controller and the worker name them in four different orders, so what is
shown and what is written are compared attribute by attribute, under the key of each in the
document: writing back what is shown changes nothing, what is written is shown, and of two writes
only the later one counts.
-/

open Document

namespace Poketrader

open MeuAnuncioViewController (viewDidLoad pressedEditarButton)

variable {currentUser : Option AuthUser} {t : Collection} {k : String} {data : Fields}
  {oferta : OfertaElement}

/-- `loadOffersForIUD` finds the document under `k` and makes `oferta` of it, whose `id` is the
key. -/
structure Opened (currentUser : Option AuthUser) (t : Collection) (k : String)
    (oferta : OfertaElement) : Prop where
  decoded : ∃ data, (k, data) ∈ ownDocuments currentUser t ∧
    decodeOwnOffer currentUser data = some oferta
  id : oferta.id = some k

/-- An offer that can be opened is in the list. -/
theorem Opened.mem_list (h : Opened currentUser t k oferta) :
    ∃ ofertas, loadOffersForIUD currentUser (.ofDocuments (ownDocuments currentUser t))
      = some (some { ofertas := some ofertas }, none) ∧ oferta ∈ ofertas := by
  obtain ⟨data, hmem, hdecode⟩ := h.decoded
  refine ⟨_, rfl, ?_⟩
  rw [appendDecoded_eq]
  exact List.mem_filterMap.mpr ⟨(k, data), hmem, hdecode⟩

/-! ## Texts under their keys -/

/-- The dictionary of a write has the text of each attribute under its key. -/
theorem OfferTexts.data_key (texts : OfferTexts) (a : Attr) :
    texts.data a.key = some (.string (texts.get a)) := by
  rcases a with - | - | - | - | - | - | - | - <;> rfl

/-- It has no other key. -/
theorem OfferTexts.data_of_ne (texts : OfferTexts) {j : String} (hj : ∀ a : Attr, j ≠ a.key) :
    texts.data j = none := by
  refine Fields.ofList_eq_none fun hmem ↦ ?_
  have hkeys : ∃ a : Attr, j = a.key := by
    simp only [List.map_cons, List.map_nil, List.mem_cons, List.not_mem_nil, or_false] at hmem
    rcases hmem with h | h | h | h | h | h | h | h
    exacts [⟨.nv, h⟩, ⟨.hp, h⟩, ⟨.defesa, h⟩, ⟨.ata, h⟩, ⟨.vel, h⟩, ⟨.ataSp, h⟩, ⟨.defSp, h⟩,
      ⟨.obs, h⟩]
  obtain ⟨a, ha⟩ := hkeys
  exact hj a ha

/-- Two groups of texts with the same text for each attribute are the same. -/
theorem OfferTexts.ext_get {texts texts' : OfferTexts} (h : ∀ a, texts.get a = texts'.get a) :
    texts = texts' := by
  obtain ⟨nv, hp, defesa, ata, vel, ataSp, defSp, obs⟩ := texts
  have hnv := h .nv
  have hhp := h .hp
  have hdefesa := h .defesa
  have hata := h .ata
  have hvel := h .vel
  have hataSp := h .ataSp
  have hdefSp := h .defSp
  have hobs := h .obs
  simp only [OfferTexts.get] at hnv hhp hdefesa hata hvel hataSp hdefSp hobs
  subst hnv hhp hdefesa hata hvel hataSp hdefSp hobs
  rfl

/-- Each field of the screen opens with the text under the key of its attribute. -/
theorem get_viewDidLoad (data : Fields) (a : Attr) :
    (viewDidLoad (ownOfferOf currentUser data)).get a = (data.string a.key).getD "" := by
  rcases a with - | - | - | - | - | - | - | - <;> rfl

/-- The texts a document shows are those under the keys of the attributes. -/
theorem string_key_of_decoded (h : decodeOwnOffer currentUser data = some oferta) (a : Attr) :
    data.string a.key = some ((viewDidLoad oferta).get a) := by
  obtain ⟨hstrings, rfl⟩ := decodeOwnOffer_eq_some_iff.mp h
  have hkey : a.key ∈ ownOfferKeys := by
    rcases a with - | - | - | - | - | - | - | - <;> decide
  obtain ⟨s, hs⟩ := Option.isSome_iff_exists.mp (hstrings a.key hkey)
  rw [get_viewDidLoad, hs, Option.getD_some]

theorem update_data_key (texts : OfferTexts) (a : Attr) :
    (data.update texts.data).string a.key = some (texts.get a) := by
  rw [Fields.string, Fields.update, texts.data_key, Option.some_or]
  rfl

theorem update_data_of_ne (texts : OfferTexts) {j : String} (hj : ∀ a : Attr, j ≠ a.key) :
    data.update texts.data j = data j :=
  Fields.update_of_eq_none (texts.data_of_ne hj)

/-- An update with eight texts leaves nothing of an earlier one. -/
theorem update_update (texts texts' : OfferTexts) :
    (data.update texts.data).update texts'.data = data.update texts'.data := by
  funext j
  by_cases hj : ∃ a : Attr, j = a.key
  · obtain ⟨a, rfl⟩ := hj
    rw [Fields.update, texts'.data_key, Option.some_or, Fields.update, texts'.data_key,
      Option.some_or]
  · rw [not_exists] at hj
    rw [update_data_of_ne texts' hj, update_data_of_ne texts hj, update_data_of_ne texts' hj]

/-! ## The laws -/

/-- Writing back the texts that are shown changes nothing. -/
theorem update_shown (h : decodeOwnOffer currentUser data = some oferta) :
    data.update (viewDidLoad oferta).data = data := by
  funext j
  by_cases hj : ∃ a : Attr, j = a.key
  · obtain ⟨a, rfl⟩ := hj
    rw [Fields.update, OfferTexts.data_key, Option.some_or,
      Fields.eq_string (string_key_of_decoded h a)]
  · exact update_data_of_ne _ (not_exists.mp hj)

/-- What is written is decoded again, and shown. -/
theorem decode_update (h : decodeOwnOffer currentUser data = some oferta) (texts : OfferTexts) :
    ∃ oferta', decodeOwnOffer currentUser (data.update texts.data) = some oferta' ∧
      oferta'.id = oferta.id ∧ viewDidLoad oferta' = texts := by
  obtain ⟨hstrings, rfl⟩ := decodeOwnOffer_eq_some_iff.mp h
  refine ⟨_, decodeOwnOffer_eq_some_iff.mpr ⟨fun j hj ↦ ?_, rfl⟩, ?_, ?_⟩
  · by_cases hattr : ∃ a : Attr, j = a.key
    · obtain ⟨a, rfl⟩ := hattr
      rw [update_data_key]
      rfl
    · rw [Fields.string, update_data_of_ne texts (not_exists.mp hattr)]
      exact hstrings j hj
  · have hid : data.update texts.data "id" = data "id" := update_data_of_ne texts fun a ↦ by
      rcases a with - | - | - | - | - | - | - | - <;> decide
    exact congrArg (Option.bind · Value.asString) hid
  · refine OfferTexts.ext_get fun a ↦ ?_
    rw [get_viewDidLoad, update_data_key, Option.getD_some]

/-- Editar on an offer that was opened updates the document with its key. -/
theorem Opened.pressedEditarButton_eq (h : Opened currentUser t k oferta) (texts : OfferTexts) :
    pressedEditarButton (some oferta) texts = some (.updateData k texts.data) := by
  rw [pressedEditarButton, Option.getD_some, updateOffer, h.id, Option.map_some]

/-- After Editar the same offer can be opened, and shows what was written. -/
theorem Opened.commit (h : Opened currentUser t k oferta) (texts : OfferTexts) :
    ∃ oferta', Opened currentUser ((Write.updateData k texts.data).commit t) k oferta' ∧
      viewDidLoad oferta' = texts := by
  obtain ⟨data, hmem, hdecode⟩ := h.decoded
  obtain ⟨hdoc, huid⟩ := mem_whereField_iff.mp hmem
  obtain ⟨oferta', hdecode', hid, hshown⟩ := decode_update hdecode texts
  refine ⟨oferta', ⟨⟨data.update texts.data, ?_, hdecode'⟩, hid.trans h.id⟩, hshown⟩
  refine mem_whereField_iff.mpr ⟨?_, ?_⟩
  · rw [Write.getElem?_commit_updateData, if_pos rfl, hdoc, Option.map_some]
  · have hkey : data.update texts.data "uid" = data "uid" := update_data_of_ne texts fun a ↦ by
      rcases a with - | - | - | - | - | - | - | - <;> decide
    exact (congrArg (Option.bind · Value.asString) hkey).trans huid

/-- **The edit screen is a lens on the offer.** For an offer that can be opened: Editar without a
change leaves the collection as it is; after Editar with any texts the offer opens with exactly
those, the other keys of its document and all other documents are as before, and a further Editar,
on either screen, has the result it would have had at once. -/
theorem edit_lens (h : Opened currentUser t k oferta) :
    (∃ write, pressedEditarButton (some oferta) (viewDidLoad oferta) = some write ∧
      write.commit t = t) ∧
    ∀ texts, ∃ write, pressedEditarButton (some oferta) texts = some write ∧
      (∃ oferta', Opened currentUser (write.commit t) k oferta' ∧ viewDidLoad oferta' = texts) ∧
      (∀ j, (∀ a : Attr, j ≠ a.key) →
        ((write.commit t)[k]?).map (· j) = (t[k]?).map (· j)) ∧
      (∀ j, j ≠ k → (write.commit t)[j]? = t[j]?) ∧
      ∀ oferta', oferta' = oferta ∨ Opened currentUser (write.commit t) k oferta' →
        ∀ texts', ∃ write', pressedEditarButton (some oferta') texts' = some write' ∧
          pressedEditarButton (some oferta) texts' = some write' ∧
          write'.commit (write.commit t) = write'.commit t := by
  obtain ⟨data, hmem, hdecode⟩ := h.decoded
  have hdoc : t[k]? = some data := (mem_whereField_iff.mp hmem).1
  constructor
  · refine ⟨_, h.pressedEditarButton_eq _, Std.ExtTreeMap.ext_getElem? fun j ↦ ?_⟩
    rw [Write.getElem?_commit_updateData]
    split
    · next hkj => rw [← hkj, hdoc, Option.map_some, update_shown hdecode]
    · rfl
  · intro texts
    refine ⟨_, h.pressedEditarButton_eq texts, h.commit texts, fun j hj ↦ ?_, fun j hj ↦ ?_, ?_⟩
    · rw [Write.getElem?_commit_updateData, if_pos rfl, Option.map_map]
      exact Option.map_congr fun data _ ↦ update_data_of_ne texts hj
    · exact Write.getElem?_commit_of_ne _ t hj.symm
    · intro oferta' hoferta' texts'
      have hpress : pressedEditarButton (some oferta') texts'
          = some (.updateData k texts'.data) := by
        rcases hoferta' with rfl | hopened
        · exact h.pressedEditarButton_eq texts'
        · exact hopened.pressedEditarButton_eq texts'
      refine ⟨_, hpress, h.pressedEditarButton_eq texts', Std.ExtTreeMap.ext_getElem? fun j ↦ ?_⟩
      rw [Write.getElem?_commit_updateData, Write.getElem?_commit_updateData,
        Write.getElem?_commit_updateData]
      split
      · rw [Option.map_map]
        exact Option.map_congr fun data _ ↦ update_update texts texts'
      · rfl

/-- A document that was not written by the form: it has a key of its own, and no contact. -/
def noteDocument : Fields :=
  Fields.ofList
    [("id", .string "key-1"), ("nota", .integer 7), ("userName", .string "Ana"),
      ("name", .string "pikachu"), ("uid", .string "uid-1"), ("url", .string "https://img/25.png"),
      ("game", .string "Red"), ("nv", .string "5"), ("hp", .string "35"), ("def", .string "40"),
      ("ata", .string "55"), ("vel", .string "90"), ("defSp", .string "50"),
      ("ataSp", .string "45"), ("obs", .string "")]

theorem edit_lens_noteDocument :
    let user : AuthUser := ⟨"uid-1", none, none, none⟩
    let t : Collection := (∅ : Collection).insert "key-1" noteDocument
    let oferta := ownOfferOf (some user) noteDocument
    let texts : OfferTexts := ⟨"6", "35", "40", "55", "90", "45", "50", "shiny"⟩
    Opened (some user) t "key-1" oferta ∧
      (∃ write, pressedEditarButton (some oferta) (viewDidLoad oferta) = some write ∧
        write.commit t = t) ∧
      ∃ write, pressedEditarButton (some oferta) texts = some write ∧
        ∃ oferta', Opened (some user) (write.commit t) "key-1" oferta' ∧
          viewDidLoad oferta' = texts := by
  intro user t oferta texts
  have hdoc : t["key-1"]? = some noteDocument := Std.ExtTreeMap.getElem?_insert_self
  have hopened : Opened (some user) t "key-1" oferta :=
    ⟨⟨noteDocument, mem_whereField_iff.mpr ⟨hdoc, rfl⟩, rfl⟩, rfl⟩
  obtain ⟨hget, hput⟩ := edit_lens hopened
  obtain ⟨write, hwrite, hshown, -⟩ := hput texts
  exact ⟨hopened, hget, write, hwrite, hshown⟩

end Poketrader
