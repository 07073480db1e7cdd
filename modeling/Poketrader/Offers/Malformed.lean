import Poketrader.Network.OfertasWorker
import Poketrader.Views.AnuncioViewController
import Poketrader.Views.MeuAnuncioViewController
import Poketrader.Views.OfertaCell

/-!
# Malformed documents

Nothing keeps other clients from storing documents in `anuncio` with fields missing or of other
types. A loader returns a document exactly if every key it reads is there with a string, whatever
else the document holds and whatever the other documents are; and the offer it makes of it then has
every attribute that a screen unwraps on the way from there.
-/

open Document Foundation

namespace Poketrader

/-- Every one of the keys is there, with a string. -/
def HasStrings (keys : List String) (data : Fields) : Prop :=
  ∀ k ∈ keys, (data.string k).isSome = true

instance (keys : List String) : DecidablePred (HasStrings keys) :=
  fun data ↦ inferInstanceAs (Decidable (∀ k ∈ keys, (data.string k).isSome = true))

/-- The keys both loaders read. -/
def sharedKeys : List String :=
  ["userName", "name", "url", "game", "nv", "hp", "ata", "def", "vel", "ataSp", "defSp", "obs"]

/-- The keys `loadOffers` reads. -/
def offerKeys : List String := "telefone" :: "email" :: sharedKeys

/-- The keys `loadOffersForIUD` reads. -/
def ownOfferKeys : List String := "id" :: sharedKeys

/-- What `loadOffers` makes of a document. -/
def offerOf (data : Fields) : OfertaElement where
  nv := data.string "nv"
  hp := data.string "hp"
  defesa := data.string "def"
  ata := data.string "ata"
  vel := data.string "vel"
  defSp := data.string "defSp"
  ataSp := data.string "ataSp"
  game := data.string "game"
  pokemon := (data.string "url").map fun urlText ↦ Pokemon.init urlText
    { id := none
      name := data.string "name"
      sprites := some ⟨some ⟨none, some ⟨some urlText⟩⟩⟩
      stats := none }
  observacoes := data.string "obs"
  nome := data.string "userName"
  email := data.string "email"
  telefone := data.string "telefone"

/-- What `loadOffersForIUD` makes of a document. -/
def ownOfferOf (currentUser : Option AuthUser) (data : Fields) : OfertaElement :=
  { offerOf data with
    id := data.string "id"
    email := currentUser.bind AuthUser.email
    telefone := currentUser.bind AuthUser.phoneNumber }

theorem decodeOffer_eq_some_iff {data : Fields} {oferta : OfertaElement} :
    decodeOffer data = some oferta ↔ HasStrings offerKeys data ∧ offerOf data = oferta := by
  constructor
  · intro h
    rw [decodeOffer] at h
    -- the strings are read one after the other, and each is there
    iterate 14
      replace h := Option.bind_eq_some_iff.mp h
      obtain ⟨_, _, h⟩ := h
    obtain rfl := Option.some_inj.mp h
    simp [HasStrings, offerKeys, sharedKeys, offerOf, *]
  · rintro ⟨h, rfl⟩
    simp only [HasStrings, offerKeys, sharedKeys, List.forall_mem_cons, Option.isSome_iff_exists] at h
    obtain ⟨⟨_, htelefone⟩, ⟨_, hemail⟩, ⟨_, huser⟩, ⟨_, hname⟩, ⟨_, hurl⟩, ⟨_, hgame⟩, ⟨_, hnv⟩,
      ⟨_, hhp⟩, ⟨_, hata⟩, ⟨_, hdef⟩, ⟨_, hvel⟩, ⟨_, hataSp⟩, ⟨_, hdefSp⟩, ⟨_, hobs⟩, -⟩ := h
    simp [decodeOffer, offerOf, *]

theorem decodeOwnOffer_eq_some_iff {currentUser : Option AuthUser} {data : Fields}
    {oferta : OfertaElement} : decodeOwnOffer currentUser data = some oferta
      ↔ HasStrings ownOfferKeys data ∧ ownOfferOf currentUser data = oferta := by
  constructor
  · intro h
    rw [decodeOwnOffer] at h
    iterate 13
      replace h := Option.bind_eq_some_iff.mp h
      obtain ⟨_, _, h⟩ := h
    obtain rfl := Option.some_inj.mp h
    simp [HasStrings, ownOfferKeys, sharedKeys, ownOfferOf, offerOf, *]
  · rintro ⟨h, rfl⟩
    simp only [HasStrings, ownOfferKeys, sharedKeys, List.forall_mem_cons,
      Option.isSome_iff_exists] at h
    obtain ⟨⟨_, hid⟩, ⟨_, huser⟩, ⟨_, hname⟩, ⟨_, hurl⟩, ⟨_, hgame⟩, ⟨_, hnv⟩,
      ⟨_, hhp⟩, ⟨_, hata⟩, ⟨_, hdef⟩, ⟨_, hvel⟩, ⟨_, hataSp⟩, ⟨_, hdefSp⟩, ⟨_, hobs⟩, -⟩ := h
    simp [decodeOwnOffer, ownOfferOf, offerOf, *]

/-- A decoder that accepts exactly the documents with certain strings, and makes `read` of each,
makes of a list of documents what `read` makes of those. -/
theorem appendDecoded_eq_map_filter {decode : Fields → Option OfertaElement}
    {read : Fields → OfertaElement} {keys : List String}
    (h : ∀ data oferta, decode data = some oferta ↔ HasStrings keys data ∧ read data = oferta)
    (documents : List (String × Fields)) : appendDecoded decode documents
      = (documents.filter fun doc ↦ HasStrings keys doc.2).map fun doc ↦ read doc.2 := by
  rw [appendDecoded_eq]
  induction documents with
  | nil => rfl
  | cons doc documents ih =>
    by_cases hdoc : HasStrings keys doc.2
    · have hread := (h doc.2 (read doc.2)).mpr ⟨hdoc, rfl⟩
      simp only [List.filterMap_cons, hread, List.filter_cons, decide_eq_true hdoc, if_true,
        List.map_cons, ih]
    · have hnone : decode doc.2 = none := by
        rw [Option.eq_none_iff_forall_ne_some]
        exact fun oferta hoferta ↦ hdoc ((h doc.2 oferta).mp hoferta).1
      simp only [List.filterMap_cons, hnone, List.filter_cons, decide_eq_false hdoc,
        Bool.false_eq_true, if_false, ih]

/-! ## The unwraps on the way of an offer -/

/-- No screen that shows the offer traps at it. -/
structure Showable (P : Platform) (oferta : OfertaElement) : Prop where
  cell : ∀ {ι : Type} (cell : OfertaCell ι), (cell.setup P (some oferta)).isSome = true
  anuncio : (AnuncioViewController.picture P oferta).isSome = true
  meuAnuncio : (MeuAnuncioViewController.picture P oferta).isSome = true

/-- Neither button of the owner's screen traps at the offer. -/
structure Editable (oferta : OfertaElement) : Prop where
  editar : ∀ texts, (MeuAnuncioViewController.pressedEditarButton (some oferta) texts).isSome = true
  excluir : (MeuAnuncioViewController.pressedExcluirButton oferta).isSome = true

/-- The attributes the screens unwrap. -/
theorem showable_of_isSome (P : Platform) {oferta : OfertaElement}
    (hgame : oferta.game.isSome = true) (hnv : oferta.nv.isSome = true)
    (hurl : oferta.urlText.isSome = true) : Showable P oferta := by
  obtain ⟨game, hgame⟩ := Option.isSome_iff_exists.mp hgame
  obtain ⟨nv, hnv⟩ := Option.isSome_iff_exists.mp hnv
  obtain ⟨urlText, hurl⟩ := Option.isSome_iff_exists.mp hurl
  refine ⟨fun cell ↦ ?_, ?_, ?_⟩
  · simp only [OfertaCell.setup, hgame, hnv, hurl, Option.bind_eq_bind, Option.bind_some]
    split <;> rfl
  · rw [AnuncioViewController.picture, hurl]
    rfl
  · rw [MeuAnuncioViewController.picture, hurl]
    rfl

theorem isSome_urlText_offerOf {data : Fields} (h : HasStrings sharedKeys data) :
    (offerOf data).urlText.isSome = true := by
  obtain ⟨urlText, hurl⟩ := Option.isSome_iff_exists.mp (h "url" (by decide))
  simp [OfertaElement.urlText, offerOf, hurl, Pokemon.init]

/-- The strings the unwrapped attributes come from are among those both loaders ask for. -/
theorem showable_offerOf (P : Platform) {data : Fields} (h : HasStrings sharedKeys data) :
    Showable P (offerOf data) :=
  showable_of_isSome P (h "game" (by decide)) (h "nv" (by decide)) (isSome_urlText_offerOf h)

theorem showable_ownOfferOf (P : Platform) (currentUser : Option AuthUser) {data : Fields}
    (h : HasStrings sharedKeys data) : Showable P (ownOfferOf currentUser data) :=
  showable_of_isSome P (h "game" (by decide)) (h "nv" (by decide)) (isSome_urlText_offerOf h)

theorem editable_ownOfferOf (currentUser : Option AuthUser) {data : Fields}
    (h : HasStrings ownOfferKeys data) : Editable (ownOfferOf currentUser data) := by
  obtain ⟨id, hid⟩ := Option.isSome_iff_exists.mp (h "id" (by decide))
  have hown : (ownOfferOf currentUser data).id = some id := hid
  constructor
  · intro texts
    rw [MeuAnuncioViewController.pressedEditarButton, Option.getD_some, updateOffer, hown]
    rfl
  · rw [MeuAnuncioViewController.pressedExcluirButton, hown]
    rfl

/-- **Malformed documents crash no screen.** Whatever documents a query returns, each loader returns
the offers of those with all the strings it reads, in order; no screen traps at any of them, and
neither button of the owner's screen at one of the own list. -/
theorem malformed_documents_harmless (P : Platform) (currentUser : Option AuthUser)
    (documents : List (String × Fields)) :
    ∃ shared own,
      loadOffers (.ofDocuments documents) = some (some { ofertas := some shared }, none) ∧
      loadOffersForIUD currentUser (.ofDocuments documents)
        = some (some { ofertas := some own }, none) ∧
      shared = (documents.filter fun doc ↦ HasStrings offerKeys doc.2).map
        (fun doc ↦ offerOf doc.2) ∧
      own = (documents.filter fun doc ↦ HasStrings ownOfferKeys doc.2).map
        (fun doc ↦ ownOfferOf currentUser doc.2) ∧
      (∀ oferta ∈ shared, Showable P oferta) ∧
      ∀ oferta ∈ own, Showable P oferta ∧ Editable oferta := by
  refine ⟨_, _, rfl, rfl, appendDecoded_eq_map_filter (fun _ _ ↦ decodeOffer_eq_some_iff) _,
    appendDecoded_eq_map_filter (fun _ _ ↦ decodeOwnOffer_eq_some_iff) _, ?_, ?_⟩
  · intro oferta hoferta
    simp only [QueryAnswer.ofDocuments, Option.getD_some, appendDecoded_eq, List.mem_filterMap]
      at hoferta
    obtain ⟨doc, -, hdoc⟩ := hoferta
    obtain ⟨hstrings, rfl⟩ := decodeOffer_eq_some_iff.mp hdoc
    exact showable_offerOf P fun k hk ↦
      hstrings k (List.mem_cons_of_mem _ (List.mem_cons_of_mem _ hk))
  · intro oferta hoferta
    simp only [QueryAnswer.ofDocuments, Option.getD_some, appendDecoded_eq, List.mem_filterMap]
      at hoferta
    obtain ⟨doc, -, hdoc⟩ := hoferta
    obtain ⟨hstrings, rfl⟩ := decodeOwnOffer_eq_some_iff.mp hdoc
    exact ⟨showable_ownOfferOf P currentUser fun k hk ↦ hstrings k (List.mem_cons_of_mem _ hk),
      editable_ownOfferOf currentUser hstrings⟩

end Poketrader
