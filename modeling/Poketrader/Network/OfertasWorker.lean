import Poketrader.Document.Collection
import Poketrader.Model.Ofertas

/-!
# The offers worker

The four operations on the `anuncio` collection. An operation is the list of writes it issues, in
order; a loader is what it does with the answer to its query.

## Two writes for one offer

`saveOffer` stores a copy of the document key in the field `id`. The dictionary of the first write
is evaluated before the reference it belongs to has been assigned, so the copy it stores is the
fallback; a second write replaces it. The variable `ref` below is kept at both of its values.

## What the loaders answer

Both loaders walk the documents and keep the ones all of whose fields have the expected types. On
an error neither of them calls back at all, which is the outer `none`.
-/

open Document

namespace Poketrader

/-- The account that is signed in. -/
structure AuthUser where
  uid : String
  email : Option String
  displayName : Option String
  phoneNumber : Option String
  deriving DecidableEq

/-- The arguments of `saveOffer`. -/
structure SaveArguments where
  name : Option String
  telefone : Option String
  url : Option String
  game : Option String
  nv : Option String
  hp : Option String
  defesa : Option String
  ata : Option String
  vel : Option String
  defSp : Option String
  ataSp : Option String
  obs : Option String
  deriving DecidableEq

/-- The eight texts `updateOffer` writes. -/
structure OfferTexts where
  nv : String
  hp : String
  defesa : String
  ata : String
  vel : String
  ataSp : String
  defSp : String
  obs : String
  deriving DecidableEq

/-- The texts that are numbers, each of which has a text field on both forms. -/
inductive OfferStat where
  | nv | hp | defesa | ata | vel | ataSp | defSp
  deriving DecidableEq

/-! ## The writers -/

def deleteOffer (id : String) : Write := .delete id

/-- The dictionary of `updateOffer`. -/
def OfferTexts.data (texts : OfferTexts) : Fields :=
  Fields.ofList
    [("nv", .string texts.nv), ("hp", .string texts.hp), ("def", .string texts.defesa),
      ("ata", .string texts.ata), ("vel", .string texts.vel), ("ataSp", .string texts.ataSp),
      ("defSp", .string texts.defSp), ("obs", .string texts.obs)]

/-- `none` is the trap at `offer.id!`. -/
def updateOffer (offer : OfertaElement) (texts : OfferTexts) : Option Write :=
  offer.id.map fun id ↦ .updateData id texts.data

/-- The dictionary of the first write of `saveOffer`, with the reference as it is at that point. -/
def SaveArguments.data (args : SaveArguments) (userData : AuthUser) (ref : Option String) :
    Fields :=
  Fields.ofList
    [("id", .string (ref.getD "No Id")), ("telefone", .string (args.telefone.getD "")),
      ("email", .string (userData.email.getD "No email")),
      ("userName", .string (userData.displayName.getD "No name")),
      ("name", .string (args.name.getD "No name")), ("uid", .string userData.uid),
      ("url", .string (args.url.getD "No url")), ("game", .string (args.game.getD "No game")),
      ("nv", .string (args.nv.getD "No nv")), ("hp", .string (args.hp.getD "No hp")),
      ("def", .string (args.defesa.getD "No def")), ("ata", .string (args.ata.getD "No ata")),
      ("vel", .string (args.vel.getD "No vel")), ("defSp", .string (args.defSp.getD "No def sp")),
      ("ataSp", .string (args.ataSp.getD "No ata sp")), ("obs", .string (args.obs.getD "No obs"))]

/-- The dictionary of the second write. -/
def idData (ref : Option String) : Fields := Fields.ofList [("id", .string (ref.getD "No Id"))]

/-- `documentID` is the key that `addDocument` draws for the new reference. -/
def saveOffer (currentUser : Option AuthUser) (documentID : String) (args : SaveArguments) :
    List Write :=
  match currentUser with
  | none => []
  | some userData =>
    -- the dictionary is evaluated before `addDocument` has returned its reference
    let ref : Option String := none
    let first := Write.setData documentID (args.data userData ref)
    let ref := some documentID
    [first, .updateData documentID (idData ref)]

/-! ## The loaders -/

/-- The answer to a query. -/
structure QueryAnswer where
  documents : Option (List (String × Fields))
  err : Option String

/-- The answer a reachable backend gives. -/
def QueryAnswer.ofDocuments (documents : List (String × Fields)) : QueryAnswer where
  documents := some documents
  err := none

/-- One document as `loadOffers` reads it. -/
def decodeOffer (data : Fields) : Option OfertaElement := do
  let telefoneText ← data.string "telefone"
  let userName ← data.string "userName"
  let emailText ← data.string "email"
  let nameText ← data.string "name"
  let urlText ← data.string "url"
  let gameText ← data.string "game"
  let nvText ← data.string "nv"
  let hpText ← data.string "hp"
  let ataText ← data.string "ata"
  let defText ← data.string "def"
  let velText ← data.string "vel"
  let ataSpText ← data.string "ataSp"
  let defSpText ← data.string "defSp"
  let obsText ← data.string "obs"
  let officialArt : OfficialArtwork := { imagePath := some urlText }
  let other : Other := { dreamWorld := none, officialArtwork := some officialArt }
  let sprites : Sprites := { other := some other }
  let pokeData : PokeData :=
    { id := none, name := some nameText, sprites := some sprites, stats := none }
  let pokemon := Pokemon.init urlText pokeData
  return {
    nv := some nvText, hp := some hpText, defesa := some defText, ata := some ataText,
    vel := some velText, defSp := some defSpText, ataSp := some ataSpText, game := some gameText,
    pokemon := some pokemon, observacoes := some obsText, ofertaID := none, nome := some userName,
    email := some emailText, telefone := some telefoneText }

/-- One document as `loadOffersForIUD` reads it; the contact comes from the session. -/
def decodeOwnOffer (currentUser : Option AuthUser) (data : Fields) : Option OfertaElement := do
  let idText ← data.string "id"
  let userName ← data.string "userName"
  let nameText ← data.string "name"
  let urlText ← data.string "url"
  let gameText ← data.string "game"
  let nvText ← data.string "nv"
  let hpText ← data.string "hp"
  let ataText ← data.string "ata"
  let defText ← data.string "def"
  let velText ← data.string "vel"
  let ataSpText ← data.string "ataSp"
  let defSpText ← data.string "defSp"
  let obsText ← data.string "obs"
  let officialArt : OfficialArtwork := { imagePath := some urlText }
  let other : Other := { dreamWorld := none, officialArtwork := some officialArt }
  let sprites : Sprites := { other := some other }
  let pokeData : PokeData :=
    { id := none, name := some nameText, sprites := some sprites, stats := none }
  let pokemon := Pokemon.init urlText pokeData
  return {
    id := some idText, nv := some nvText, hp := some hpText, defesa := some defText,
    ata := some ataText, vel := some velText, defSp := some defSpText, ataSp := some ataSpText,
    game := some gameText, pokemon := some pokemon, observacoes := some obsText, ofertaID := none,
    nome := some userName, email := currentUser.bind AuthUser.email,
    telefone := currentUser.bind AuthUser.phoneNumber }

/-- The loop over the documents: append what decodes. -/
def appendDecoded (decode : Fields → Option OfertaElement) (documents : List (String × Fields)) :
    List OfertaElement :=
  documents.foldl (fun ofertas doc ↦ match decode doc.2 with
    | some newOfer => ofertas ++ [newOfer]
    | none => ofertas) []

/-- What the completion is called with, if it is called. -/
def loadOffers (answer : QueryAnswer) : Option (Option Ofertas × Option String) :=
  match answer.err with
  | some _ => none
  | none =>
    let ofertas := appendDecoded decodeOffer (answer.documents.getD [])
    some (some { ofertas := some ofertas }, none)

/-- The documents `loadOffersForIUD` asks for. -/
def ownDocuments (currentUser : Option AuthUser) (t : Collection) : List (String × Fields) :=
  whereField t "uid" ((currentUser.map AuthUser.uid).getD "")

def loadOffersForIUD (currentUser : Option AuthUser) (answer : QueryAnswer) :
    Option (Option Ofertas × Option String) :=
  match answer.err with
  | some _ => none
  | none =>
    let ofertas := appendDecoded (decodeOwnOffer currentUser) (answer.documents.getD [])
    some (some { ofertas := some ofertas }, none)

/-! ## The loop as a filter -/

theorem foldl_append_decoded (decode : Fields → Option OfertaElement) :
    ∀ (documents : List (String × Fields)) (ofertas : List OfertaElement),
      documents.foldl (fun ofertas doc ↦ match decode doc.2 with
        | some newOfer => ofertas ++ [newOfer]
        | none => ofertas) ofertas
      = ofertas ++ documents.filterMap fun doc ↦ decode doc.2 := by
  intro documents
  induction documents with
  | nil => intro ofertas; rw [List.foldl_nil, List.filterMap_nil, List.append_nil]
  | cons doc documents ih =>
    intro ofertas
    rw [List.foldl_cons, ih, List.filterMap_cons]
    cases decode doc.2 with
    | none => rfl
    | some newOfer => simp only [List.append_assoc, List.singleton_append]

/-- The loop keeps the documents that decode, in order, and drops the others. -/
theorem appendDecoded_eq (decode : Fields → Option OfertaElement)
    (documents : List (String × Fields)) :
    appendDecoded decode documents = documents.filterMap fun doc ↦ decode doc.2 := by
  rw [appendDecoded, foldl_append_decoded, List.nil_append]

end Poketrader
