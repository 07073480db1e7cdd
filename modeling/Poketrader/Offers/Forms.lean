import Mathlib.Logic.Function.Basic
import Poketrader.Foundation.Platform
import Poketrader.Offers.RoundTrip
import Poketrader.Transition.Machine
import Poketrader.Views.MeuAnuncioViewController

/-!
# The two offer forms

Any number of devices, each with the add-offer form and, once one of the user's offers has been
opened, the edit screen. Both forms are edited as text fields are: a range and a replacement are
proposed, and the form is asked. What the two buttons of a screen write travels, and is stored or
rejected in any order; what a query finds travels back.

Who is signed in may change from one step to the next, so it is part of the step.
-/

open Document Foundation

namespace Poketrader

namespace OfferForms

open MeuAnuncioViewController (viewDidLoad)

/-- An open edit screen. -/
structure EditScreen where
  oferta : OfertaElement
  texts : OfferTexts

/-- The screens of a device. -/
structure Device where
  add : AddPokemonViewController
  /-- The user's own offers, as they were last loaded. -/
  ofertas : List OfertaElement
  screen : Option EditScreen

/-- The add-offer screen as it opens. -/
def opened : AddPokemonViewController where
  form := .empty
  namePokemon := none
  phoneNumber := none
  controller := { pokemon := none }

/-- What happens at a device. -/
inductive Input where
  | edit (textField : AddPokemonTextField) (range : NSRange) (string : String)
  | editDescription (range : NSRange) (string : String)
  | sendDataToCadastroVC (nomePokemon : String) (response : AFResponse)
  | getTelephone (document : Option Fields)
  | addPokemon (currentUser : Option AuthUser) (documentID : String)
  /-- The add-offer screen is left, to be opened anew. -/
  | cancelPokemon
  /-- A row of the list is tapped. -/
  | openScreen (row : ℕ)
  | editStat (textField : OfferStat) (range : NSRange) (string : String)
  | editObs (range : NSRange) (string : String)
  | pressedEditarButton
  | pressedExcluirButton

/-- The device afterwards and the writes issued. -/
def Device.step (P : Platform) (dev : Device) : Input → Option (Device × List Write)
  | .edit textField range string => (dev.add.form.edit textField range string).map fun form ↦
      ({ dev with add := { dev.add with form } }, [])
  | .editDescription range string => (dev.add.form.editDescription range string).map fun form ↦
      ({ dev with add := { dev.add with form } }, [])
  | .sendDataToCadastroVC nomePokemon response =>
    some ({ dev with add := dev.add.sendDataToCadastroVC P nomePokemon response }, [])
  | .getTelephone document => some ({ dev with add := dev.add.getTelephone document }, [])
  | .addPokemon currentUser documentID =>
    let press := dev.add.addPokemon currentUser documentID
    some ({ dev with add := press.screen }, press.writes)
  | .cancelPokemon => some ({ dev with add := opened }, [])
  | .openScreen row => (dev.ofertas[row]?).map fun oferta ↦
      ({ dev with screen := some ⟨oferta, viewDidLoad oferta⟩ }, [])
  | .editStat textField range string => dev.screen.bind fun screen ↦
      (MeuAnuncioViewController.edit screen.texts textField range string).map fun texts ↦
        ({ dev with screen := some { screen with texts } }, [])
  | .editObs range string => dev.screen.bind fun screen ↦
      (MeuAnuncioViewController.editObs screen.texts range string).map fun texts ↦
        ({ dev with screen := some { screen with texts } }, [])
  | .pressedEditarButton => dev.screen.bind fun screen ↦
      (MeuAnuncioViewController.pressedEditarButton (some screen.oferta) screen.texts).map
        fun write ↦ (dev, [write])
  | .pressedExcluirButton => dev.screen.bind fun screen ↦
      (MeuAnuncioViewController.pressedExcluirButton screen.oferta).map fun write ↦ (dev, [write])

structure State where
  anuncio : Collection
  devices : ℕ → Device
  /-- The answers on their way, each to its device. -/
  answers : List (ℕ × List OfertaElement)
  /-- The writes on their way. -/
  writes : List Write

inductive Act where
  | input (device : ℕ) (input : Input)
  /-- The query of a device is evaluated. -/
  | loadOffersForIUD (device : ℕ) (currentUser : Option AuthUser)
  /-- The `i`-th answer on its way arrives. -/
  | respond (i : ℕ)
  /-- The `i`-th write on its way is applied. -/
  | store (i : ℕ)
  /-- The `i`-th write on its way is rejected. -/
  | reject (i : ℕ)

/-- What `loadOffersForIUD` brings. -/
def loaded (currentUser : Option AuthUser) (t : Collection) : List OfertaElement :=
  match loadOffersForIUD currentUser (.ofDocuments (ownDocuments currentUser t)) with
  | some (some ofertas, _) => ofertas.ofertas.getD []
  | _ => []

def step (P : Platform) (s : State) : Act → Option State
  | .input device input => ((s.devices device).step P input).map fun (dev, writes) ↦
      { s with
        devices := Function.update s.devices device dev
        writes := s.writes ++ writes }
  | .loadOffersForIUD device currentUser =>
    some { s with answers := s.answers ++ [(device, loaded currentUser s.anuncio)] }
  | .respond i => (s.answers[i]?).map fun (device, ofertas) ↦
      { s with
        answers := s.answers.eraseIdx i
        devices := Function.update s.devices device { s.devices device with ofertas } }
  | .store i => (s.writes[i]?).map fun write ↦
      { s with anuncio := write.commit s.anuncio, writes := s.writes.eraseIdx i }
  | .reject i => (s.writes[i]?).map fun _ ↦ { s with writes := s.writes.eraseIdx i }

/-- Empty forms and an empty collection. -/
def machine (P : Platform) : Machine State Act where
  start := ⟨∅, fun _ ↦ ⟨opened, [], none⟩, [], []⟩
  step := step P

/-! ## What the steps do -/

/-- An offer that was loaded is a document of the collection. -/
theorem exists_document_of_mem_loaded {currentUser : Option AuthUser} {t : Collection}
    {oferta : OfertaElement} (h : oferta ∈ loaded currentUser t) :
    ∃ (k : String) (data : Fields), t[k]? = some data ∧
      decodeOwnOffer currentUser data = some oferta := by
  have hloaded : loaded currentUser t
      = appendDecoded (decodeOwnOffer currentUser) (ownDocuments currentUser t) := rfl
  rw [hloaded, appendDecoded_eq, List.mem_filterMap] at h
  obtain ⟨⟨k, data⟩, hmem, hdecode⟩ := h
  exact ⟨k, data, (mem_whereField_iff.mp hmem).1, hdecode⟩

/-- Asking for an edit and then applying it computes the new text twice, with one result. -/
theorem map_bind_decide {β : Type*} (o : Option String) (p : String → Prop) [DecidablePred p]
    (f : String → β) (b : β) :
    ((o.map fun text ↦ decide (p text)).bind fun shouldChange ↦
      if shouldChange = true then o.map f else some b)
      = o.map fun text ↦ if p text then f text else b := by
  rcases o with - | text
  · rfl
  · simp only [Option.map_some, Option.bind_some, decide_eq_true_eq]
    split <;> rfl

/-- An edit of the title is applied, whatever its length. -/
theorem edit_gameTitle (form : AddPokemonForm) (range : NSRange) (string : String) :
    form.edit .gameTitle range string
      = (replacingCharacters form.gameTitle range string).map (form.setText .gameTitle) := rfl

/-- An edit of another field is applied if the new text has at most three units. -/
theorem edit_stat (form : AddPokemonForm) (stat : OfferStat) (range : NSRange)
    (string : String) :
    form.edit (.stat stat) range string
      = (replacingCharacters (form.text (.stat stat)) range string).map fun text ↦
        if utf16Length text ≤ 3 then form.setText (.stat stat) text else form :=
  map_bind_decide _ _ _ _

/-- So is every edit of the status on the edit screen. -/
theorem edit_texts (texts : OfferTexts) (stat : OfferStat) (range : NSRange) (string : String) :
    MeuAnuncioViewController.edit texts stat range string
      = (replacingCharacters (texts.get stat.attr) range string).map fun text ↦
        if utf16Length text ≤ 3 then texts.set stat.attr text else texts :=
  map_bind_decide _ _ _ _

end OfferForms

end Poketrader
