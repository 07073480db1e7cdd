import Poketrader.Transition.Machine
import Poketrader.Views.AnuncioViewController
import Poketrader.Views.BaseViewController
import Poketrader.Views.MeuAnuncioViewController

/-!
# The screens of one offer

Both screens show the overlay, ask the controller for the offer and, if there is one, put a block on
the main queue that fills the screen, starts the download of the picture and hides the overlay. The
download is answered by a callback, which puts a second block on the queue.

The screens are one machine. What tells them apart is `pressed`: the write that a button issues. The
reader's screen has no button that writes.
-/

open Document Foundation

namespace Poketrader

structure OfferScreen where
  base : BaseViewController
  /-- The offer of the controller. -/
  oferta : Option OfertaElement
  /-- The offer of the block that fills the screen, until the block has run. -/
  filling : Option OfertaElement
  /-- The URL of the download, until it is answered. -/
  download : Option String
  /-- The bytes of the block that sets the picture, until the block has run. -/
  image : Option (List UInt8)
  /-- The bytes the picture was made from. -/
  pokemonImage : Option (List UInt8)
  /-- The writes that have not been answered. -/
  writes : List Write

namespace OfferScreen

inductive Act (β : Type) where
  /-- The block that fills the screen runs. -/
  | fill
  /-- The download is answered. -/
  | respond (data : Option (List UInt8)) (error : Option String)
  /-- The block that sets the picture runs. -/
  | setImage
  | press (button : β)
  /-- The `i`-th write is answered. -/
  | written (i : ℕ)

/-- The screen once `viewDidLoad` has returned. -/
def viewDidLoad (oferta : Option OfertaElement) : OfferScreen where
  base := .loading
  oferta := oferta
  filling := (loadAnuncio oferta).1
  download := none
  image := none
  pokemonImage := none
  writes := []

section

variable {β : Type} (picture : OfertaElement → Option (Option String))
  (pressed : Option OfertaElement → β → Option Write)

/-- The end of the block that fills the screen. -/
def showPicture (s : OfferScreen) : Option String → OfferScreen
  | some url => { s with download := some url, base := s.base.hiddenLoading }
  | none => s

/-- `none` where the action cannot happen, or traps. -/
def step (s : OfferScreen) : Act β → Option OfferScreen
  | .fill =>
    s.filling.bind fun oferta ↦
      (picture oferta).map fun url ↦ { s.showPicture url with filling := none }
  | .respond data error =>
    s.download.map fun _ ↦
      -- `guard let data = data, error == nil`
      { s with download := none, image := if error.isNone then data else none }
  | .setImage => s.image.map fun data ↦ { s with image := none, pokemonImage := some data }
  | .press button => (pressed s.oferta button).map fun w ↦ { s with writes := s.writes ++ [w] }
  | .written i =>
    if i < s.writes.length then some { s with writes := s.writes.eraseIdx i } else none

def machine (oferta : Option OfertaElement) : Machine OfferScreen (Act β) where
  start := viewDidLoad oferta
  step := step picture pressed

/-- Every request has been answered and every block has run. -/
structure Quiescent (s : OfferScreen) : Prop where
  filling : s.filling = none
  download : s.download = none
  image : s.image = none
  writes : s.writes = []

end

end OfferScreen

def AnuncioViewController.machine (P : Platform) (oferta : Option OfertaElement) :
    Machine OfferScreen (OfferScreen.Act Empty) :=
  OfferScreen.machine (AnuncioViewController.picture P) (fun _ ↦ Empty.elim) oferta

namespace MeuAnuncioViewController

inductive Button where
  | editar (texts : OfferTexts)
  | excluir

/-- `none` is a trap. The screen keeps the offer of the completion, which is the controller's. -/
def pressed (oferta : Option OfertaElement) : Button → Option Write
  | .editar texts => pressedEditarButton oferta texts
  | .excluir => (loadAnuncio oferta).1.bind pressedExcluirButton

def machine (P : Platform) (oferta : Option OfertaElement) :
    Machine OfferScreen (OfferScreen.Act Button) :=
  OfferScreen.machine (picture P) pressed oferta

end MeuAnuncioViewController

end Poketrader
