import Poketrader.Foundation.Platform
import Poketrader.Model.Ofertas

/-!
# The screen of an offer

The row tapped in the feed is handed to the screen's controller, which hands it back once the
screen has loaded; the screen then copies its attributes into the labels and starts the download of
its picture.
-/

open Foundation

namespace Poketrader

/-- The text of each label. -/
structure AnuncioLabels where
  nv : Option String
  hp : Option String
  defesa : Option String
  ataque : Option String
  velocidade : Option String
  ataqueSP : Option String
  defesaSP : Option String
  usuario : Option String
  email : Option String
  telefone : Option String
  jogo : Option String
  observacoes : Option String
  nomePokemon : Option String
  deriving DecidableEq

/-- `AnuncioController.loadAnuncio`: what its completion is called with. -/
def loadAnuncio (oferta : Option OfertaElement) : Option OfertaElement × Option String :=
  match oferta with
  | some oferta => (some oferta, none)
  | none => (none, some "deu ruim")

/-- The block `AnuncioViewController.viewDidLoad` dispatches, if it dispatches one. -/
def AnuncioViewController.viewDidLoad (oferta : Option OfertaElement) : Option AnuncioLabels :=
  (loadAnuncio oferta).1.map fun oferta ↦
    { nv := oferta.nv
      hp := oferta.hp
      defesa := oferta.defesa
      ataque := oferta.ata
      velocidade := oferta.vel
      ataqueSP := oferta.ataSp
      defesaSP := oferta.defSp
      usuario := oferta.nome
      email := oferta.email
      telefone := oferta.telefone
      jogo := oferta.game
      observacoes := oferta.observacoes
      nomePokemon := oferta.pokemon.bind Pokemon.name }

/-- The URL whose download the block starts, if there is one; the outer `none` is the trap. -/
def AnuncioViewController.picture (P : Platform) (oferta : OfertaElement) :
    Option (Option String) := oferta.urlText.map P.URL

end Poketrader
