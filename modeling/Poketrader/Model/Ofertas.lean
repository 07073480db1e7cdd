import Poketrader.Model.Pokemon

/-!
# Offers as the screens hold them

Every attribute is optional: which of them a loader fills is a fact about that loader, not about
the type.
-/

namespace Poketrader

/-- One offer. `defesa` is the source's `def`. -/
structure OfertaElement where
  id : Option String := none
  nv : Option String := none
  hp : Option String := none
  defesa : Option String := none
  ata : Option String := none
  vel : Option String := none
  defSp : Option String := none
  ataSp : Option String := none
  game : Option String := none
  pokemon : Option Pokemon := none
  observacoes : Option String := none
  ofertaID : Option ℤ := none
  nome : Option String := none
  email : Option String := none
  telefone : Option String := none
  deriving DecidableEq

/-- `pokemon?.sprite! ?? ""`, as the screens read the picture of an offer; `none` is the trap. -/
def OfertaElement.urlText (oferta : OfertaElement) : Option String :=
  match oferta.pokemon with
  | some pokemon => pokemon.sprite
  | none => some ""

/-- A list of offers. -/
structure Ofertas where
  ofertas : Option (List OfertaElement) := none
  deriving DecidableEq

end Poketrader
