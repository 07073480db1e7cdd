import Poketrader.Network.OfertasWorker
import Poketrader.Table.Rows

/-!
# The controllers of the two offer lists

The feed and the list of the user's own offers keep what their loader brought last, and answer for
the number of rows and the offer at a row. They differ in the loader and in how they report a load:
the feed hands on the offers, and an empty list where there was an error, while the other hands on
whether there was one.
-/

open Document

namespace Poketrader

namespace Ofertas

/-- `numberOfRows`, in both controllers. -/
def numberOfRows (ofertas : Option Ofertas) : ℕ := Table.count (ofertas.bind Ofertas.ofertas)

/-- `getOferta(at:)`, in both controllers. The outer `none` is the trap of the subscript. -/
def getOferta (ofertas : Option Ofertas) (posicao : ℕ) : Option (Option OfertaElement) :=
  Table.subscript (ofertas.bind Ofertas.ofertas) posicao

end Ofertas

/-! ## The feed -/

structure FeedController where
  ofertas : Option Ofertas

namespace FeedController

/-- `loadOfertas` once its worker has called back: the controller afterwards and what the
completion is called with. `none` is the trap at `ofertas!`. -/
def loadOfertas (controller : FeedController) (called : Option Ofertas × Option String) :
    Option (FeedController × Option Ofertas × Option String) :=
  match called with
  | (some ofertas, none) =>
    some ({ controller with ofertas := some ofertas }, some ofertas, some "")
  | (none, none) => none
  -- an empty list, so the feed takes even a failure for a result
  | (_, some _) => some (controller, some {}, some "deu ruim")

end FeedController

/-! ## The user's own offers -/

/-- The offer `setOferta` keeps belongs to another screen and is left out. -/
structure OfertasUsuarioController where
  ofertas : Option Ofertas

namespace OfertasUsuarioController

def loadOfertas (controller : OfertasUsuarioController) (called : Option Ofertas × Option String) :
    OfertasUsuarioController × Bool × Option String :=
  match called with
  | (ofertas, none) => ({ controller with ofertas }, true, some "")
  | (_, some _) => (controller, false, some "deu ruim")

end OfertasUsuarioController

end Poketrader
