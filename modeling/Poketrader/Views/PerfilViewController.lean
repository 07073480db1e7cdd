import Poketrader.Document.Fields
import Poketrader.Network.AuthenticationWorker
import Poketrader.Network.OfertasWorker
import Poketrader.Views.BaseViewController

/-!
# The profile screen

The two fields of the profile that are kept in the document of the user in `telefones`, and the
requests of the screen: for the address of the picture, whose bytes are then read, for the document,
and those of each save. All of them are answered by callbacks.
-/

open Document

namespace Poketrader

structure PerfilViewController where
  telephoneTextField : String
  consoleTextField : String
  deriving DecidableEq

/-- `getTelephone` once the document has been read, or found missing: the fields are filled only if
the document has both keys. -/
def PerfilViewController.getTelephone (vc : PerfilViewController) (document : Option Fields) :
    PerfilViewController :=
  match document with
  | some data =>
    match data "telefone", data "console" with
    | some teamInfo, some console =>
      { telephoneTextField := teamInfo.asString.getD ""
        consoleTextField := console.asString.getD "" }
    | _, _ => vc
  | none => vc

/-- The screen with its overlay and its requests. -/
structure PerfilScreen where
  base : BaseViewController
  currentUser : Option AuthUser
  fields : PerfilViewController
  /-- The bytes the picture was made from. -/
  iconUser : Option (List UInt8)
  /-- The request for the address of the picture has not been answered. -/
  fetching : Bool
  /-- The document has not been read. -/
  reading : Bool
  /-- The saves. -/
  saves : List Operation

namespace PerfilScreen

inductive Act where
  /-- The address of the picture has come, or an error; `contents` is what reading the address
  yields. -/
  | downloadURL (url error : Option String) (contents : Option (List UInt8))
  | getDocument (document : Option Fields)
  /-- The button is pressed on fields that pass the check. -/
  | pressedSalvarButton (profile : Profile)
  /-- A callback of the `i`-th save runs. -/
  | callback (i : ℕ) (callback : Callback)

/-- The screen once `viewDidLoad` has returned: both requests are made for a user only. -/
def viewDidLoad (currentUser : Option AuthUser) : PerfilScreen where
  base := .loading
  currentUser := currentUser
  fields := ⟨(currentUser.bind AuthUser.phoneNumber).getD "", ""⟩
  iconUser := none
  fetching := currentUser.isSome
  reading := currentUser.isSome
  saves := []

/-- `fetchImage` once the address has come. -/
def fetchImage (s : PerfilScreen) (url error : Option String) (contents : Option (List UInt8)) :
    PerfilScreen :=
  match error with
  | some _ => s
  | none =>
    match url with
    | some _ =>
      match contents with
      | some data => { s with iconUser := some data, base := s.base.hiddenLoading }
      | none => s
    | none => s

/-- `none` where the action cannot happen, or traps. -/
def step (s : PerfilScreen) : Act → Option PerfilScreen
  | .downloadURL url error contents =>
    if s.fetching then some { s.fetchImage url error contents with fetching := false } else none
  | .getDocument document =>
    if s.reading then some { s with fields := s.fields.getTelephone document, reading := false }
    else none
  | .pressedSalvarButton profile =>
    (AuthenticationWorker.upload profile (s.currentUser.map AuthUser.uid)).map fun op ↦
      { s with saves := s.saves ++ [op] }
  | .callback i callback =>
    s.saves[i]?.bind fun op ↦ (op.step callback).map fun op ↦ { s with saves := s.saves.set i op }

def machine (currentUser : Option AuthUser) : Machine PerfilScreen Act where
  start := viewDidLoad currentUser
  step := step

/-- Every request has been answered. -/
structure Quiescent (s : PerfilScreen) : Prop where
  fetching : s.fetching = false
  reading : s.reading = false
  saves : ∀ op ∈ s.saves, op.pending = []

end PerfilScreen

end Poketrader
