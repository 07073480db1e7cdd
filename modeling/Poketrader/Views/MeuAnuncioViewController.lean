import Poketrader.Foundation.Platform
import Poketrader.Foundation.UTF16
import Poketrader.Network.OfertasWorker

/-!
# The edit screen

The owner's screen of an offer: eight fields, filled once from the offer the screen was handed, one
button that writes all eight back and one that deletes the offer.
-/

open Document Foundation

namespace Poketrader

/-- The attributes that can be edited. -/
inductive Attr where
  | nv | hp | defesa | ata | vel | ataSp | defSp | obs
  deriving DecidableEq

/-- A text field of the status as one of the attributes. -/
def OfferStat.attr : OfferStat → Attr
  | nv => .nv
  | hp => .hp
  | defesa => .defesa
  | ata => .ata
  | vel => .vel
  | ataSp => .ataSp
  | defSp => .defSp

theorem OfferStat.attr_injective {stat other : OfferStat} (h : other.attr = stat.attr) :
    other = stat := by
  rcases stat with - | - | - | - | - | - | - <;> rcases other with - | - | - | - | - | - | - <;>
    first | rfl | exact absurd h (by decide)

theorem OfferStat.attr_ne_obs (stat : OfferStat) : stat.attr ≠ .obs := by
  rcases stat with - | - | - | - | - | - | - <;> decide

/-- The field of the document that stores an attribute. -/
def Attr.key : Attr → String
  | nv => "nv"
  | hp => "hp"
  | defesa => "def"
  | ata => "ata"
  | vel => "vel"
  | ataSp => "ataSp"
  | defSp => "defSp"
  | obs => "obs"

namespace OfferTexts

def get (texts : OfferTexts) : Attr → String
  | .nv => texts.nv
  | .hp => texts.hp
  | .defesa => texts.defesa
  | .ata => texts.ata
  | .vel => texts.vel
  | .ataSp => texts.ataSp
  | .defSp => texts.defSp
  | .obs => texts.obs

def set (texts : OfferTexts) (a : Attr) (text : String) : OfferTexts :=
  match a with
  | .nv => { texts with nv := text }
  | .hp => { texts with hp := text }
  | .defesa => { texts with defesa := text }
  | .ata => { texts with ata := text }
  | .vel => { texts with vel := text }
  | .ataSp => { texts with ataSp := text }
  | .defSp => { texts with defSp := text }
  | .obs => { texts with obs := text }

theorem get_set_self (texts : OfferTexts) (a : Attr) (text : String) :
    (texts.set a text).get a = text := by
  rcases a with - | - | - | - | - | - | - | - <;> rfl

theorem get_set_of_ne (texts : OfferTexts) {a b : Attr} (h : b ≠ a) (text : String) :
    (texts.set a text).get b = texts.get b := by
  rcases a with - | - | - | - | - | - | - | - <;>
    rcases b with - | - | - | - | - | - | - | - <;> first | rfl | exact absurd rfl h

end OfferTexts

namespace MeuAnuncioViewController

/-- The texts of the fields as the screen opens. A field without a text is empty. -/
def viewDidLoad (oferta : OfertaElement) : OfferTexts where
  nv := oferta.nv.getD ""
  hp := oferta.hp.getD ""
  defesa := oferta.defesa.getD ""
  ata := oferta.ata.getD ""
  vel := oferta.vel.getD ""
  ataSp := oferta.ataSp.getD ""
  defSp := oferta.defSp.getD ""
  obs := oferta.observacoes.getD ""

/-- `textField(_:shouldChangeCharactersIn:replacementString:)`. `none` is the exception of a range
that is not within the text. -/
def shouldChangeCharactersIn (texts : OfferTexts) (textField : OfferStat) (range : NSRange)
    (string : String) : Option Bool :=
  let maxLength := 3
  (replacingCharacters (texts.get textField.attr) range string).map fun newString ↦
    utf16Length newString ≤ maxLength

/-- A proposed edit, applied by the field if the screen lets it. -/
def edit (texts : OfferTexts) (textField : OfferStat) (range : NSRange) (string : String) :
    Option OfferTexts :=
  (shouldChangeCharactersIn texts textField range string).bind fun shouldChange ↦
    if shouldChange then
      (replacingCharacters (texts.get textField.attr) range string).map
        (texts.set textField.attr)
    else some texts

/-- An edit of the observations, whose text view asks nobody. -/
def editObs (texts : OfferTexts) (range : NSRange) (string : String) : Option OfferTexts :=
  (replacingCharacters texts.obs range string).map (texts.set .obs)

/-- The URL whose download `viewDidLoad` starts, if there is one; the outer `none` is the trap. -/
def picture (P : Platform) (oferta : OfertaElement) : Option (Option String) :=
  oferta.urlText.map P.URL

/-- `pressedEditarButton` through `MeuAnuncioController.editOffer`; `none` is the trap at
`offer.id!`. -/
def pressedEditarButton (oferta : Option OfertaElement) (texts : OfferTexts) : Option Write :=
  updateOffer (oferta.getD {}) texts

/-- `pressedExcluirButton` on the offer the screen shows; `none` is the trap at `id!`. -/
def pressedExcluirButton (oferta : OfertaElement) : Option Write := oferta.id.map deleteOffer

end MeuAnuncioViewController

end Poketrader
