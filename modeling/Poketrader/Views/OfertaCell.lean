import Poketrader.Foundation.Platform
import Poketrader.Model.Ofertas
import Poketrader.Transition.Machine

/-!
# The cell of an offer

A table hands its cells out again, so one cell is set up with one offer after another. Each set-up
writes the labels and starts the download of the picture, if the offer has a URL for it; the picture
is replaced by the block that a download puts on the main queue when it is answered. Nothing resets
the picture in between.

Bytes become a picture through `UIImage`, which is a parameter.
-/

open Foundation

namespace Poketrader

/-- What the image view of a cell shows. -/
inductive Picture (ι : Type) where
  /-- The picture of the nib. -/
  | placeholder
  /-- A picture that came from the URL. -/
  | downloaded (url : String) (image : ι)
  deriving DecidableEq

structure OfertaCell (ι : Type) where
  imagemPkmn : Option (Picture ι)
  nomePkmn : Option String
  tituloJogo : Option String
  nomeJogador : Option String
  /-- The offer whose texts the labels show. -/
  oferta : Option OfertaElement
  /-- The URLs of the downloads that have not been answered. -/
  downloads : List String
  /-- The blocks on the main queue: bytes, and the URL they came from. -/
  mainBlocks : List (String × List UInt8)

namespace OfertaCell

variable {ι : Type} (P : Platform) (UIImage : List UInt8 → Option ι)

inductive Act where
  /-- The cell is handed out for a row. -/
  | setup (oferta : Option OfertaElement)
  /-- The `i`-th download is answered. -/
  | respond (i : ℕ) (data : Option (List UInt8)) (error : Option String)
  /-- The oldest block of the main queue runs. -/
  | runMain

def awakeFromNib : OfertaCell ι := ⟨some .placeholder, none, none, none, none, [], []⟩

/-- `downloadImage`, up to the answer. -/
def downloadImage (cell : OfertaCell ι) (url : String) : OfertaCell ι :=
  { cell with downloads := cell.downloads ++ [url] }

/-- `none` is a trap. -/
def setup (cell : OfertaCell ι) (oferta : Option OfertaElement) : Option (OfertaCell ι) :=
  match oferta with
  | none => some cell
  | some oferta => do
    let nomePkmn := oferta.pokemon.bind Pokemon.name
    let game ← oferta.game
    let nv ← oferta.nv
    let cell := { cell with
      nomePkmn
      tituloJogo := some ("Jogo: " ++ game)
      nomeJogador := some ("Nv: " ++ nv)
      oferta := some oferta }
    let urlText ← oferta.urlText
    match P.URL urlText with
    | some _url => return cell.downloadImage _url
    -- no picture is to come, and the one of the offer before stays
    | none => return cell

/-- The completion of a download. -/
def answered (cell : OfertaCell ι) (url : String) (data : Option (List UInt8))
    (error : Option String) : OfertaCell ι :=
  match data, error with
  | some data, none => { cell with mainBlocks := cell.mainBlocks ++ [(url, data)] }
  | _, _ => cell

/-- `none` where the action cannot happen, or traps. -/
def step (cell : OfertaCell ι) : Act → Option (OfertaCell ι)
  | .setup oferta => cell.setup P oferta
  | .respond i data error => (cell.downloads[i]?).map fun url ↦
      answered { cell with downloads := cell.downloads.eraseIdx i } url data error
  | .runMain =>
    match cell.mainBlocks with
    | [] => none
    | (url, data) :: mainBlocks => some { cell with
        imagemPkmn := (UIImage data).map (.downloaded url)
        mainBlocks }

/-- A cell from the nib on. -/
def machine : Machine (OfertaCell ι) Act where
  start := awakeFromNib
  step := step P UIImage

/-! ## What a step does to picture and offer -/

variable {P UIImage} {cell cell' : OfertaCell ι}

@[simp] theorem answered_imagemPkmn (url : String) (data : Option (List UInt8))
    (error : Option String) : (cell.answered url data error).imagemPkmn = cell.imagemPkmn := by
  unfold answered
  split <;> rfl

@[simp] theorem answered_oferta (url : String) (data : Option (List UInt8))
    (error : Option String) : (cell.answered url data error).oferta = cell.oferta := by
  unfold answered
  split <;> rfl

/-- The labels change to those of the offer, and the picture does not change. -/
theorem setup_some {oferta : OfertaElement} (h : cell.setup P (some oferta) = some cell') :
    cell'.imagemPkmn = cell.imagemPkmn ∧ cell'.oferta = some oferta := by
  simp only [setup, Option.bind_eq_bind, Option.bind_eq_some_iff] at h
  obtain ⟨game, -, nv, -, urlText, -, h⟩ := h
  split at h
  · obtain rfl := Option.some_inj.mp h
    exact ⟨rfl, rfl⟩
  · obtain rfl := Option.some_inj.mp h
    exact ⟨rfl, rfl⟩

end OfertaCell

end Poketrader
