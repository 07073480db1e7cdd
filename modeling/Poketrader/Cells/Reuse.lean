import Poketrader.Views.OfertaCell

/-!
# Reused cells

A cell that already shows a picture keeps it when it is handed out again, and a picture that comes
late is shown whatever the cell has been handed out for since. The picture is that of the offer
displayed exactly as long as neither happens.
-/

open Foundation

namespace Poketrader

namespace OfertaCell

variable {ι : Type} (P : Platform) (UIImage : List UInt8 → Option ι)

/-- The URL of the picture of an offer, if there is one. -/
def pictureURL (oferta : OfertaElement) : Option String := oferta.urlText.bind P.URL

/-- The picture, if it was downloaded at all, came from the URL of the offer displayed. -/
def OwnPicture (cell : OfertaCell ι) : Prop :=
  ∀ url image, cell.imagemPkmn = some (.downloaded url image) →
    cell.oferta.bind (pictureURL P) = some url

/-- A downloaded picture is shown. -/
def ShowsDownload (cell : OfertaCell ι) : Prop :=
  ∃ url image, cell.imagemPkmn = some (.downloaded url image)

/-- The offer does not change under a picture, and no picture comes in for an offer that is not
displayed any more. -/
def InTime (cell : OfertaCell ι) : Act → Prop
  | .setup (some oferta) =>
    cell.ShowsDownload → pictureURL P oferta = cell.oferta.bind (pictureURL P)
  | .runMain => ∀ block ∈ cell.mainBlocks.head?, (UIImage block.2).isSome = true →
      cell.oferta.bind (pictureURL P) = some block.1
  | .setup none | .respond _ _ _ => True

variable {P UIImage}

/-- One step: the picture stays that of the offer exactly if the step is in time. -/
theorem ownPicture_step_iff {cell cell' : OfertaCell ι} {a : Act} (h : OwnPicture P cell)
    (hstep : (machine P UIImage).step cell a = some cell') :
    OwnPicture P cell' ↔ InTime P UIImage cell a := by
  cases a with
  | setup oferta =>
    cases oferta with
    | none =>
      obtain rfl := Option.some_inj.mp hstep
      exact iff_of_true h trivial
    | some oferta =>
      obtain ⟨hpicture, hoferta⟩ := setup_some hstep
      simp only [OwnPicture, InTime, hpicture, hoferta, Option.bind_some]
      constructor
      · rintro hown ⟨url, image, hshown⟩
        rw [hown url image hshown, h url image hshown]
      · intro hsame url image hshown
        rw [hsame ⟨url, image, hshown⟩, h url image hshown]
  | respond i data error =>
    obtain ⟨url, -, rfl⟩ := Option.map_eq_some_iff.mp hstep
    refine iff_of_true ?_ trivial
    intro url' image hshown
    rw [answered_imagemPkmn] at hshown
    rw [answered_oferta]
    exact h url' image hshown
  | runMain =>
    simp only [machine, step] at hstep
    split at hstep
    · exact absurd hstep (by simp)
    · next url data mainBlocks hblocks =>
      obtain rfl := Option.some_inj.mp hstep
      simp only [OwnPicture, InTime, hblocks, List.head?_cons, Option.mem_some_iff, forall_eq',
        Option.map_eq_some_iff, Picture.downloaded.injEq]
      constructor
      · intro hown himage
        obtain ⟨image, himage⟩ := Option.isSome_iff_exists.mp himage
        exact hown url image ⟨image, himage, rfl, rfl⟩
      · rintro hoferta url' image ⟨image', himage, rfl, rfl⟩
        exact hoferta (Option.isSome_iff_exists.mpr ⟨image', himage⟩)

/-- **A reused cell shows the picture of its offer** all along a run exactly if no offer but one
with the same picture is set up under a downloaded picture, and no picture is delivered that is not
of the offer displayed. -/
theorem always_ownPicture_iff (P : Platform) (UIImage : List UInt8 → Option ι) (acts : List Act) :
    (machine P UIImage).Always (OwnPicture P) (machine P UIImage).start acts
      ↔ (machine P UIImage).Allowed (InTime P UIImage) (machine P UIImage).start acts := by
  refine Machine.always_iff_allowed (I := fun _ ↦ True) (fun _ _ _ _ _ ↦ trivial)
    (fun _ _ _ _ h hstep ↦ ownPicture_step_iff h hstep) trivial ?_
  intro url image h
  exact absurd (Option.some_inj.mp h) (by simp)

/-- An offer as the feed hands it to a cell. -/
def sampleOffer (name url : String) : OfertaElement where
  game := some "Red"
  nv := some "5"
  pokemon := some (Pokemon.init url { id := none, name := some name, sprites := none,
                                       stats := none })

/-- A cell is handed out for a second offer while the picture of the first is on its way, and the
answers come in the other order; then it is handed out for an offer without a picture. -/
def reuseActs : List Act :=
  [.setup (some (sampleOffer "pikachu" "https://art/25.png")),
    .setup (some (sampleOffer "raichu" "https://art/26.png")), .respond 1 (some [26]) none,
    .respond 0 (some [25]) none, .runMain, .runMain, .setup (some (sampleOffer "eevee" ""))]

/-- At the end nothing is under way, and one offer is shown with the picture of another. -/
theorem reuseActs_mismatch :
    ∃ cell, (machine .ascii some).run reuseActs = some cell ∧
      cell.nomePkmn = some "eevee" ∧
      cell.imagemPkmn = some (.downloaded "https://art/25.png" [25]) ∧
      cell.downloads = [] ∧ cell.mainBlocks = [] ∧ ¬OwnPicture .ascii cell := by
  refine ⟨((machine .ascii some).run reuseActs).getD awakeFromNib, by rfl, by rfl, by rfl, by rfl,
    by rfl, fun h ↦ ?_⟩
  have hurl := h "https://art/25.png" [25] (by rfl)
  exact absurd hurl (by decide)

end OfertaCell

end Poketrader
