import Poketrader.Views.OfferScreen
import Poketrader.Views.PerfilViewController

/-!
# The overlay of the screens with a picture

The screens of one offer hide their overlay once the download of the picture has begun, whatever it
brings; the profile hides its own once the picture is there. Neither has another place that does. So
what is missing for the picture keeps the overlay: no offer, a text that makes no URL, no user, no
address, no bytes.
-/

open Foundation

namespace Poketrader

namespace OfferScreen

variable {β : Type} {P : Platform} {picture : OfertaElement → Option (Option String)}
  {pressed : Option OfertaElement → β → Option Document.Write}

/-- The screen has an offer, and the text of its picture makes a URL. -/
def Pictured (P : Platform) (oferta : Option OfertaElement) : Prop :=
  ∃ o text, oferta = some o ∧ o.urlText = some text ∧ P.validURL text = true

/-- The block that fills the screen is pending and the overlay is shown, or the block has run and
has hidden it exactly if there was a picture. -/
structure Filled (P : Platform) (oferta : Option OfertaElement) (s : OfferScreen) : Prop where
  reached : s.base.Reached
  waiting : ∀ o, s.filling = some o → oferta = some o ∧ ¬s.base.Clear
  filled : s.filling = none → (s.base.Clear ↔ Pictured P oferta)

theorem filled_viewDidLoad (oferta : Option OfertaElement) :
    Filled P oferta (viewDidLoad oferta) := by
  have hshown : ¬BaseViewController.loading.Clear := BaseViewController.not_clear_showLoading _
  cases oferta with
  | none =>
    refine ⟨BaseViewController.reached_loading, fun o ho ↦ ⟨ho, hshown⟩, fun _ ↦ ?_⟩
    refine iff_of_false hshown ?_
    rintro ⟨o, text, ho, -⟩
    exact Option.some_ne_none o ho.symm
  | some oferta =>
    exact ⟨BaseViewController.reached_loading, fun _ ho ↦ ⟨ho, hshown⟩,
      fun hnone ↦ absurd hnone (Option.some_ne_none oferta)⟩

/-- Filling the screen hides the overlay exactly if there is a URL. -/
theorem clear_showPicture_iff {s : OfferScreen} (hreached : s.base.Reached)
    (hshown : ¬s.base.Clear) (url : Option String) :
    (s.showPicture url).base.Clear ↔ url.isSome = true := by
  cases url with
  | none => exact iff_of_false hshown Bool.false_ne_true
  | some url => exact iff_of_true (BaseViewController.clear_hiddenLoading_iff.mpr hreached) rfl

theorem reached_showPicture {s : OfferScreen} (hreached : s.base.Reached) (url : Option String) :
    (s.showPicture url).base.Reached := by
  cases url with
  | none => exact hreached
  | some url => exact BaseViewController.reached_hiddenLoading_iff.mpr hreached

/-- The URL the block finds is there exactly if the offer has one. -/
theorem pictured_iff_isSome {o : OfertaElement} {url : Option String}
    (hurl : o.urlText.map P.URL = some url) : Pictured P (some o) ↔ url.isSome = true := by
  obtain ⟨text, htext, rfl⟩ := Option.map_eq_some_iff.mp hurl
  constructor
  · rintro ⟨o', text', ho, htext', hvalid⟩
    obtain rfl := Option.some_inj.mp ho
    obtain rfl := Option.some_inj.mp (htext.symm.trans htext')
    exact P.isSome_URL_iff.mpr hvalid
  · intro hsome
    exact ⟨o, text, rfl, htext, P.isSome_URL_iff.mp hsome⟩

theorem Filled.step (hpicture : ∀ o, picture o = o.urlText.map P.URL)
    {oferta : Option OfertaElement} {s t : OfferScreen} {a : Act β} (hs : Filled P oferta s)
    (hstep : (machine picture pressed oferta).step s a = some t) : Filled P oferta t := by
  cases a with
  | fill =>
    obtain ⟨o, ho, hstep⟩ := Option.bind_eq_some_iff.mp hstep
    obtain ⟨url, hurl, rfl⟩ := Option.map_eq_some_iff.mp hstep
    obtain ⟨rfl, hshown⟩ := hs.waiting o ho
    rw [hpicture] at hurl
    refine ⟨reached_showPicture hs.reached url, fun o ho ↦ ?_, fun _ ↦ ?_⟩
    · exact absurd ho.symm (Option.some_ne_none o)
    · rw [pictured_iff_isSome hurl]
      exact clear_showPicture_iff hs.reached hshown url
  | respond data error =>
    obtain ⟨-, -, rfl⟩ := Option.map_eq_some_iff.mp hstep
    exact ⟨hs.reached, hs.waiting, hs.filled⟩
  | setImage =>
    obtain ⟨-, -, rfl⟩ := Option.map_eq_some_iff.mp hstep
    exact ⟨hs.reached, hs.waiting, hs.filled⟩
  | press button =>
    obtain ⟨-, -, rfl⟩ := Option.map_eq_some_iff.mp hstep
    exact ⟨hs.reached, hs.waiting, hs.filled⟩
  | written i =>
    obtain ⟨-, hstep⟩ := Option.ite_none_right_eq_some.mp hstep
    obtain rfl := Option.some_inj.mp hstep
    exact ⟨hs.reached, hs.waiting, hs.filled⟩

/-- The overlay of the screen of an offer is gone in the end exactly if the offer has a picture. -/
theorem clear_iff_of_run (hpicture : ∀ o, picture o = o.urlText.map P.URL)
    {oferta : Option OfertaElement} {acts : List (Act β)} {s : OfferScreen}
    (hrun : (machine picture pressed oferta).run acts = some s) (hquiet : s.Quiescent) :
    s.base.Clear ↔ Pictured P oferta := by
  have hfilled : Filled P oferta s := Machine.invariant
    (fun _ _ _ hs hstep ↦ hs.step hpicture hstep) (filled_viewDidLoad oferta) hrun
  exact hfilled.filled hquiet.filling

end OfferScreen

namespace PerfilScreen

/-- The address of the picture has come, and its bytes could be read. -/
def Act.Delivers : Act → Prop
  | .downloadURL url error contents =>
    error = none ∧ url.isSome = true ∧ contents.isSome = true
  | _ => False

theorem base_fetchImage (s : PerfilScreen) (url error : Option String)
    (contents : Option (List UInt8)) :
    let a := Act.downloadURL url error contents
    (a.Delivers ∧ (s.fetchImage url error contents).base = s.base.hiddenLoading) ∨
      (¬a.Delivers ∧ (s.fetchImage url error contents).base = s.base) := by
  rcases error with _ | error
  · rcases url with _ | url
    · exact Or.inr ⟨fun h ↦ Bool.false_ne_true h.2.1, rfl⟩
    · rcases contents with _ | data
      · exact Or.inr ⟨fun h ↦ Bool.false_ne_true h.2.2, rfl⟩
      · exact Or.inl ⟨⟨rfl, rfl, rfl⟩, rfl⟩
  · exact Or.inr ⟨fun h ↦ Option.some_ne_none error h.1, rfl⟩

/-- A step that delivers the picture hides the overlay, and no other touches it. -/
theorem base_step {currentUser : Option AuthUser} {s t : PerfilScreen} {a : Act}
    (hstep : (machine currentUser).step s a = some t) :
    (a.Delivers ∧ t.base = s.base.hiddenLoading) ∨ (¬a.Delivers ∧ t.base = s.base) := by
  cases a with
  | downloadURL url error contents =>
    obtain ⟨-, hstep⟩ := Option.ite_none_right_eq_some.mp hstep
    obtain rfl := Option.some_inj.mp hstep
    exact base_fetchImage s url error contents
  | getDocument document =>
    obtain ⟨-, hstep⟩ := Option.ite_none_right_eq_some.mp hstep
    obtain rfl := Option.some_inj.mp hstep
    exact Or.inr ⟨not_false, rfl⟩
  | pressedSalvarButton profile =>
    obtain ⟨-, -, rfl⟩ := Option.map_eq_some_iff.mp hstep
    exact Or.inr ⟨not_false, rfl⟩
  | callback i callback =>
    obtain ⟨op, -, hstep⟩ := Option.bind_eq_some_iff.mp hstep
    obtain ⟨-, -, rfl⟩ := Option.map_eq_some_iff.mp hstep
    exact Or.inr ⟨not_false, rfl⟩

theorem reached_step {currentUser : Option AuthUser} {s t : PerfilScreen} {a : Act}
    (hs : s.base.Reached) (hstep : (machine currentUser).step s a = some t) :
    t.base.Reached := by
  rcases base_step hstep with ⟨-, hbase⟩ | ⟨-, hbase⟩
  · rw [hbase]
    exact BaseViewController.reached_hiddenLoading_iff.mpr hs
  · rw [hbase]
    exact hs

theorem clear_step_iff {currentUser : Option AuthUser} {s t : PerfilScreen} {a : Act}
    (hs : s.base.Reached) (hstep : (machine currentUser).step s a = some t) :
    t.base.Clear ↔ s.base.Clear ∨ a.Delivers := by
  rcases base_step hstep with ⟨hdelivers, hbase⟩ | ⟨hdelivers, hbase⟩
  · rw [hbase, BaseViewController.clear_hiddenLoading_iff]
    exact iff_of_true hs (Or.inr hdelivers)
  · rw [hbase, or_iff_left hdelivers]

/-- The overlay of the profile is gone exactly if the picture has been delivered. -/
theorem clear_iff_of_run {currentUser : Option AuthUser} {acts : List Act} {s : PerfilScreen}
    (hrun : (machine currentUser).run acts = some s) :
    s.base.Clear ↔ ∃ a ∈ acts, a.Delivers :=
  Machine.run_iff_exists_mem (P := fun s ↦ s.base.Clear) (fun _ _ _ ↦ reached_step)
    (fun _ _ _ ↦ clear_step_iff) BaseViewController.reached_loading
    (BaseViewController.not_clear_showLoading _) hrun

end PerfilScreen

end Poketrader
