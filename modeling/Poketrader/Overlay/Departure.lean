import Poketrader.Cells.Reuse
import Poketrader.Offers.Store
import Poketrader.Overlay.Login
import Poketrader.Overlay.OfferLists
import Poketrader.Overlay.Picture

/-!
# When the overlay goes away

Six screens show the overlay, and each hides it in one kind of place only. Once a screen has no
request unanswered and no block pending, nothing is left that could hide an overlay, so whether one
is still visible is settled by what the run has brought.

On none of the screens is the outcome always the good one: a failed load keeps the overlay of a
list, an offer without a picture that of its screens, a user without a picture that of the profile.
-/

open Foundation

namespace Poketrader

/-- Once the screen is quiescent, no overlay is visible exactly if the run meets the condition. -/
def LeavesExactlyIf {σ α : Type} (M : Machine σ α) (base : σ → BaseViewController)
    (quiescent : σ → Prop) (condition : List α → Prop) : Prop :=
  ∀ acts s, M.run acts = some s → quiescent s → ((base s).Clear ↔ condition acts)

open OffersTable OfferScreen

/-- **When the overlay goes away.** In the lists: if a load has succeeded. On the screens of one
offer: if the offer has a picture. On the profile: if the picture has been delivered. On the login
screen: if no press came while a login was under way, and each login was answered. -/
theorem overlay_leaves_exactly_if (P : Platform) (currentUser : Option AuthUser)
    (oferta : Option OfertaElement) (usuario : UserObject) :
    LeavesExactlyIf FeedViewController.covered Covered.base Covered.Quiescent
      (fun acts ↦ ∃ a ∈ acts, a.Succeeds) ∧
    LeavesExactlyIf (OfertasUsuarioViewController.covered currentUser) Covered.base
      Covered.Quiescent (fun acts ↦ ∃ a ∈ acts, a.Succeeds) ∧
    LeavesExactlyIf (AnuncioViewController.machine P oferta) OfferScreen.base
      OfferScreen.Quiescent (fun _ ↦ Pictured P oferta) ∧
    LeavesExactlyIf (MeuAnuncioViewController.machine P oferta) OfferScreen.base
      OfferScreen.Quiescent (fun _ ↦ Pictured P oferta) ∧
    LeavesExactlyIf (PerfilScreen.machine currentUser) PerfilScreen.base PerfilScreen.Quiescent
      (fun acts ↦ ∃ a ∈ acts, a.Delivers) ∧
    LeavesExactlyIf (LoginViewController.machine usuario) LoginViewController.base
      LoginViewController.Quiescent
      (LoginViewController.machine usuario |>.Allowed LoginViewController.Orderly
        (LoginViewController.machine usuario).start) := by
  refine ⟨?feed, ?ofertasUsuario, ?anuncio, ?meuAnuncio, ?perfil, ?login⟩
  case feed =>
    intro acts s hrun hquiet
    exact OffersTable.clear_iff_of_run replaces_feed hrun hquiet
  case ofertasUsuario =>
    intro acts s hrun hquiet
    exact OffersTable.clear_iff_of_run (replaces_ofertasUsuario currentUser) hrun hquiet
  case anuncio =>
    intro acts s hrun hquiet
    exact OfferScreen.clear_iff_of_run (fun _ ↦ rfl) hrun hquiet
  case meuAnuncio =>
    intro acts s hrun hquiet
    exact OfferScreen.clear_iff_of_run (fun _ ↦ rfl) hrun hquiet
  case perfil =>
    intro acts s hrun _
    exact PerfilScreen.clear_iff_of_run hrun
  case login =>
    intro acts s hrun hquiet
    exact LoginViewController.clear_iff_of_run hrun hquiet

/-! ## Runs -/

/-- Both loads succeed, and bring nothing. -/
def loadedActs : List OffersTable.Act :=
  [.viewDidAppear, .respond 0 (.ofDocuments []), .respond 0 (.ofDocuments []), .runMain, .runMain]

/-- Both loads fail. -/
def failedActs : List OffersTable.Act :=
  [.viewDidAppear, .respond 0 ⟨none, some "offline"⟩, .respond 0 ⟨none, some "offline"⟩]

/-- The block runs, and the picture comes. -/
def picturedActs {β : Type} : List (OfferScreen.Act β) :=
  [.fill, .respond (some [1]) none, .setImage]

/-- The picture comes, and the document. -/
def deliveredActs : List PerfilScreen.Act :=
  [.downloadURL (some "https://pics/uid-1.png") none (some [1]), .getDocument none]

/-- The profile has no picture. -/
def undeliveredActs : List PerfilScreen.Act :=
  [.downloadURL none (some "object does not exist") none, .getDocument none]

/-- The button is pressed with an empty field, and once more with a wrong password. -/
def pressedActs : List LoginViewController.Act :=
  [.entrarButton "" "", .entrarButton "ash@mail.com" "pikachu", .respond 0 none (some "wrong"),
    .runMain]

/-- An offer with a picture. -/
def picturedOffer : OfertaElement := OfertaCell.sampleOffer "pikachu" "https://pics/25.png"

/-- An offer whose document has an empty `url`. -/
def unpicturedOffer : OfertaElement := OfertaCell.sampleOffer "pikachu" ""

theorem overlay_leaves_exactly_if_loadedActs :
    (∃ s, FeedViewController.covered.run loadedActs = some s ∧ s.base.Clear) ∧
    (∃ s, (OfertasUsuarioViewController.covered (some sampleUser)).run loadedActs = some s ∧
      s.base.Clear) ∧
    (∃ s, (AnuncioViewController.machine .ascii (some picturedOffer)).run picturedActs = some s ∧
      s.base.Clear) ∧
    (∃ s, (MeuAnuncioViewController.machine .ascii (some picturedOffer)).run picturedActs = some s ∧
      s.base.Clear) ∧
    (∃ s, (PerfilScreen.machine (some sampleUser)).run deliveredActs = some s ∧ s.base.Clear) ∧
    ∃ s, (LoginViewController.machine ⟨none, none, none⟩).run pressedActs = some s ∧
      s.base.Clear := by
  obtain ⟨hfeed, hown, hanuncio, hmeuAnuncio, hperfil, hlogin⟩ :=
    overlay_leaves_exactly_if .ascii (some sampleUser) (some picturedOffer) ⟨none, none, none⟩
  have hloaded : ∃ a ∈ loadedActs, a.Succeeds :=
    ⟨.respond 0 (.ofDocuments []), by simp [loadedActs], rfl⟩
  have hpictured : Pictured .ascii (some picturedOffer) :=
    ⟨picturedOffer, "https://pics/25.png", rfl, rfl, by decide⟩
  have hdelivered : ∃ a ∈ deliveredActs, a.Delivers :=
    ⟨_, List.mem_cons_self, rfl, rfl, rfl⟩
  refine ⟨?feed, ?ofertasUsuario, ?anuncio, ?meuAnuncio, ?perfil, ?login⟩
  case feed =>
    let M := FeedViewController.covered
    have hrun : M.run loadedActs = some ((M.run loadedActs).getD M.start) := by rfl
    exact ⟨_, hrun, (hfeed _ _ hrun ⟨by rfl, by rfl⟩).mpr hloaded⟩
  case ofertasUsuario =>
    let M := OfertasUsuarioViewController.covered (some sampleUser)
    have hrun : M.run loadedActs = some ((M.run loadedActs).getD M.start) := by rfl
    exact ⟨_, hrun, (hown _ _ hrun ⟨by rfl, by rfl⟩).mpr hloaded⟩
  case anuncio =>
    let M := AnuncioViewController.machine .ascii (some picturedOffer)
    have hrun : M.run picturedActs = some ((M.run picturedActs).getD M.start) := by rfl
    exact ⟨_, hrun, (hanuncio _ _ hrun ⟨by rfl, by rfl, by rfl, by rfl⟩).mpr hpictured⟩
  case meuAnuncio =>
    let M := MeuAnuncioViewController.machine .ascii (some picturedOffer)
    have hrun : M.run picturedActs = some ((M.run picturedActs).getD M.start) := by rfl
    exact ⟨_, hrun, (hmeuAnuncio _ _ hrun ⟨by rfl, by rfl, by rfl, by rfl⟩).mpr hpictured⟩
  case perfil =>
    let M := PerfilScreen.machine (some sampleUser)
    have hrun : M.run deliveredActs = some ((M.run deliveredActs).getD M.start) := by rfl
    exact ⟨_, hrun, (hperfil _ _ hrun ⟨by rfl, by rfl, nofun⟩).mpr hdelivered⟩
  case login =>
    let M := LoginViewController.machine ⟨none, none, none⟩
    have hrun : M.run pressedActs = some ((M.run pressedActs).getD M.start) := by rfl
    exact ⟨_, hrun, (hlogin _ _ hrun ⟨by rfl, by rfl⟩).mpr (by decide)⟩

/-- Nothing is under way any more, and the overlay is still shown: after loads that fail, on an
offer without a picture, and for a user without one. -/
theorem failedActs_overlay_stays :
    (∃ s, FeedViewController.covered.run failedActs = some s ∧ Covered.Quiescent s ∧
      ¬s.base.Clear) ∧
    (∃ s, (OfertasUsuarioViewController.covered (some sampleUser)).run failedActs = some s ∧
      Covered.Quiescent s ∧ ¬s.base.Clear) ∧
    (∃ s, (AnuncioViewController.machine .ascii (some unpicturedOffer)).run [.fill] = some s ∧
      OfferScreen.Quiescent s ∧ ¬s.base.Clear) ∧
    (∃ s, (MeuAnuncioViewController.machine .ascii (some unpicturedOffer)).run [.fill] = some s ∧
      OfferScreen.Quiescent s ∧ ¬s.base.Clear) ∧
    ∃ s, (PerfilScreen.machine (some sampleUser)).run undeliveredActs = some s ∧
      PerfilScreen.Quiescent s ∧ ¬s.base.Clear := by
  refine ⟨⟨_, rfl, ⟨rfl, rfl⟩, ?_⟩, ⟨_, rfl, ⟨rfl, rfl⟩, ?_⟩, ⟨_, rfl, ⟨rfl, rfl, rfl, rfl⟩, ?_⟩,
    ⟨_, rfl, ⟨rfl, rfl, rfl, rfl⟩, ?_⟩, ⟨_, rfl, ⟨rfl, rfl, nofun⟩, ?_⟩⟩ <;>
  exact BaseViewController.not_clear_showLoading .empty

end Poketrader
