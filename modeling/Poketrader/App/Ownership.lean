import Poketrader.App.Patience

/-!
# What belongs to whom

Patient users: what a device shows behind the login is of the account signed in on it, and the
contact in a stored offer is its seller's own.
-/

open Document Foundation

namespace Poketrader

namespace App

variable {P : Platform} {s : State} {acts : List Act} {k : String} {data : Fields}

variable (P) in
/-- The run of the accounts within. -/
def accountsRun (acts : List Act) : List Accounts.Act :=
  (machine P).trace accountsActs (machine P).start acts

variable (P) in
/-- The run of the market within. -/
def marketRun (acts : List Act) : List Market.Act :=
  (Accounts.machine P).trace Accounts.marketActs (Accounts.machine P).start (accountsRun P acts)

/-- Where anything has been shown or asked for, somebody is signed in. -/
theorem exists_session_of_not_fresh (hrun : (machine P).run acts = some s) {device : ℕ}
    (hfresh : ¬Accounts.Fresh s.accounts device) :
    ∃ user, s.session device = some user ∧ s.accounts.market.uid device = user.uid := by
  have htabBar : Screen.tabBar ∈ s.window device := by
    by_contra hnot
    exact hfresh ((sound_of_run hrun device).fresh hnot)
  obtain ⟨user, huser⟩ :=
    Option.isSome_iff_exists.mp ((sound_of_run hrun device).session htabBar)
  exact ⟨user, huser, s.accounts.market.uid_eq huser⟩

/-- The telephone is looked up, an offer saved, and the list of offers loaded and opened. -/
def sellingActs : List Act :=
  [.accounts (.openAddPokemon 0), .accounts (.telefones (.evaluate 0)), .accounts (.arrive 0),
    .accounts (.market (.input 0 (.edit .gameTitle ⟨0, 0⟩ "Red"))),
    .accounts (.market (.input 0 (.addPokemon (some sampleUser) "key-key-key-key-key1"))),
    .accounts (.market (.store 0 "")), .accounts (.market (.loadOffersForIUD 0)),
    .accounts (.market (.respond 0)), .accounts (.market (.input 0 (.openScreen 0)))]

theorem run_sellingActs : (machine .scalarwise).run (enteringActs ++ sellingActs)
    = some (sampleState (enteringActs ++ sellingActs)) := by rfl

theorem patient_sellingActs : (machine .scalarwise).Allowed Patient (machine .scalarwise).start
    (enteringActs ++ sellingActs) := by
  decide

theorem run_askingActs : (machine .scalarwise).run (enteringActs ++ sellingActs.take 2)
    = some (sampleState (enteringActs ++ sellingActs.take 2)) := by rfl

/-- Another account is being made when the user returns to the login, and is answered when the
offers are on screen. -/
def hastyActs : List Act :=
  enteringActs.take 10 ++ [.cadastroButton 0 none,
    .accounts (.cadastro 0 (.edit .nome ⟨0, 0⟩ "Ana")),
    .accounts (.cadastro 0 (.edit .senha ⟨0, 0⟩ "s")),
    .accounts (.cadastro 0 (.edit .email ⟨0, 0⟩ "ef@cd.ef")), .accounts (.cadastro 0 .press),
    .dismiss 0] ++ enteringActs.drop 10 ++ sellingActs ++
    [.accounts (.createUser 0 { sampleUser with uid := "uid-2" })]

-- the new account is shown the offer of the old one
example : ∃ s screen data, (machine .scalarwise).run hastyActs = some s ∧
    (s.session 0).map AuthUser.uid = some "uid-2" ∧
      (s.accounts.market.devices 0).screen = some screen ∧
      screen.oferta.game = some "Red" ∧
      s.accounts.market.anuncio["key-key-key-key-key1"]? = some data ∧
      data.string "uid" = some "uid-1" := by
  have hrun : (machine .scalarwise).run hastyActs = some (sampleState hastyActs) := by rfl
  exact ⟨sampleState hastyActs, _, _, hrun, rfl, rfl, rfl, rfl, rfl⟩

end App

end Poketrader
