import Poketrader.Controller.OfertasController
import Poketrader.Transition.Machine

/-!
# The screens of the two offer lists

Both screens load when they are made and every time they appear. The answer to a load replaces the
array of the controller at once, while the table goes on with the number of rows it has until the
block that reloads it, which the answer puts on the main queue, has run.

The screens are one machine. What tells them apart is `answered`: what the answer to a load makes of
the offers, and whether it dispatches a reload; `none` is a trap.
-/

open Document

namespace Poketrader

structure OffersTable where
  /-- The offers of the controller. -/
  ofertas : Option Ofertas
  /-- What `numberOfRowsInSection` returned at the last reload. -/
  rows : ℕ
  /-- The number of loads issued. -/
  issued : ℕ
  /-- The loads not yet answered, by their place in the order of issue. -/
  unanswered : List ℕ
  /-- The number of reload blocks on the main queue. -/
  reloads : ℕ
  deriving DecidableEq

namespace OffersTable

inductive Act where
  | viewDidAppear
  /-- The `i`-th of the unanswered loads is answered. -/
  | respond (i : ℕ) (answer : QueryAnswer)
  /-- A reload block runs. -/
  | runMain
  | cellForRow (row : ℕ)
  /-- A row is tapped, and its offer handed to the next screen. -/
  | didSelectRow (row : ℕ)

/-- `loadOffers` of the screens. -/
def load (s : OffersTable) : OffersTable :=
  { s with issued := s.issued + 1, unanswered := s.unanswered ++ [s.issued] }

/-- The screen once `viewDidLoad` has returned. -/
def viewDidLoad : OffersTable := load ⟨none, 0, 0, [], 0⟩

def reloadData (s : OffersTable) : OffersTable := { s with rows := Ofertas.numberOfRows s.ofertas }

section

variable (answered : Option Ofertas → QueryAnswer → Option (Option Ofertas × Bool))

/-- `none` where the action cannot happen, or traps. -/
def step (s : OffersTable) : Act → Option OffersTable
  | .viewDidAppear => some s.load
  | .respond i answer =>
    if i < s.unanswered.length then
      -- the array is replaced at once; the table learns of it when the reload block runs
      (answered s.ofertas answer).map fun after ↦
        { s with
          ofertas := after.1
          unanswered := s.unanswered.eraseIdx i
          reloads := if after.2 then s.reloads + 1 else s.reloads }
    else none
  | .runMain => if 0 < s.reloads then some { s.reloadData with reloads := s.reloads - 1 } else none
  | .cellForRow row =>
    if row < s.rows then (Ofertas.getOferta s.ofertas row).map fun _ ↦ s else none
  | .didSelectRow row =>
    -- `prepare` unwraps the offer, so here a missing list traps too
    if row < s.rows then ((Ofertas.getOferta s.ofertas row).bind id).map fun _ ↦ s else none

def machine : Machine OffersTable Act where
  start := viewDidLoad
  step := step answered

/-- The steps, action by action. -/
inductive Steps : OffersTable → Act → OffersTable → Prop
  | viewDidAppear {s : OffersTable} : Steps s .viewDidAppear s.load
  | respond {s : OffersTable} (i : ℕ) (answer : QueryAnswer) (after : Option Ofertas × Bool)
      (hi : i < s.unanswered.length) (hafter : answered s.ofertas answer = some after) :
    Steps s (.respond i answer)
      { s with
        ofertas := after.1
        unanswered := s.unanswered.eraseIdx i
        reloads := if after.2 then s.reloads + 1 else s.reloads }
  | runMain {s : OffersTable} (hpos : 0 < s.reloads) :
    Steps s .runMain { s.reloadData with reloads := s.reloads - 1 }
  | cellForRow {s : OffersTable} (row : ℕ) (hrow : row < s.rows) : Steps s (.cellForRow row) s
  | didSelectRow {s : OffersTable} (row : ℕ) (hrow : row < s.rows) : Steps s (.didSelectRow row) s

variable {answered}

theorem steps_of_step {s t : OffersTable} {a : Act} (h : (machine answered).step s a = some t) :
    Steps answered s a t := by
  cases a with
  | viewDidAppear => exact Option.some_inj.mp h ▸ .viewDidAppear
  | respond i answer =>
    obtain ⟨hi, h⟩ := Option.ite_none_right_eq_some.mp h
    obtain ⟨after, hafter, rfl⟩ := Option.map_eq_some_iff.mp h
    exact .respond i answer after hi hafter
  | runMain =>
    obtain ⟨hpos, h⟩ := Option.ite_none_right_eq_some.mp h
    exact Option.some_inj.mp h ▸ .runMain hpos
  | cellForRow row =>
    obtain ⟨hrow, h⟩ := Option.ite_none_right_eq_some.mp h
    obtain ⟨-, -, rfl⟩ := Option.map_eq_some_iff.mp h
    exact .cellForRow row hrow
  | didSelectRow row =>
    obtain ⟨hrow, h⟩ := Option.ite_none_right_eq_some.mp h
    obtain ⟨-, -, rfl⟩ := Option.map_eq_some_iff.mp h
    exact .didSelectRow row hrow

end

end OffersTable

/-- The completion of `FeedViewController.loadOffers`, which looks for offers. -/
def FeedViewController.answered (ofertas : Option Ofertas) (answer : QueryAnswer) :
    Option (Option Ofertas × Bool) :=
  match loadOffers answer with
  | none => some (ofertas, false)
  | some called =>
    (FeedController.loadOfertas { ofertas } called).map fun (controller, result, _) ↦
      (controller.ofertas, result.isSome)

/-- The completion in `OfertasUsuarioViewController`, which looks at the flag. -/
def OfertasUsuarioViewController.answered (currentUser : Option AuthUser)
    (ofertas : Option Ofertas) (answer : QueryAnswer) : Option (Option Ofertas × Bool) :=
  match loadOffersForIUD currentUser answer with
  | none => some (ofertas, false)
  | some called =>
    let (controller, result, _) := OfertasUsuarioController.loadOfertas { ofertas } called
    some (controller.ofertas, result)

def FeedViewController.machine : Machine OffersTable OffersTable.Act :=
  OffersTable.machine FeedViewController.answered

def OfertasUsuarioViewController.machine (currentUser : Option AuthUser) :
    Machine OffersTable OffersTable.Act :=
  OffersTable.machine (OfertasUsuarioViewController.answered currentUser)

/-! ## The two completions agree -/

namespace OffersTable

/-- A query that succeeds replaces the offers by those of its documents that decode and dispatches a
reload; one that fails changes nothing. -/
def Replaces (decode : Fields → Option OfertaElement)
    (answered : Option Ofertas → QueryAnswer → Option (Option Ofertas × Bool)) : Prop :=
  ∀ ofertas answer, answered ofertas answer =
    if answer.err = none then
      some (some { ofertas := some (appendDecoded decode (answer.documents.getD [])) }, true)
    else some (ofertas, false)

theorem replaces_feed : Replaces decodeOffer FeedViewController.answered := by
  intro ofertas answer
  rw [FeedViewController.answered, loadOffers]
  cases answer.err with
  | none => rfl
  | some err => rfl

theorem replaces_ofertasUsuario (currentUser : Option AuthUser) :
    Replaces (decodeOwnOffer currentUser) (OfertasUsuarioViewController.answered currentUser) := by
  intro ofertas answer
  rw [OfertasUsuarioViewController.answered, loadOffersForIUD]
  cases answer.err with
  | none => rfl
  | some err => rfl

end OffersTable

end Poketrader
