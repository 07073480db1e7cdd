import Poketrader.Offers.Artwork
import Poketrader.Offers.Store

/-!
# The contact of an offer

The form asks for the telephone of the user when it opens, and saves with whatever has come by the
time of the press. Before the answer, and after a failed one, that is the empty text, which differs
from the telephone registered unless none was given.

The form below belongs to one user, whose document does not change while the form is open.
-/

open Foundation Document

namespace Poketrader

namespace Contact

/-- Where the lookup of the telephone stands. -/
inductive Lookup where
  | pending
  /-- The document of the user has come. -/
  | found
  | failed
  deriving DecidableEq

structure State where
  screen : AddPokemonViewController
  lookup : Lookup
  /-- The writes issued, in order. -/
  writes : List Write

inductive Act where
  /-- The lookup is answered. -/
  | answer
  /-- The lookup fails, or finds nothing. -/
  | fail
  /-- The texts of the form are changed. -/
  | edit (form : AddPokemonForm)
  /-- PokeAPI answers for a Pokemon that was selected. -/
  | pokemon (nomePokemon : String) (response : AFResponse)
  | press (documentID : String)

/-- The form once `viewDidLoad` has returned. -/
def viewDidLoad : State where
  screen := { form := .empty, namePokemon := none, phoneNumber := none,
              controller := { pokemon := none } }
  lookup := .pending
  writes := []

section

variable (P : Platform) (user : AuthUser) (document : Fields)

/-- `none` where the lookup has been answered already. -/
def step (s : State) : Act → Option State
  | .answer =>
    if s.lookup = .pending then
      some { s with screen := s.screen.getTelephone (some document), lookup := .found }
    else none
  | .fail =>
    if s.lookup = .pending then
      some { s with screen := s.screen.getTelephone none, lookup := .failed }
    else none
  | .edit form => some { s with screen := { s.screen with form } }
  | .pokemon nomePokemon response =>
    some { s with screen := s.screen.sendDataToCadastroVC P nomePokemon response }
  | .press documentID =>
    let press := s.screen.addPokemon (some user) documentID
    some { s with screen := press.screen, writes := s.writes ++ press.writes }

def machine : Machine State Act where
  start := viewDidLoad
  step := step P user document

end

/-- A document that is stored carries the telephone. -/
def Carries (telefone : String) : Write → Prop
  | .setData _ data => data.string "telefone" = some telefone
  | .updateData _ _ | .delete _ => True

instance (telefone : String) : DecidablePred (Carries telefone)
  | .setData _ data => inferInstanceAs (Decidable (data.string "telefone" = some telefone))
  | .updateData _ _ | .delete _ => isTrue trivial

/-- A valid form is saved only once the telephone has come, unless it is empty. -/
def Looked (telefone : String) (s : State) : Act → Prop
  | .press _ => s.screen.isValid = true → s.lookup = .found ∨ telefone = ""
  | _ => True

instance (telefone : String) (s : State) : ∀ a, Decidable (Looked telefone s a)
  | .press _ => inferInstanceAs (Decidable (_ → _ ∨ _))
  | .answer | .fail | .edit _ | .pokemon _ _ => isTrue trivial

/-- The screen has the telephone exactly if the lookup has been answered. -/
def HasTelephone (telefone : String) (s : State) : Prop :=
  s.screen.phoneNumber = if s.lookup = .found then some telefone else none

variable {P : Platform} {user : AuthUser} {document : Fields} {telefone : String}

theorem sendDataToCadastroVC_phoneNumber (vc : AddPokemonViewController) (nomePokemon : String)
    (response : AFResponse) :
    (vc.sendDataToCadastroVC P nomePokemon response).phoneNumber = vc.phoneNumber := by
  simp only [AddPokemonViewController.sendDataToCadastroVC]
  split
  · split <;> rfl
  · rfl

theorem addPokemon_phoneNumber (vc : AddPokemonViewController) (currentUser : Option AuthUser)
    (documentID : String) :
    (vc.addPokemon currentUser documentID).screen.phoneNumber = vc.phoneNumber := by
  rw [AddPokemonViewController.addPokemon]
  split <;> rfl

/-- The document of a user whose telephone is registered fills the number in. -/
theorem getTelephone_some (h : document.string "telefone" = some telefone)
    (vc : AddPokemonViewController) :
    (vc.getTelephone (some document)).phoneNumber = some telefone := by
  rw [Fields.string, Option.bind_eq_some_iff] at h
  obtain ⟨teamInfo, hteam, htext⟩ := h
  simp only [AddPokemonViewController.getTelephone, hteam, htext, Option.getD_some]

theorem HasTelephone.step (h : document.string "telefone" = some telefone) {s t : State} {a : Act}
    (hs : HasTelephone telefone s) (hstep : (machine P user document).step s a = some t) :
    HasTelephone telefone t := by
  cases a with
  | answer =>
    obtain ⟨-, hstep⟩ := Option.ite_none_right_eq_some.mp hstep
    obtain rfl := Option.some_inj.mp hstep
    rw [HasTelephone, getTelephone_some h, if_pos rfl]
  | fail =>
    obtain ⟨hpending, hstep⟩ := Option.ite_none_right_eq_some.mp hstep
    obtain rfl := Option.some_inj.mp hstep
    rw [HasTelephone, hpending, if_neg (by simp)] at hs
    rw [HasTelephone, if_neg (by simp)]
    exact hs
  | edit form =>
    obtain rfl := Option.some_inj.mp hstep
    exact hs
  | pokemon nomePokemon response =>
    obtain rfl := Option.some_inj.mp hstep
    rw [HasTelephone, sendDataToCadastroVC_phoneNumber]
    exact hs
  | press documentID =>
    obtain rfl := Option.some_inj.mp hstep
    rw [HasTelephone, addPokemon_phoneNumber]
    exact hs

/-- What a press stores carries the telephone the screen has, the empty one if it has none. -/
theorem carries_addPokemon_iff {vc : AddPokemonViewController} (documentID : String) :
    (∀ w ∈ (vc.addPokemon (some user) documentID).writes, Carries telefone w)
      ↔ (vc.isValid = true → vc.phoneNumber.getD "" = telefone) := by
  rw [AddPokemonViewController.addPokemon]
  split
  · next hvalid =>
    have hstored : (vc.arguments.data user none).string "telefone"
        = some (vc.phoneNumber.getD "") := by
      simp [SaveArguments.data, AddPokemonViewController.arguments]
    simp only [AddPokemonViewController.savePokemon, saveOffer, List.forall_mem_cons, Carries,
      hstored, Option.some_inj, hvalid, true_implies]
    exact and_iff_left ⟨trivial, List.forall_mem_nil _⟩
  · next hvalid => exact iff_of_true (List.forall_mem_nil _) fun h ↦ absurd h hvalid

/-- One step: what has been stored carries the telephone exactly if the lookup was in time. -/
theorem carries_step_iff {s t : State} {a : Act} (hs : HasTelephone telefone s)
    (hstep : (machine P user document).step s a = some t) :
    (∀ w ∈ t.writes, Carries telefone w)
      ↔ (∀ w ∈ s.writes, Carries telefone w) ∧ Looked telefone s a := by
  cases a with
  | answer =>
    obtain ⟨-, hstep⟩ := Option.ite_none_right_eq_some.mp hstep
    obtain rfl := Option.some_inj.mp hstep
    exact (and_iff_left trivial).symm
  | fail =>
    obtain ⟨-, hstep⟩ := Option.ite_none_right_eq_some.mp hstep
    obtain rfl := Option.some_inj.mp hstep
    exact (and_iff_left trivial).symm
  | edit form =>
    obtain rfl := Option.some_inj.mp hstep
    exact (and_iff_left trivial).symm
  | pokemon nomePokemon response =>
    obtain rfl := Option.some_inj.mp hstep
    exact (and_iff_left trivial).symm
  | press documentID =>
    obtain rfl := Option.some_inj.mp hstep
    have hnumber : s.screen.phoneNumber.getD "" = telefone
        ↔ s.lookup = .found ∨ telefone = "" := by
      rw [show s.screen.phoneNumber = _ from hs]
      split
      · next hfound => exact iff_of_true rfl (Or.inl hfound)
      · next hfound => rw [Option.getD_none, or_iff_right hfound, eq_comm]
    simp only [List.forall_mem_append, carries_addPokemon_iff, hnumber, Looked]

/-- **Every offer stored carries the registered telephone** exactly if no valid form is saved before
the lookup has found it, unless the telephone registered is empty. -/
theorem stored_carries_iff (P : Platform) (user : AuthUser)
    (hregistered : document.string "telefone" = some telefone) {acts : List Act} {s : State}
    (hrun : (machine P user document).run acts = some s) :
    (∀ w ∈ s.writes, Carries telefone w)
      ↔ (machine P user document).Allowed (Looked telefone) (machine P user document).start acts :=
  Machine.run_iff_allowed (I := HasTelephone telefone)
    (P := fun s ↦ ∀ w ∈ s.writes, Carries telefone w)
    (fun _ _ _ hs hstep ↦ hs.step hregistered hstep)
    (fun _ _ _ hs hstep ↦ carries_step_iff hs hstep) rfl (List.forall_mem_nil _) hrun

def sampleDocument : Fields := Fields.ofList [("telefone", .string "(11) 98888 7777")]

/-- The lookup is answered, and an offer saved. -/
def lookedActs : List Act := [.edit AddOffer.sampleForm, .answer, .press "key-1"]

theorem stored_carries_iff_lookedActs :
    ∃ s, (machine .ascii sampleUser sampleDocument).run lookedActs = some s ∧ s.writes ≠ [] ∧
      ∀ w ∈ s.writes, Carries "(11) 98888 7777" w := by
  have hrun : (machine .ascii sampleUser sampleDocument).run lookedActs
      = some (((machine .ascii sampleUser sampleDocument).run lookedActs).getD viewDidLoad) := by rfl
  exact ⟨_, hrun, List.cons_ne_nil _ _,
    (stored_carries_iff .ascii sampleUser (by decide) hrun).mpr (by decide)⟩

/-- An offer is saved while the lookup is under way, and one after it has failed. -/
def hastyActs : List Act :=
  [.edit AddOffer.sampleForm, .press "key-1", .fail, .edit AddOffer.sampleForm, .press "key-2"]

/-- Both are stored with an empty telephone. -/
theorem hastyActs_lose_contact :
    ∃ s, (machine .ascii sampleUser sampleDocument).run hastyActs = some s ∧
      (s.writes.filterMap fun w ↦ match w with
        | .setData id data => some (id, data.string "telefone")
        | _ => none) = [("key-1", some ""), ("key-2", some "")] ∧
      ¬∀ w ∈ s.writes, Carries "(11) 98888 7777" w :=
  ⟨((machine .ascii sampleUser sampleDocument).run hastyActs).getD viewDidLoad, by rfl, by decide,
    by decide⟩

end Contact

end Poketrader
