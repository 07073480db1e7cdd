import Poketrader.Controller.SelecionarPokemonController
import Poketrader.Transition.Machine

/-!
# The Pokemon list screen

The screen loads the first page when it opens and another page whenever it is scrolled close to its
end. A load passes through three threads of control. The scroll event sets `isLoading` and puts a
block on the global queue; that block sends the request and puts a block on the main queue; the
block on the main queue reads the rows again and resets `isLoading`. The answer to the request is a
step of its own, which none of these waits for.

The table has neither a delegate nor a data source until the first page has come, so until then no
scroll event reaches the screen.
-/

open Foundation

namespace Poketrader

/-- Which of the two calls of `getTwentyPokemons` sent a request. -/
inductive Caller where
  | viewDidLoad
  | loadMoreData
  deriving DecidableEq

/-- A request in flight, with the argument `url` it was sent for. -/
structure PageRequest where
  url : Option String
  caller : Caller
  deriving DecidableEq

/-- The blocks put on the main queue. -/
inductive MainBlock where
  /-- Attach delegate and data source, then reload. -/
  | attach
  /-- Reload and reset `isLoading`. -/
  | reload
  deriving DecidableEq

structure SelecionarPokemonVC where
  controller : SelecionarPokemonController
  isLoading : Bool
  /-- The table has its delegate and its data source. -/
  attached : Bool
  /-- What `numberOfRowsInSection` returned at the last reload. -/
  rows : ℕ
  /-- The requests not yet answered. -/
  requests : List PageRequest
  /-- The number of load blocks on the global queue. -/
  globalBlocks : ℕ
  mainBlocks : List MainBlock
  deriving DecidableEq

namespace SelecionarPokemonVC

inductive Act where
  /-- A scroll event past the threshold. -/
  | scroll
  /-- A load block of the global queue runs. -/
  | runGlobal
  /-- The oldest block of the main queue runs. -/
  | runMain
  /-- The `i`-th request in flight is answered. -/
  | respond (i : ℕ) (answer : TaskAnswer)
  | cellForRow (row : ℕ)
  | didSelectRow (row : ℕ)

variable (P : Platform) (vc : SelecionarPokemonVC)

/-- Send a request, if its argument makes a URL. -/
def send (request : PageRequest) : SelecionarPokemonVC :=
  if (PokemonWork.getTwentyPokemonsURL P request.url).isSome then
    { vc with requests := vc.requests ++ [request] }
  else vc

/-- The screen as it is made, before it loads. -/
def initial : SelecionarPokemonVC where
  controller := { pokemonList := none }
  isLoading := false
  attached := false
  rows := 0
  requests := []
  globalBlocks := 0
  mainBlocks := []

def viewDidLoad : SelecionarPokemonVC := initial.send P { url := none, caller := .viewDidLoad }

def loadMoreData : SelecionarPokemonVC :=
  -- the scroll event has tested `isLoading` already; it is tested again here
  if (vc.controller.numberOfRows : ℤ) < vc.controller.numberOfPokemonsInDatabase then
    if vc.isLoading = false then
      { vc with isLoading := true, globalBlocks := vc.globalBlocks + 1 }
    else vc
  else { vc with isLoading := false }

def scrollViewDidScroll : SelecionarPokemonVC :=
  if vc.isLoading = false then vc.loadMoreData else vc

/-- The block on the global queue. -/
def loadBlock : SelecionarPokemonVC :=
  let vc := { vc with globalBlocks := vc.globalBlocks - 1 }
  -- the URL is read when the block runs, not when it was put on the queue
  let vc := vc.send P { url := vc.controller.nextURL, caller := .loadMoreData }
  { vc with mainBlocks := vc.mainBlocks ++ [.reload] }

def reloadData : SelecionarPokemonVC :=
  { vc with rows := if vc.attached then vc.controller.numberOfRows else 0 }

def mainBlock : MainBlock → SelecionarPokemonVC
  | .attach => reloadData { vc with attached := true }
  | .reload => { vc.reloadData with isLoading := false }

/-- The completion of a request. Only `viewDidLoad` looks at what it is called with. -/
def answered (request : PageRequest) (answer : TaskAnswer) : SelecionarPokemonVC :=
  let (controller, told) :=
    vc.controller.getTwentyPokemons request.url (PokemonWork.getTwentyPokemons answer)
  let vc := { vc with controller }
  -- the completion `loadMoreData` passes is empty
  match request.caller, told with
  | .viewDidLoad, some (true, _) => { vc with mainBlocks := vc.mainBlocks ++ [.attach] }
  | _, _ => vc

/-- `none` where the action cannot happen, or traps. -/
def step (vc : SelecionarPokemonVC) : Act → Option SelecionarPokemonVC
  | .scroll => if vc.attached then some vc.scrollViewDidScroll else none
  | .runGlobal => if 0 < vc.globalBlocks then some (vc.loadBlock P) else none
  | .runMain =>
    match vc.mainBlocks with
    | [] => none
    | block :: mainBlocks => some (mainBlock { vc with mainBlocks } block)
  | .respond i answer => (vc.requests[i]?).map fun request ↦
      answered { vc with requests := vc.requests.eraseIdx i } request answer
  | .cellForRow row =>
    if row < vc.rows then (vc.controller.getNomePokemon P row).map fun _ ↦ vc else none
  | .didSelectRow row =>
    if row < vc.rows then (vc.controller.getNomePokemon P row).map fun _ ↦ vc else none

/-- The screen from `viewDidLoad` on. -/
def machine : Machine SelecionarPokemonVC Act where
  start := viewDidLoad P
  step := step P

/-! ## What a step does to the controller, the requests and the rows -/

/-- The steps, action by action. -/
inductive Steps : SelecionarPokemonVC → Act → SelecionarPokemonVC → Prop
  | scroll (vc : SelecionarPokemonVC) (hattached : vc.attached = true) :
    Steps vc .scroll vc.scrollViewDidScroll
  | runGlobal (vc : SelecionarPokemonVC) (hpos : 0 < vc.globalBlocks) :
    Steps vc .runGlobal (vc.loadBlock P)
  | runMain (vc : SelecionarPokemonVC) (block : MainBlock) (mainBlocks : List MainBlock)
      (hblocks : vc.mainBlocks = block :: mainBlocks) :
    Steps vc .runMain (mainBlock { vc with mainBlocks } block)
  | respond (vc : SelecionarPokemonVC) (i : ℕ) (answer : TaskAnswer) (request : PageRequest)
      (hrequest : vc.requests[i]? = some request) :
    Steps vc (.respond i answer)
      (answered { vc with requests := vc.requests.eraseIdx i } request answer)
  | cellForRow (vc : SelecionarPokemonVC) (row : ℕ) (hrow : row < vc.rows) :
    Steps vc (.cellForRow row) vc
  | didSelectRow (vc : SelecionarPokemonVC) (row : ℕ) (hrow : row < vc.rows) :
    Steps vc (.didSelectRow row) vc

variable {P vc}

theorem steps_of_step {vc' : SelecionarPokemonVC} {a : Act}
    (h : (machine P).step vc a = some vc') : Steps P vc a vc' := by
  cases a with
  | scroll =>
    obtain ⟨hattached, h⟩ := Option.ite_none_right_eq_some.mp h
    obtain rfl := Option.some_inj.mp h
    exact .scroll vc hattached
  | runGlobal =>
    obtain ⟨hpos, h⟩ := Option.ite_none_right_eq_some.mp h
    obtain rfl := Option.some_inj.mp h
    exact .runGlobal vc hpos
  | runMain =>
    simp only [machine, step] at h
    split at h
    · exact absurd h (by simp)
    · next block mainBlocks hblocks =>
      obtain rfl := Option.some_inj.mp h
      exact .runMain vc block mainBlocks hblocks
  | respond i answer =>
    obtain ⟨request, hrequest, rfl⟩ := Option.map_eq_some_iff.mp h
    exact .respond vc i answer request hrequest
  | cellForRow row =>
    obtain ⟨hrow, h⟩ := Option.ite_none_right_eq_some.mp h
    obtain ⟨-, -, rfl⟩ := Option.map_eq_some_iff.mp h
    exact .cellForRow vc row hrow
  | didSelectRow row =>
    obtain ⟨hrow, h⟩ := Option.ite_none_right_eq_some.mp h
    obtain ⟨-, -, rfl⟩ := Option.map_eq_some_iff.mp h
    exact .didSelectRow vc row hrow

@[simp] theorem send_controller (request : PageRequest) :
    (vc.send P request).controller = vc.controller := by
  rw [send]
  split <;> rfl

@[simp] theorem send_rows (request : PageRequest) : (vc.send P request).rows = vc.rows := by
  rw [send]
  split <;> rfl

theorem mem_send_requests {request r : PageRequest} (h : r ∈ (vc.send P request).requests) :
    r ∈ vc.requests ∨ r = request := by
  rw [send] at h
  split at h
  · rwa [List.mem_append, List.mem_singleton] at h
  · exact Or.inl h

theorem send_requests_length_le (request : PageRequest) :
    (vc.send P request).requests.length ≤ vc.requests.length + 1 := by
  rw [send]
  split
  · exact Nat.le_of_eq List.length_append
  · exact Nat.le_succ _

@[simp] theorem scrollViewDidScroll_controller :
    vc.scrollViewDidScroll.controller = vc.controller := by
  unfold scrollViewDidScroll loadMoreData
  split_ifs <;> rfl

@[simp] theorem scrollViewDidScroll_requests :
    vc.scrollViewDidScroll.requests = vc.requests := by
  unfold scrollViewDidScroll loadMoreData
  split_ifs <;> rfl

@[simp] theorem scrollViewDidScroll_rows : vc.scrollViewDidScroll.rows = vc.rows := by
  unfold scrollViewDidScroll loadMoreData
  split_ifs <;> rfl

@[simp] theorem loadBlock_controller : (vc.loadBlock P).controller = vc.controller :=
  send_controller _

theorem mem_loadBlock_requests {r : PageRequest} (h : r ∈ (vc.loadBlock P).requests) :
    r ∈ vc.requests ∨ r = { url := vc.controller.nextURL, caller := .loadMoreData } := by
  have hmem := mem_send_requests h
  exact hmem

theorem loadBlock_requests_length_le :
    (vc.loadBlock P).requests.length ≤ vc.requests.length + 1 := send_requests_length_le _

@[simp] theorem loadBlock_rows : (vc.loadBlock P).rows = vc.rows := send_rows _

@[simp] theorem mainBlock_controller (block : MainBlock) :
    (vc.mainBlock block).controller = vc.controller := by
  cases block <;> rfl

@[simp] theorem mainBlock_requests (block : MainBlock) :
    (vc.mainBlock block).requests = vc.requests := by
  cases block <;> rfl

@[simp] theorem answered_controller (request : PageRequest) (answer : TaskAnswer) :
    (vc.answered request answer).controller
      = (vc.controller.getTwentyPokemons request.url (PokemonWork.getTwentyPokemons answer)).1 := by
  unfold answered
  simp only
  split <;> rfl

@[simp] theorem answered_requests (request : PageRequest) (answer : TaskAnswer) :
    (vc.answered request answer).requests = vc.requests := by
  unfold answered
  simp only
  split <;> rfl

@[simp] theorem answered_rows (request : PageRequest) (answer : TaskAnswer) :
    (vc.answered request answer).rows = vc.rows := by
  unfold answered
  simp only
  split <;> rfl

/-! ## What a step does to the queues -/

@[simp] theorem send_mainBlocks (request : PageRequest) :
    (vc.send P request).mainBlocks = vc.mainBlocks := by
  rw [send]
  split <;> rfl

@[simp] theorem send_attached (request : PageRequest) :
    (vc.send P request).attached = vc.attached := by
  rw [send]
  split <;> rfl

@[simp] theorem send_globalBlocks (request : PageRequest) :
    (vc.send P request).globalBlocks = vc.globalBlocks := by
  rw [send]
  split <;> rfl

@[simp] theorem scrollViewDidScroll_mainBlocks :
    vc.scrollViewDidScroll.mainBlocks = vc.mainBlocks := by
  unfold scrollViewDidScroll loadMoreData
  split_ifs <;> rfl

@[simp] theorem scrollViewDidScroll_attached :
    vc.scrollViewDidScroll.attached = vc.attached := by
  unfold scrollViewDidScroll loadMoreData
  split_ifs <;> rfl

theorem le_scrollViewDidScroll_globalBlocks (vc : SelecionarPokemonVC) :
    vc.globalBlocks ≤ vc.scrollViewDidScroll.globalBlocks := by
  unfold scrollViewDidScroll loadMoreData
  split_ifs
  · exact Nat.le_succ _
  all_goals exact Nat.le_refl _

@[simp] theorem loadBlock_attached : (vc.loadBlock P).attached = vc.attached := send_attached _

@[simp] theorem loadBlock_mainBlocks :
    (vc.loadBlock P).mainBlocks = vc.mainBlocks ++ [.reload] :=
  congrArg (· ++ [MainBlock.reload]) (send_mainBlocks _)

/-- A reload reads the rows of an attached table, and attaching attaches it first. -/
theorem mainBlock_rows (vc : SelecionarPokemonVC) {block : MainBlock}
    (h : block = .reload → vc.attached = true) :
    (vc.mainBlock block).attached = true ∧
      (vc.mainBlock block).rows = vc.controller.numberOfRows := by
  cases block with
  | attach => exact ⟨rfl, rfl⟩
  | reload =>
    have hattached := h rfl
    exact ⟨hattached, if_pos hattached⟩

@[simp] theorem answered_attached (request : PageRequest) (answer : TaskAnswer) :
    (vc.answered request answer).attached = vc.attached := by
  unfold answered
  simp only
  split <;> rfl

@[simp] theorem answered_globalBlocks (request : PageRequest) (answer : TaskAnswer) :
    (vc.answered request answer).globalBlocks = vc.globalBlocks := by
  unfold answered
  simp only
  split <;> rfl

/-- Only the answer to the first request of `viewDidLoad` puts a block on the main queue. -/
theorem answered_mainBlocks (request : PageRequest) (answer : TaskAnswer) :
    (vc.answered request answer).mainBlocks = vc.mainBlocks
      ++ if request.caller = .viewDidLoad ∧ request.url = none then [.attach] else [] := by
  have htold : (vc.controller.getTwentyPokemons request.url
      (PokemonWork.getTwentyPokemons answer)).2
        = if request.url = none then some (true, "") else none :=
    SelecionarPokemonController.getTwentyPokemons_told request.url answer
  obtain ⟨url, caller⟩ := request
  simp only [answered]
  rw [htold]
  cases url <;> cases caller <;> simp

end SelecionarPokemonVC

end Poketrader
