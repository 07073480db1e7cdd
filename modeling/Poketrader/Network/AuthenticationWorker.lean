import Poketrader.Document.Collection
import Poketrader.Transition.Machine

/-!
# The authentication worker

Signing up and saving the profile issue the same requests: the document in `telefones`, the upload
of the image if there is one, and the commit of the profile. Each request is answered by a callback
of its own; the callback of the upload asks for the URL of the image, and the callback of that sets
the variable `photoURL`, which all of them capture.

Everything up to the completion is one synchronous block, `submit`, and no callback runs in the
middle of it. So the block reads `photoURL` as it was initialised, and calls the completion before
any request can have been answered.
-/

open Document

namespace Poketrader

/-- An image as PNG data. -/
abbrev PNGData := List UInt8

/-- What a form submits. -/
structure Profile where
  nome : String
  telefone : String
  console : String
  email : String
  imagem : Option PNGData

structure ProfileChangeRequest where
  displayName : Option String
  photoURL : Option String
  deriving DecidableEq

/-- The requests to the backend. -/
inductive Request where
  | telefones
  | putData
  | downloadURL
  | commitChanges
  deriving DecidableEq

/-- The requests that write. -/
def Request.isWrite : Request → Bool
  | .telefones | .putData | .commitChanges => true
  | .downloadURL => false

inductive Event where
  | requested (r : Request)
  | succeeded (r : Request)
  | failed (r : Request)
  /-- The completion is called. -/
  | completion (error : Option String)
  deriving DecidableEq

/-- A run of `signup` or of `upload`. -/
structure Operation where
  /-- The document writes issued. -/
  writes : List Write
  /-- The callbacks that have not run. -/
  pending : List Request
  /-- What has happened, in order. -/
  log : List Event
  /-- The captured variable. -/
  photoURL : Option String
  /-- The change request as it was handed to `commitChanges`. -/
  committed : Option ProfileChangeRequest

inductive Callback where
  | telefones (err : Option String)
  | putData (error : Option String)
  | downloadURL (url error : Option String)
  | commitChanges (error : Option String)

namespace Operation

/-- Before the first request. -/
def idle : Operation := ⟨[], [], [], none, none⟩

def request (op : Operation) (r : Request) : Operation :=
  { op with pending := op.pending ++ [r], log := op.log ++ [.requested r] }

def complete (op : Operation) (error : Option String) : Operation :=
  { op with log := op.log ++ [.completion error] }

/-- A callback has run. -/
def answer (op : Operation) (r : Request) (error : Option String) : Operation :=
  { op with
    pending := op.pending.erase r
    log := op.log ++ [if error.isSome then .failed r else .succeeded r] }

/-- `none` where the callback is not pending. -/
def step (op : Operation) : Callback → Option Operation
  | .telefones err =>
    -- `signup` looks at the error of `createUser` here; neither function does more than print
    if .telefones ∈ op.pending then some (op.answer .telefones err) else none
  | .putData error =>
    if .putData ∈ op.pending then
      match error with
      | some error => some (op.answer .putData (some error))
      | none => some ((op.answer .putData none).request .downloadURL)
    else none
  | .downloadURL url error =>
    if .downloadURL ∈ op.pending then
      match error with
      | some error => some (op.answer .downloadURL (some error))
      | none => some { op.answer .downloadURL none with photoURL := url.or op.photoURL }
    else none
  | .commitChanges error =>
    if .commitChanges ∈ op.pending then some (op.answer .commitChanges error) else none

/-- The operation from the end of its synchronous block on. -/
def machine (op : Operation) : Machine Operation Callback where
  start := op
  step := step

end Operation

namespace AuthenticationWorker

/-- The synchronous block, for a user and the data of the user's document. -/
def submit (uid : String) (data : Fields) (profile : Profile) : Operation :=
  let op := { Operation.idle with writes := [.setData uid data] }
  let op := op.request .telefones
  let changeRequest : ProfileChangeRequest := { displayName := none, photoURL := none }
  let changeRequest := { changeRequest with displayName := some profile.nome }
  let op := match profile.imagem with
    | some _ => op.request .putData
    | none => op
  -- no callback has run, so this is still the initial value
  let changeRequest := match op.photoURL with
    | some url => { changeRequest with photoURL := some url }
    | none => changeRequest
  let op := { op.request .commitChanges with committed := some changeRequest }
  op.complete none

/-- The dictionary of `signup`. -/
def signupData (profile : Profile) : Fields :=
  Fields.ofList [("telefone", .string profile.telefone), ("console", .string profile.console)]

/-- The dictionary of `upload`, which has no console. -/
def uploadData (profile : Profile) : Fields :=
  Fields.ofList [("telefone", .string profile.telefone)]

/-- `signup` once `createUser` has answered. -/
def signup (profile : Profile) (authResult error : Option String) : Operation :=
  match error with
  | some error => Operation.idle.complete (some error)
  | none =>
    match authResult with
    | some uid => submit uid (signupData profile) profile
    | none => .idle

/-- `none` is the trap at `currentUser!`. -/
def upload (profile : Profile) (currentUser : Option String) : Option Operation :=
  currentUser.map fun uid ↦ submit uid (uploadData profile) profile

theorem submit_writes (uid : String) (data : Fields) (profile : Profile) :
    (submit uid data profile).writes = [.setData uid data] := by
  unfold submit
  cases profile.imagem <;> rfl

theorem signup_writes (profile : Profile) (uid : String) :
    (signup profile (some uid) none).writes = [.setData uid (signupData profile)] :=
  submit_writes _ _ _

theorem upload_writes {profile : Profile} {uid : String} {op : Operation}
    (h : upload profile (some uid) = some op) :
    op.writes = [.setData uid (uploadData profile)] := by
  obtain rfl := Option.some_inj.mp h
  exact submit_writes _ _ _

end AuthenticationWorker

end Poketrader
