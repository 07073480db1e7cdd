import Poketrader.Network.AuthenticationWorker

/-!
# What the completion knows

The completion of `signup` and of `upload` is called at the end of the synchronous block. The log
of an operation therefore begins with the requests of the block and the call, and the callbacks only
ever append to it: whatever succeeds or fails, it does so after success was announced. For the same
reason the change request never carries the URL of an image.
-/

open Document

namespace Poketrader

open AuthenticationWorker

namespace Operation

/-- Success is announced only after every write that is requested has succeeded. -/
def SavedBefore (op : Operation) : Prop :=
  ∀ before after, op.log = before ++ .completion none :: after →
    ∀ r : Request, r.isWrite = true → .requested r ∈ op.log → .succeeded r ∈ before

/-- A failure is reported as an error. -/
def Reports (op : Operation) : Prop :=
  ∀ r, .failed r ∈ op.log → ∃ error, .completion (some error) ∈ op.log

/-- Where there was an image and success was announced, the profile has its URL. -/
def CommitsPhoto (imagem : Option PNGData) (op : Operation) : Prop :=
  imagem.isSome = true → .completion none ∈ op.log →
    ∃ url changeRequest, op.photoURL = some url ∧ op.committed = some changeRequest ∧
      changeRequest.photoURL = some url

/-- Success means saved. -/
structure SuccessMeansSaved (imagem : Option PNGData) (op : Operation) : Prop where
  saved : op.SavedBefore
  reported : op.Reports
  photo : op.CommitsPhoto imagem

/-- A signup whose user was created, or a profile save. -/
inductive Started (profile : Profile) : Operation → Prop
  | signup (uid : String) : Started profile (signup profile (some uid) none)
  | upload (uid : String) (op : Operation) (h : upload profile (some uid) = some op) :
    Started profile op

/-! ## The log -/

/-- The requests of the synchronous block. -/
def blockRequests (imagem : Option PNGData) : List Event :=
  [.requested .telefones] ++ (if imagem.isSome then [.requested .putData] else [])
    ++ [.requested .commitChanges]

theorem submit_log (uid : String) (data : Fields) (profile : Profile) :
    (submit uid data profile).log = blockRequests profile.imagem ++ [.completion none] := by
  unfold submit
  cases profile.imagem <;> rfl

theorem submit_committed (uid : String) (data : Fields) (profile : Profile) :
    (submit uid data profile).committed
      = some { displayName := some profile.nome, photoURL := none } := by
  unfold submit
  cases profile.imagem <;> rfl

theorem Started.eq_submit {profile : Profile} {op : Operation} (h : Started profile op) :
    ∃ uid data, op = submit uid data profile := by
  cases h with
  | signup uid => exact ⟨uid, _, rfl⟩
  | upload uid op h => exact ⟨uid, _, (Option.some_inj.mp h).symm⟩

/-- What an operation has become since its synchronous block ended. -/
structure Continues (start op : Operation) : Prop where
  /-- The log has grown, and not by a call of the completion. -/
  log : ∃ later, op.log = start.log ++ later ∧ ∀ error, .completion error ∉ later
  committed : op.committed = start.committed

theorem Continues.refl (op : Operation) : Continues op op :=
  ⟨⟨[], (List.append_nil _).symm, fun _ ↦ List.not_mem_nil⟩, rfl⟩

/-- An answer, and what it may request, continue an operation. -/
theorem Continues.append {start op op' : Operation} (h : Continues start op) {events : List Event}
    (hlog : op'.log = op.log ++ events) (hevents : ∀ error, .completion error ∉ events)
    (hcommitted : op'.committed = op.committed) : Continues start op' := by
  obtain ⟨⟨later, hlater, hnone⟩, hc⟩ := h
  refine ⟨⟨later ++ events, ?_, fun error hmem ↦ ?_⟩, hcommitted.trans hc⟩
  · rw [hlog, hlater, List.append_assoc]
  · obtain hmem | hmem := List.mem_append.mp hmem
    · exact hnone error hmem
    · exact hevents error hmem

theorem completion_notMem_answer (r : Request) (error e : Option String) :
    Event.completion e ∉ [if error.isSome then Event.failed r else Event.succeeded r] := by
  rw [List.mem_singleton]
  split <;> simp

theorem Continues.step {start op op' : Operation} {callback : Callback} (h : Continues start op)
    (hstep : op.step callback = some op') : Continues start op' := by
  cases callback with
  | telefones err =>
    obtain ⟨-, hstep⟩ := Option.ite_none_right_eq_some.mp hstep
    obtain rfl := Option.some_inj.mp hstep
    exact h.append rfl (completion_notMem_answer _ _) rfl
  | putData error =>
    obtain ⟨-, hstep⟩ := Option.ite_none_right_eq_some.mp hstep
    cases error with
    | some error =>
      obtain rfl := Option.some_inj.mp hstep
      exact h.append rfl (completion_notMem_answer _ (some error)) rfl
    | none =>
      obtain rfl := Option.some_inj.mp hstep
      have hanswer : Continues start (op.answer .putData none) :=
        h.append rfl (completion_notMem_answer _ none) rfl
      exact hanswer.append rfl (by simp) rfl
  | downloadURL url error =>
    obtain ⟨-, hstep⟩ := Option.ite_none_right_eq_some.mp hstep
    cases error with
    | some error =>
      obtain rfl := Option.some_inj.mp hstep
      exact h.append rfl (completion_notMem_answer _ (some error)) rfl
    | none =>
      obtain rfl := Option.some_inj.mp hstep
      exact h.append rfl (completion_notMem_answer _ none) rfl
  | commitChanges error =>
    obtain ⟨-, hstep⟩ := Option.ite_none_right_eq_some.mp hstep
    obtain rfl := Option.some_inj.mp hstep
    exact h.append rfl (completion_notMem_answer _ _) rfl

theorem continues_of_run {start op : Operation} {callbacks : List Callback}
    (hrun : (machine start).run callbacks = some op) : Continues start op :=
  Machine.invariant (fun _ _ _ h hstep ↦ h.step hstep) (Continues.refl start) hrun

/-! ## The three promises -/

theorem completion_mem_iff {profile : Profile} {op : Operation} {uid : String} {data : Fields}
    (h : Continues (submit uid data profile) op) (error : Option String) :
    .completion error ∈ op.log ↔ error = none := by
  obtain ⟨later, hlog, hnone⟩ := h.log
  have hrequests : ∀ e, Event.completion e ∉ blockRequests profile.imagem := by
    intro e
    rw [blockRequests]
    split <;> simp
  rw [hlog, submit_log]
  simp [hrequests, hnone]

theorem not_savedBefore {profile : Profile} {op : Operation} {uid : String} {data : Fields}
    (h : Continues (submit uid data profile) op) : ¬op.SavedBefore := by
  intro hsaved
  obtain ⟨later, hlog, -⟩ := h.log
  rw [submit_log, List.append_assoc] at hlog
  have hrequested : .requested .telefones ∈ op.log := by
    rw [hlog, blockRequests]
    simp
  have hmem := hsaved _ _ hlog .telefones rfl hrequested
  rw [blockRequests] at hmem
  split at hmem <;> simp at hmem

theorem reports_iff {profile : Profile} {op : Operation} {uid : String} {data : Fields}
    (h : Continues (submit uid data profile) op) : op.Reports ↔ ∀ r, .failed r ∉ op.log := by
  refine ⟨fun hreports r hr ↦ ?_, fun hnone r hr ↦ absurd hr (hnone r)⟩
  obtain ⟨error, herror⟩ := hreports r hr
  exact absurd ((completion_mem_iff h _).mp herror) (by simp)

theorem commitsPhoto_iff {profile : Profile} {op : Operation} {uid : String} {data : Fields}
    (h : Continues (submit uid data profile) op) :
    op.CommitsPhoto profile.imagem ↔ profile.imagem = none := by
  refine ⟨fun hphoto ↦ ?_, fun hnone himagem ↦ absurd himagem (by simp [hnone])⟩
  by_contra himagem
  obtain ⟨url, changeRequest, -, hcommitted, hurl⟩ :=
    hphoto (Option.isSome_iff_ne_none.mpr himagem) ((completion_mem_iff h _).mpr rfl)
  rw [h.committed, submit_committed] at hcommitted
  obtain rfl := Option.some_inj.mp hcommitted
  exact absurd hurl (by simp)

/-- **Success does not mean saved.** In every run of a signup or a profile save, whatever its
callbacks bring and in whatever order, success is announced before the document is written. A
failure is reported only if there is none, and the URL of an image is committed only if there is
no image. -/
theorem not_successMeansSaved {profile : Profile} {start op : Operation}
    {callbacks : List Callback} (hstart : Started profile start)
    (hrun : (machine start).run callbacks = some op) :
    ¬SuccessMeansSaved profile.imagem op ∧ (op.Reports ↔ ∀ r, .failed r ∉ op.log) ∧
      (op.CommitsPhoto profile.imagem ↔ profile.imagem = none) := by
  obtain ⟨uid, data, rfl⟩ := hstart.eq_submit
  have hcontinues := continues_of_run hrun
  exact ⟨fun h ↦ not_savedBefore hcontinues h.saved, reports_iff hcontinues,
    commitsPhoto_iff hcontinues⟩

/-- A signup with an image. -/
def sampleSignup : Profile where
  nome := "Ash"
  telefone := "(11) 98888 7777"
  console := "Switch"
  email := "ash@kanto.jp"
  imagem := some [137, 80, 78, 71]

/-- The image is stored, then the document is refused. -/
def sampleCallbacks : List Callback :=
  [.putData none, .downloadURL (some "https://storage/uid-1.png") none, .commitChanges none,
    .telefones (some "denied")]

theorem not_successMeansSaved_sampleSignup :
    ¬SuccessMeansSaved sampleSignup.imagem
      (((machine (signup sampleSignup (some "uid-1") none)).run sampleCallbacks).getD idle) := by
  have hrun : (machine (signup sampleSignup (some "uid-1") none)).run sampleCallbacks
      = some (((machine (signup sampleSignup (some "uid-1") none)).run sampleCallbacks).getD
        idle) := by rfl
  exact (not_successMeansSaved (.signup "uid-1") hrun).1

/-- Success is announced, the refusal is not reported, and the profile has no photo. -/
theorem sampleSignup_announces_success : ∃ op,
    (machine (signup sampleSignup (some "uid-1") none)).run sampleCallbacks = some op ∧
    .completion none ∈ op.log ∧ .failed .telefones ∈ op.log ∧
    op.photoURL = some "https://storage/uid-1.png" ∧
    op.committed = some { displayName := some "Ash", photoURL := none } ∧
    ¬op.SavedBefore ∧ ¬op.Reports ∧ ¬op.CommitsPhoto sampleSignup.imagem := by
  have hrun : (machine (signup sampleSignup (some "uid-1") none)).run sampleCallbacks
      = some (((machine (signup sampleSignup (some "uid-1") none)).run sampleCallbacks).getD
        idle) := by rfl
  have hcontinues : Continues (submit "uid-1" (signupData sampleSignup) sampleSignup) _ :=
    continues_of_run hrun
  refine ⟨_, hrun, by decide, by decide, rfl, rfl, not_savedBefore hcontinues, fun hreports ↦ ?_,
    fun hphoto ↦ ?_⟩
  · exact (reports_iff hcontinues).mp hreports .telefones (by decide)
  · exact absurd ((commitsPhoto_iff hcontinues).mp hphoto) (by decide)

end Operation

end Poketrader
