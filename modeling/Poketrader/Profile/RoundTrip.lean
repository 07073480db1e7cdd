import Mathlib.Data.List.Induction
import Poketrader.Network.AuthenticationWorker
import Poketrader.Views.PerfilViewController

/-!
# The profile document

One document, two writers and a reader. Signing up writes the telephone and the console, saving the
profile replaces the document by one with the telephone alone, and the profile screen fills its two
fields only if it finds both keys. So the screen shows what was submitted last exactly as long as
nothing was submitted after signing up.
-/

open Document

namespace Poketrader

open AuthenticationWorker

/-- Carry out the document writes of an operation, in order. -/
def Operation.applyWrites (op : Operation) (telefones : Collection) : Collection :=
  op.writes.foldl (fun t w ↦ w.commit t) telefones

/-- The collection after a signup and the profile saves that follow it, all of them successful. -/
def telefonesAfter (uid : String) (telefones : Collection) (signedUp : Profile)
    (saves : List Profile) : Collection :=
  saves.foldl (fun t profile ↦ match upload profile (some uid) with
    | some op => op.applyWrites t
    | none => t) ((signup signedUp (some uid) none).applyWrites telefones)

/-- The fields as they are filled with what a form submitted. -/
def Profile.shown (profile : Profile) : PerfilViewController where
  telephoneTextField := profile.telefone
  consoleTextField := profile.console

theorem applyWrites_signup (uid : String) (telefones : Collection) (profile : Profile) :
    ((signup profile (some uid) none).applyWrites telefones)[uid]? = some (signupData profile) := by
  rw [Operation.applyWrites, signup_writes, List.foldl_cons, List.foldl_nil,
    Write.getElem?_commit_setData, if_pos rfl]

theorem applyWrites_upload {uid : String} {profile : Profile} {op : Operation}
    (h : upload profile (some uid) = some op) (telefones : Collection) :
    (op.applyWrites telefones)[uid]? = some (uploadData profile) := by
  rw [Operation.applyWrites, upload_writes h, List.foldl_cons, List.foldl_nil,
    Write.getElem?_commit_setData, if_pos rfl]

/-- The document after a last save is that of the save. -/
theorem telefonesAfter_concat (uid : String) (telefones : Collection) (signedUp last : Profile)
    (saves : List Profile) :
    (telefonesAfter uid telefones signedUp (saves ++ [last]))[uid]? = some (uploadData last) := by
  rw [telefonesAfter, List.foldl_append, List.foldl_cons, List.foldl_nil]
  exact applyWrites_upload rfl _

theorem getTelephone_signupData (vc : PerfilViewController) (profile : Profile) :
    vc.getTelephone (some (signupData profile)) = profile.shown := rfl

/-- A document without a console leaves the fields as they are. -/
theorem getTelephone_uploadData (vc : PerfilViewController) (profile : Profile) :
    vc.getTelephone (some (uploadData profile)) = vc := rfl

/-- **Profile round trip.** Whatever the fields show before, they are filled with the last
submission exactly if no profile save followed the signup. -/
theorem getTelephone_shows_last_iff (uid : String) (telefones : Collection) (signedUp : Profile)
    (saves : List Profile) :
    (∀ vc : PerfilViewController,
      vc.getTelephone (telefonesAfter uid telefones signedUp saves)[uid]?
        = ((signedUp :: saves).getLast (List.cons_ne_nil _ _)).shown) ↔ saves = [] := by
  constructor
  · intro h
    cases saves using List.reverseRecOn with
    | nil => rfl
    | append_singleton saves last =>
      simp only [telefonesAfter_concat, getTelephone_uploadData] at h
      -- the fields stay as they were, and they were not always what the last save submitted
      have hempty := h ⟨"", ""⟩
      have hother := h ⟨"", "console"⟩
      exact absurd (hempty.trans hother.symm) (by decide)
  · rintro rfl vc
    rw [telefonesAfter, List.foldl_nil, applyWrites_signup]
    exact getTelephone_signupData vc signedUp

/-- A user who signs up and later changes the console. -/
def sampleProfile : Profile where
  nome := "Ash"
  telefone := "(11) 98888 7777"
  console := "Switch"
  email := "ash@kanto.jp"
  imagem := none

/-- Saving the profile once, with nothing changed, loses the console, and the fields of a screen
that opens empty stay empty. -/
theorem getTelephone_sampleProfile :
    PerfilViewController.getTelephone ⟨"", ""⟩
        (telefonesAfter "uid-1" ∅ sampleProfile [sampleProfile])["uid-1"]? = ⟨"", ""⟩ ∧
      sampleProfile.shown ≠ ⟨"", ""⟩ ∧
      ((telefonesAfter "uid-1" ∅ sampleProfile [sampleProfile])["uid-1"]?).bind
        (fun data ↦ data "console") = none := by
  have hget := telefonesAfter_concat "uid-1" ∅ sampleProfile sampleProfile []
  rw [List.nil_append] at hget
  rw [hget]
  exact ⟨rfl, by decide, rfl⟩

end Poketrader
