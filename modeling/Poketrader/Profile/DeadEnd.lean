import Poketrader.Views.PerfilForm

/-!
# Dead ends of the profile form

A form in edit mode is no dead end if the name can be edited at will and some edits lead to a form
that can be saved. The form refuses to begin a name where there is none, where the sign-up form lets
the same edit pass. So a form with an empty name is a dead end: nothing fills the name again, and
without one nothing is saved. There are two ways to it, emptying the name and entering the mode
without a name.
-/

open Document Foundation

namespace Poketrader

namespace PerfilForm

variable {currentUser : Option AuthUser} {s t : PerfilForm}

/-- Edits of any fields, one after the other. -/
def edits (es : List (PerfilField × NSRange × String)) : List Act :=
  es.map fun (textField, range, string) ↦ .edit textField range string

structure NoDeadEnd (currentUser : Option AuthUser) (s : PerfilForm) : Prop where
  /-- A proposed edit of the name is applied. -/
  applied (range : NSRange) (string text : String) :
    replacingCharacters s.fullNameTextField range string = some text →
    ∃ t, s.step currentUser (.edit .fullName range string) = some t ∧ t.fullNameTextField = text
  /-- Some edits lead to a form that can be saved. -/
  savable : ∃ es t, (machine currentUser).exec s (edits es) = some t ∧ t.checkFields = true

/-! ## What becomes of the name -/

/-- An edit is of a free field, and within the range of its text. -/
theorem step_edit_eq_some {textField : PerfilField} {range : NSRange} {string : String}
    (h : s.step currentUser (.edit textField range string) = some t) :
    s.isUserInteractionEnabled textField = true ∧
      ∃ text, replacingCharacters (s.text textField) range string = some text ∧
        t = s.edited textField text := by
  rw [step, Option.ite_none_right_eq_some, edit_eq] at h
  obtain ⟨henabled, h⟩ := h
  obtain ⟨text, htext, rfl⟩ := Option.map_eq_some_iff.mp h
  exact ⟨henabled, text, htext, rfl⟩

theorem step_edit {textField : PerfilField} {range : NSRange} {string text : String}
    (henabled : s.isUserInteractionEnabled textField = true)
    (htext : replacingCharacters (s.text textField) range string = some text) :
    s.step currentUser (.edit textField range string) = some (s.edited textField text) := by
  rw [step, if_pos henabled, edit_eq, htext, Option.map_some]

/-- An edit keeps the mode, and the name unless it is of the name. -/
theorem edited_of_ne {textField : PerfilField} (h : textField ≠ .fullName) (text : String) :
    (s.edited textField text).fullNameTextField = s.fullNameTextField ∧
      (s.edited textField text).editing = s.editing := by
  rcases textField with - | - | - | -
  · exact absurd rfl h
  · exact ⟨rfl, rfl⟩
  · exact ⟨rfl, rfl⟩
  · exact ⟨rfl, rfl⟩

/-- The document has nothing to do with the name. -/
theorem getDocument_eq_some {document : Option Fields}
    (h : s.step currentUser (.getDocument document) = some t) :
    t.fullNameTextField = s.fullNameTextField ∧ t.editing = s.editing := by
  rw [step, Option.ite_none_right_eq_some, Option.some_inj] at h
  obtain ⟨-, rfl⟩ := h
  exact ⟨rfl, rfl⟩

/-- Nothing fills an empty name. -/
theorem fullName_eq_empty_of_step {a : Act} (hs : s.fullNameTextField = "")
    (h : s.step currentUser a = some t) : t.fullNameTextField = "" := by
  rcases a with ⟨textField, range, string⟩ | imagem | document
  · obtain ⟨-, text, -, rfl⟩ := step_edit_eq_some h
    by_cases hname : textField = .fullName
    · rw [hname, edited, if_pos hs, hs]
    · rw [(edited_of_ne hname text).1, hs]
  · obtain ⟨editing, rfl, -⟩ := press_eq_some h
    exact hs
  · rw [(getDocument_eq_some h).1, hs]

/-- A form without a name stays without one, and cannot be saved. -/
theorem checkFields_eq_false_of_exec {acts : List Act} (hs : s.fullNameTextField = "")
    (h : (machine currentUser).exec s acts = some t) : t.checkFields = false := by
  have ht : t.fullNameTextField = "" :=
    Machine.invariant (I := fun s ↦ s.fullNameTextField = "")
      (fun _ _ _ hs hstep ↦ fullName_eq_empty_of_step hs hstep) hs h
  rw [← Bool.not_eq_true, checkFields_iff, ht]
  exact fun hvalid ↦ hvalid.1 rfl

/-- Any form that has a name can be made savable: paste a name over it, and a telephone. -/
theorem savable_of_ne_empty (hediting : s.editing = true) (hs : s.fullNameTextField ≠ "") :
    ∃ es t, (machine currentUser).exec s (edits es) = some t ∧ t.checkFields = true := by
  refine ⟨[(.fullName, .all s.fullNameTextField, "A"),
      (.telephone, .all s.telephoneTextField, "1")],
    { s with fullNameTextField := "A", telephoneTextField := "(1" }, ?_, ?_⟩
  · have hname : s.step currentUser (.edit .fullName (.all s.fullNameTextField) "A")
        = some { s with fullNameTextField := "A" } := by
      have henabled : s.isUserInteractionEnabled .fullName = true := hediting
      refine (step_edit henabled (replacingCharacters_all _ _)).trans ?_
      rw [edited, if_neg hs]
    have htelephone : step { s with fullNameTextField := "A" } currentUser
        (.edit .telephone (.all s.telephoneTextField) "1")
        = some { s with fullNameTextField := "A", telephoneTextField := "(1" } := by
      have henabled : isUserInteractionEnabled { s with fullNameTextField := "A" } .telephone
        = true := hediting
      exact step_edit henabled (replacingCharacters_all _ _)
    exact Machine.exec_cons_eq_some.mpr ⟨_, hname, Machine.exec_cons_eq_some.mpr
      ⟨_, htelephone, rfl⟩⟩
  · have hname : trimmingCharacters whitespaces "A" ≠ "" := by decide
    have htelephone : "(1" ≠ "" := by decide
    exact checkFields_iff.mpr ⟨hname, htelephone⟩

/-- In edit mode, the dead ends are the forms without a name. -/
theorem noDeadEnd_iff (hediting : s.editing = true) :
    NoDeadEnd currentUser s ↔ s.fullNameTextField ≠ "" := by
  constructor
  · rintro ⟨-, es, t, hexec, hvalid⟩ hs
    rw [checkFields_eq_false_of_exec hs hexec] at hvalid
    exact Bool.false_ne_true hvalid
  · intro hs
    refine ⟨fun range string text htext ↦ ?_, savable_of_ne_empty hediting hs⟩
    refine ⟨_, step_edit hediting htext, ?_⟩
    rw [edited, if_neg hs]

/-! ## Along a run -/

/-- What makes no dead end: an edit that leaves a name, and Editar on a form that has one. -/
def KeepsName (s : PerfilForm) : Act → Prop
  | .edit .fullName range string =>
    replacingCharacters s.fullNameTextField range string ≠ some ""
  | .edit .email _ _ | .edit .console _ _ | .edit .telephone _ _ => True
  | .pressedSalvarButton _ => s.editing = true ∨ s.fullNameTextField ≠ ""
  | .getDocument _ => True

instance (s : PerfilForm) : ∀ a, Decidable (s.KeepsName a)
  | .edit .fullName range string =>
    inferInstanceAs (Decidable (replacingCharacters s.fullNameTextField range string ≠ some ""))
  | .edit .email _ _ | .edit .console _ _ | .edit .telephone _ _ => .isTrue trivial
  | .pressedSalvarButton _ =>
    inferInstanceAs (Decidable (s.editing = true ∨ s.fullNameTextField ≠ ""))
  | .getDocument _ => .isTrue trivial

theorem keepsName_edit_of_ne {textField : PerfilField} (h : textField ≠ .fullName)
    (range : NSRange) (string : String) : s.KeepsName (.edit textField range string) := by
  rcases textField with - | - | - | -
  · exact absurd rfl h
  · trivial
  · trivial
  · trivial

/-- A step from a form that is no dead end leads to one exactly if it loses the name. -/
theorem noDeadEnd_step {a : Act} (hs : s.editing = true → s.fullNameTextField ≠ "")
    (h : s.step currentUser a = some t) :
    (t.editing = true → t.fullNameTextField ≠ "") ↔ s.KeepsName a := by
  rcases a with ⟨textField, range, string⟩ | imagem | document
  · obtain ⟨henabled, text, htext, rfl⟩ := step_edit_eq_some h
    by_cases hname : textField = .fullName
    · subst hname
      have hediting : s.editing = true := henabled
      have htext : replacingCharacters s.fullNameTextField range string = some text := htext
      rw [edited, if_neg (hs hediting), KeepsName, htext, Ne, Ne, Option.some_inj]
      exact ⟨fun ht ↦ ht hediting, fun ht _ ↦ ht⟩
    · obtain ⟨hfullName, hediting⟩ := edited_of_ne (s := s) hname text
      rw [hfullName, hediting]
      exact iff_of_true hs (keepsName_edit_of_ne hname range string)
  · obtain ⟨editing, rfl, hfree⟩ := press_eq_some h
    by_cases hediting : s.editing = true
    · exact iff_of_true (fun _ ↦ hs hediting) (.inl hediting)
    · rw [hfree (Bool.not_eq_true _ ▸ hediting)]
      exact ⟨fun ht ↦ .inr (ht rfl), fun hkeeps _ ↦ hkeeps.resolve_left hediting⟩
  · obtain ⟨hfullName, hediting⟩ := getDocument_eq_some h
    rw [hfullName, hediting]
    exact iff_of_true hs trivial

/-- **The form is no dead end in edit mode as long as the name is kept**, and no longer: along a
run from the loaded screen, every state in edit mode can be edited at will and made savable exactly
if no edit empties the name and Editar is not pressed without one. -/
theorem noDeadEnd_iff_allowed (currentUser : Option AuthUser) (acts : List Act) :
    (machine currentUser).Always (fun s ↦ s.editing = true → NoDeadEnd currentUser s)
      (viewDidLoad currentUser) acts ↔
    (machine currentUser).Allowed KeepsName (viewDidLoad currentUser) acts := by
  have hiff : ∀ s : PerfilForm, (s.editing = true → NoDeadEnd currentUser s) ↔
      (s.editing = true → s.fullNameTextField ≠ "") :=
    fun s ↦ imp_congr_right noDeadEnd_iff
  refine Machine.always_iff_allowed (I := fun _ ↦ True) (fun _ _ _ _ _ ↦ trivial) ?_ trivial ?_
  · intro s a t _ hs hstep
    rw [hiff] at hs ⊢
    exact noDeadEnd_step hs hstep
  · intro hediting
    exact absurd hediting Bool.false_ne_true

/-- A user with a name. -/
def ana : AuthUser := ⟨"u", none, some "Ana", none⟩

/-- A user presses Editar, deletes the name and cannot write another: no edit of the empty field is
applied, and no edits at all lead to a form that can be saved. -/
theorem deadEnd_of_deletedName :
    ∃ s, (machine (some ana)).run [.pressedSalvarButton none, .edit .fullName ⟨0, 3⟩ ""] = some s ∧
      s.editing = true ∧ s.step (some ana) (.edit .fullName ⟨0, 0⟩ "Bia") = some s ∧
      s.fullNameTextField = "" ∧ replacingCharacters "" ⟨0, 0⟩ "Bia" = some "Bia" ∧
      ¬NoDeadEnd (some ana) s := by
  refine ⟨{ viewDidLoad (some ana) with fullNameTextField := "", editing := true }, by rfl, rfl,
    by rfl, rfl, by rfl, ?_⟩
  rw [noDeadEnd_iff rfl]
  exact fun hname ↦ hname rfl

end PerfilForm

end Poketrader
