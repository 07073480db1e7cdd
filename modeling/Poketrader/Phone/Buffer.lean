import Poketrader.Foundation.Substring
import Poketrader.Phone.Mask
import Poketrader.Views.CadastroViewController
import Poketrader.Views.PerfilForm

/-!
# The telephone field as a buffer of digits

Both forms answer an edit of the telephone themselves: the text with the range replaced goes through
the mask, and the field shows what comes out. Seen through its digits the field is a plain buffer.
An edit at positions of the masked text puts the digits of the replacement in the place of some
digits of the buffer, and the literals, wherever the range cuts them, do not matter.

The two forms are simulated by one machine whose state is the text of the field.
-/

open Foundation

namespace Poketrader

open CadastroController (fillMask)

namespace Phone

variable {mask : List Char} {text : String}

/-- The text machine of a masked field. -/
def field (mask : List Char) : Machine String (NSRange × String) where
  start := ""
  step text a := (replacingCharacters text a.1 a.2).map (masked mask)

/-- The edits of one field of a form, started from the form `start`. -/
def editing {σ : Type*} (edit : σ → NSRange → String → Option σ) (start : σ) :
    Machine σ (NSRange × String) where
  start := start
  step s a := edit s a.1 a.2

/-- The text of the field shows a buffer of at most eleven digits, and `edit`, which yields the text
after a proposed edit, edits the buffer. -/
structure PlainBuffer (mask : List Char) (edit : NSRange → String → Option String)
    (text : String) : Prop where
  filled : Filled mask (digits text) text.toList
  length : (digits text).length ≤ 11
  /-- The digits of the replacement take the place of those in the range. -/
  replaced (range : NSRange) (string : String) : range.Within text →
    rejoins text range string = false → ∃ text', edit range string = some text' ∧ digits text'
      = (digits (textBefore text range) ++ digits string ++ digits (textAfter text range)).take 11
  /-- The digits around the range are digits of the buffer, in their order. -/
  kept (range : NSRange) : ∃ removed, digits text
    = digits (textBefore text range) ++ removed ++ digits (textAfter text range)
  /-- Deleting the last character deletes the last digit. -/
  backspace (ds : List Char) (d : Char) : digits text = ds ++ [d] → ∃ text',
    edit ⟨(text.toList.flatMap utf16).length - (utf16 d).length, (utf16 d).length⟩ "" = some text' ∧
      digits text' = ds

theorem digits_append (s t : String) : digits (s ++ t) = digits s ++ digits t := by
  rw [digits, String.toList_append, List.filter_append, digits, digits]

/-- No digit comes from a half of a scalar, so the digits around a range are digits of the text. -/
theorem exists_removed (text : String) (range : NSRange) : ∃ removed, digits text
    = digits (textBefore text range) ++ removed ++ digits (textAfter text range) := by
  have hset : decimalDigits '\uFFFD' = false := by decide
  obtain ⟨removed, hremoved⟩ := exists_filter_eq hset text.toList
    (Nat.le_add_right range.location range.length)
  refine ⟨removed, ?_⟩
  rw [digits, hremoved, digits, digits, textBefore, textAfter, String.toList_ofList,
    String.toList_ofList]

/-- The digits after an edit of a masked field. -/
theorem digits_edit (h : Tight decimalDigits mask) {range : NSRange} {string : String}
    (hrange : range.Within text) (hrejoins : rejoins text range string = false) :
    ∃ text', (field mask).step text (range, string) = some text' ∧ digits text'
      = (digits (textBefore text range) ++ digits string
          ++ digits (textAfter text range)).take (capacity mask) := by
  refine ⟨masked mask (textBefore text range ++ string ++ textAfter text range), ?_, ?_⟩
  · exact congrArg (Option.map (masked mask)) (replacingCharacters_eq hrange hrejoins)
  · rw [digits_masked h, digits_append, digits_append]

/-- A text that is filled in ends in the last of its digits. -/
theorem Filled.eq_append (h : Tight decimalDigits mask) {ds : List Char} {d : Char}
    (hfilled : Filled mask (digits text) text.toList) (hds : digits text = ds ++ [d]) :
    ∃ init, text.toList = init ++ [d] ∧ init.filter decimalDigits = ds := by
  rcases List.eq_nil_or_concat' text.toList with hnil | ⟨init, c, hlast⟩
  · rw [digits, hnil] at hds
    exact absurd hds (by simp)
  · have hc : decimalDigits c = true := by
      have hmem : c ∈ (fillMask mask (digits text)).getLast? := by
        rw [← hfilled.eq_fillMask, hlast, List.getLast?_concat]
        rfl
      exact (List.mem_filter.mp (mem_of_getLast?_fillMask h hmem)).2
    rw [digits, hlast, List.filter_append, List.filter_cons_of_pos hc, List.filter_nil] at hds
    obtain ⟨hinit, hd⟩ := List.append_inj' hds rfl
    obtain rfl : c = d := List.singleton_injective hd
    exact ⟨init, hlast, hinit⟩

/-- A masked field is a buffer, whatever was masked. -/
theorem plainBuffer_masked (h : Tight decimalDigits mask) (hcapacity : capacity mask = 11)
    (s : String) :
    PlainBuffer mask (fun range string ↦ (field mask).step (masked mask s) (range, string))
      (masked mask s) := by
  have hfilled : Filled mask (digits (masked mask s)) (masked mask s).toList := by
    rw [digits_masked h, masked, String.toList_ofList]
    exact filled_fillMask h (digits s)
  have hlength : (digits (masked mask s)).length ≤ 11 := by
    rw [digits_masked h, List.length_take, hcapacity]
    exact Nat.min_le_left _ _
  refine ⟨hfilled, hlength, fun range string hrange hrejoins ↦ ?_, exists_removed _,
    fun ds d hds ↦ ?_⟩
  · rw [← hcapacity]
    exact digits_edit h hrange hrejoins
  · obtain ⟨init, hlast, hinit⟩ := hfilled.eq_append h hds
    have hunits : (masked mask s).toList.flatMap utf16 = init.flatMap utf16 ++ utf16 d := by
      rw [hlast, List.flatMap_append, List.flatMap_singleton]
    set range : NSRange := ⟨((masked mask s).toList.flatMap utf16).length - (utf16 d).length,
      (utf16 d).length⟩ with hrange
    have hlocation : range.location = (init.flatMap utf16).length := by
      rw [hrange, hunits, List.length_append, Nat.add_sub_cancel]
    have hend : range.location + range.length
        = ((masked mask s).toList.flatMap utf16).length := by
      rw [hlocation, hunits, List.length_append]
    have hbefore : textBefore (masked mask s) range = String.ofList init := by
      rw [textBefore, hunits, hlocation, List.take_left, ofUTF16_flatMap_utf16]
    have hafter : textAfter (masked mask s) range = "" := by
      rw [textAfter, hend, List.drop_length]
      rfl
    have hrejoins : rejoins (masked mask s) range "" = false := by
      rw [rejoins, hend, List.drop_length, halvesMeet, List.head?_nil, Option.any_none,
        Bool.and_false, Bool.and_false]
    obtain ⟨text', htext, hdigits⟩ := digits_edit h (Nat.le_of_eq hend) hrejoins
    refine ⟨text', htext, ?_⟩
    rw [hds, List.length_append] at hlength
    have hnil : digits "" = [] := rfl
    rw [hdigits, hbefore, hafter, hnil, List.append_nil, List.append_nil, digits,
      String.toList_ofList, hinit, hcapacity, List.take_of_length_le (by omega)]

/-- The text of the field is masked in every state, the empty text included. -/
theorem exists_masked_of_run {acts : List (NSRange × String)}
    (hrun : (field mask).run acts = some text) : ∃ s, text = masked mask s := by
  have hstart : ∃ s, "" = masked mask s :=
    ⟨"", (congrArg String.ofList (fillMask_nil mask)).symm⟩
  refine Machine.invariant (I := fun text ↦ ∃ s, text = masked mask s) ?_ hstart hrun
  rintro text a text' - hstep
  obtain ⟨s, -, rfl⟩ := Option.map_eq_some_iff.mp hstep
  exact ⟨s, rfl⟩

section

variable {σ : Type*} {fieldText : σ → String} {edit : σ → NSRange → String → Option σ}

/-- A form whose edits mask the text of a field, started with the field empty, keeps a buffer. -/
theorem plainBuffer_of_run (h : Tight decimalDigits mask) (hcapacity : capacity mask = 11)
    (hedit : ∀ s range string, (edit s range string).map fieldText
      = (replacingCharacters (fieldText s) range string).map (masked mask))
    {start s : σ} (hstart : fieldText start = "") {acts : List (NSRange × String)}
    (hrun : (editing edit start).run acts = some s) :
    PlainBuffer mask (fun range string ↦ (edit s range string).map fieldText) (fieldText s) := by
  have hmap : (field mask).run acts = some (fieldText s) := by
    have hsim := Machine.exec_map (M := editing edit start) (N := field mask) (f := fieldText)
      (fun s a ↦ (hedit s a.1 a.2).symm) acts start
    rw [hstart] at hsim
    exact hsim.trans (congrArg (Option.map fieldText) hrun)
  obtain ⟨number, htext⟩ := exists_masked_of_run hmap
  simp only [hedit, htext]
  exact plainBuffer_masked h hcapacity number

end

/-- **The telephone field of either form is a plain buffer** of at most eleven digits, after any
edits of it from the empty field. -/
theorem plainBuffer :
    (∀ (P : Platform) (start s : CadastroViewController) (acts : List (NSRange × String)),
      start.telefoneTextField = "" →
      (editing (fun vc ↦ vc.edit P .telefone) start).run acts = some s →
      PlainBuffer CadastroController.mask
        (fun range string ↦ (s.edit P .telefone range string).map (·.telefoneTextField))
        s.telefoneTextField) ∧
    ∀ (start s : PerfilForm) (acts : List (NSRange × String)), start.telephoneTextField = "" →
      (editing (fun vc ↦ vc.edit .telephone) start).run acts = some s →
      PlainBuffer PerfilController.mask
        (fun range string ↦ (s.edit .telephone range string).map (·.telephoneTextField))
        s.telephoneTextField := by
  constructor
  · intro P start s acts hstart hrun
    have hedit : ∀ (vc : CadastroViewController) range string,
        (vc.edit P .telefone range string).map (·.telefoneTextField)
          = (replacingCharacters vc.telefoneTextField range string).map
            (masked CadastroController.mask) := by
      intro vc range string
      rw [CadastroViewController.edit_eq, Option.map_map]
      rfl
    exact plainBuffer_of_run tight_mask (by decide) hedit hstart hrun
  · intro start s acts hstart hrun
    have hedit : ∀ (vc : PerfilForm) range string,
        (vc.edit .telephone range string).map (·.telephoneTextField)
          = (replacingCharacters vc.telephoneTextField range string).map
            (masked PerfilController.mask) := by
      intro vc range string
      rw [PerfilForm.edit_eq, Option.map_map]
      rfl
    exact plainBuffer_of_run tight_mask (by decide) hedit hstart hrun

/-- Pasting a number with a blank in it, then deleting its last two digits across the blank. -/
def deletingEdits : List (NSRange × String) :=
  [(⟨0, 0⟩, "11 98765"), (⟨9, 1⟩, ""), (⟨7, 2⟩, "")]

theorem plainBuffer_deletingEdits :
    (∃ s, (editing (fun vc ↦ vc.edit .scalarwise .telefone)
        (CadastroViewController.viewDidLoad none)).run deletingEdits = some s ∧
      s.telefoneTextField = "(11) 98" ∧ PlainBuffer CadastroController.mask
        (fun range string ↦ (s.edit .scalarwise .telefone range string).map (·.telefoneTextField))
        s.telefoneTextField) ∧
    ∃ s, (editing (fun vc ↦ vc.edit .telephone) (PerfilForm.viewDidLoad none)).run deletingEdits
        = some s ∧
      s.telephoneTextField = "(11) 98" ∧ PlainBuffer PerfilController.mask
        (fun range string ↦ (s.edit .telephone range string).map (·.telephoneTextField))
        s.telephoneTextField := by
  have hcadastro : (editing (fun vc ↦ vc.edit .scalarwise .telefone)
        (CadastroViewController.viewDidLoad none)).run deletingEdits
      = some { CadastroViewController.viewDidLoad none with telefoneTextField := "(11) 98" } := by
    rfl
  have hperfil : (editing (fun vc ↦ vc.edit .telephone)
        (PerfilForm.viewDidLoad none)).run deletingEdits
      = some { PerfilForm.viewDidLoad none with telephoneTextField := "(11) 98" } := by
    rfl
  exact ⟨⟨_, hcadastro, rfl, plainBuffer.1 _ _ _ _ rfl hcadastro⟩,
    ⟨_, hperfil, rfl, plainBuffer.2 _ _ _ rfl hperfil⟩⟩

/-- Where halves of a scalar meet, a digit is in the text that was neither before the range nor
after it: an edit of nothing between the two halves of a digit. -/
theorem digits_ne_of_halvesMeet :
    ∃ s t : PerfilForm, (editing (fun vc ↦ vc.edit .telephone) (PerfilForm.viewDidLoad none)).run
        [(⟨0, 0⟩, "𝟏")] = some s ∧
      NSRange.Within ⟨2, 0⟩ s.telephoneTextField ∧ s.edit .telephone ⟨2, 0⟩ "" = some t ∧
      digits t.telephoneTextField ≠ (digits (textBefore s.telephoneTextField ⟨2, 0⟩) ++ digits ""
        ++ digits (textAfter s.telephoneTextField ⟨2, 0⟩)).take 11 := by
  refine ⟨{ PerfilForm.viewDidLoad none with telephoneTextField := "(𝟏" },
    { PerfilForm.viewDidLoad none with telephoneTextField := "(𝟏" }, by rfl, ?_, by rfl, ?_⟩
  · decide
  · decide

end Phone

end Poketrader
