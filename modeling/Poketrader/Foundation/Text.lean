import Mathlib.Data.List.DropRight
import Mathlib.Tactic.Common

/-!
# Text

The pieces of the string library the forms rest on. A text is the sequence of its Unicode scalars.
-/

namespace Foundation

/-- `CharacterSet.whitespaces`: the space separators and the tab. -/
def whitespaces (c : Char) : Bool :=
  c.val = 0x09 || c.val = 0x20 || c.val = 0xA0 || c.val = 0x1680
    || (0x2000 ≤ c.val && c.val ≤ 0x200A) || c.val = 0x202F || c.val = 0x205F || c.val = 0x3000

/-- `CharacterSet.newlines`. -/
def newlines (c : Char) : Bool :=
  (0x0A ≤ c.val && c.val ≤ 0x0D) || c.val = 0x85 || c.val = 0x2028 || c.val = 0x2029

/-- `CharacterSet.whitespacesAndNewlines`. -/
def whitespacesAndNewlines (c : Char) : Bool := whitespaces c || newlines c

/-- Drop the characters of a set from both ends. -/
def trimmingCharacters (set : Char → Bool) (s : String) : String :=
  String.ofList ((s.toList.dropWhile set).rdropWhile set)

/-- The zeros of the decimal digits, which come in runs of ten. -/
def zeros : List ℕ :=
  [0x30, 0x660, 0x6F0, 0x7C0, 0x966, 0x9E6, 0xA66, 0xAE6, 0xB66, 0xBE6, 0xC66, 0xCE6, 0xD66, 0xDE6,
    0xE50, 0xED0, 0xF20, 0x1040, 0x1090, 0x17E0, 0x1810, 0x1946, 0x19D0, 0x1A80, 0x1A90, 0x1B50,
    0x1BB0, 0x1C40, 0x1C50, 0xA620, 0xA8D0, 0xA900, 0xA9D0, 0xA9F0, 0xAA50, 0xABF0, 0xFF10,
    0x104A0, 0x10D30, 0x11066, 0x110F0, 0x11136, 0x111D0, 0x112F0, 0x11450, 0x114D0, 0x11650,
    0x116C0, 0x11730, 0x118E0, 0x11950, 0x11C50, 0x11D50, 0x11DA0, 0x16A60, 0x16AC0, 0x16B50,
    0x1D7CE, 0x1D7D8, 0x1D7E2, 0x1D7EC, 0x1D7F6, 0x1E140, 0x1E2F0, 0x1E950, 0x1FBF0]

/-- `CharacterSet.decimalDigits`. -/
def decimalDigits (c : Char) : Bool := zeros.any fun start ↦ start ≤ c.toNat && c.toNat < start + 10

/-- A text none of whose characters is in the set has nothing to trim. -/
theorem trimmingCharacters_eq_self {set : Char → Bool} {s : String}
    (h : ∀ c ∈ s.toList, set c = false) : trimmingCharacters set s = s := by
  have hleft : s.toList.dropWhile set = s.toList :=
    List.dropWhile_eq_self_iff.mpr fun hpos ↦ by simp [h _ (List.getElem_mem hpos)]
  have hright : s.toList.rdropWhile set = s.toList :=
    List.rdropWhile_eq_self_iff.mpr fun hne ↦ by simp [h _ (List.getLast_mem hne)]
  rw [trimmingCharacters, hleft, hright, String.ofList_toList]

end Foundation
