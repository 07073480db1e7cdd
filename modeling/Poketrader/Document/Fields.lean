import Mathlib.Data.Int.Notation
import Mathlib.Tactic.Common

/-!
# Field maps of a document store

A document is a finite map from field names to values of a few types. A client reads a field by
name and by type at once, so a missing field and a field of another type look the same to it:
`Fields.string` is that read.

A map is represented by its lookup function. Literals are written as the list of their entries and
turned into a map by `Fields.ofList`; an update lists only the fields it changes and leaves the
others as they are.
-/

namespace Document

/-- A field value. -/
inductive Value where
  | null
  | boolean (b : Bool)
  | integer (n : ℤ)
  | string (s : String)
  | bytes (data : List UInt8)
  | timestamp (seconds : ℤ) (nanoseconds : ℕ)
  | array (elements : List Value)
  | map (entries : List (String × Value))

/-- The conditional cast to a string. -/
def Value.asString : Value → Option String
  | .string s => some s
  | _ => none

@[simp] theorem Value.asString_string (s : String) : (Value.string s).asString = some s := rfl

/-- The fields of a document, as the lookup function. -/
abbrev Fields := String → Option Value

namespace Fields

/-- The map of a dictionary literal. -/
def ofList : List (String × Value) → Fields
  | [], _ => none
  | (k, v) :: entries, j => if j = k then some v else ofList entries j

/-- Change the fields listed in `new` and leave the others alone. -/
def update (old new : Fields) : Fields := fun k ↦ (new k).or (old k)

/-- Read a field as a string: `none` if it is missing or has another type. -/
def string (data : Fields) (k : String) : Option String := (data k).bind Value.asString

@[simp] theorem ofList_nil (j : String) : ofList [] j = none := rfl

@[simp] theorem ofList_cons (k : String) (v : Value) (entries : List (String × Value))
    (j : String) : ofList ((k, v) :: entries) j = if j = k then some v else ofList entries j := rfl

theorem ofList_eq_none {entries : List (String × Value)} {j : String}
    (h : j ∉ entries.map Prod.fst) : ofList entries j = none := by
  induction entries with
  | nil => rfl
  | cons e entries ih =>
    rw [List.map_cons, List.mem_cons, not_or] at h
    rw [ofList_cons, if_neg h.1, ih h.2]

/-! ## Reading through a literal and through an update -/

@[simp] theorem string_ofList_nil (j : String) : (ofList []).string j = none := rfl

@[simp] theorem string_ofList_cons (k s : String) (entries : List (String × Value)) (j : String) :
    (ofList ((k, .string s) :: entries)).string j
      = if j = k then some s else (ofList entries).string j := by
  rw [string, ofList_cons]
  split
  · rfl
  · rfl

/-- A field that reads as a text after an update read so in the update or before it. -/
theorem string_update {old new : Fields} {k text : String}
    (h : (old.update new).string k = some text) :
    new.string k = some text ∨ old.string k = some text := by
  rw [string, update] at h
  rcases hnew : new k with - | v
  · rw [hnew, Option.none_or] at h
    exact .inr h
  · rw [hnew, Option.some_or] at h
    refine .inl ?_
    rw [string, hnew]
    exact h

/-- A field that reads as a string is that string. -/
theorem eq_string {data : Fields} {k s : String} (h : data.string k = some s) :
    data k = some (.string s) := by
  obtain ⟨v, hv, hs⟩ := Option.bind_eq_some_iff.mp h
  cases v with
  | string s' => rw [hv, Option.some_inj.mp hs]
  | null | boolean _ | integer _ | bytes _ | timestamp _ _ | array _ | map _ =>
    exact absurd hs.symm (Option.some_ne_none s)

theorem update_of_eq_none {old new : Fields} {j : String} (h : new j = none) :
    old.update new j = old j := by
  rw [update, h, Option.none_or]

/-- Overwriting the first entry of a literal is writing the new value there to begin with. -/
theorem update_ofList_cons (k : String) (v w : Value) (entries : List (String × Value)) :
    (ofList ((k, v) :: entries)).update (ofList [(k, w)]) = ofList ((k, w) :: entries) := by
  funext j
  rw [update, ofList_cons, ofList_cons, ofList_cons, ofList_nil]
  split
  · rw [Option.some_or]
  · rw [Option.none_or]

end Fields

end Document
