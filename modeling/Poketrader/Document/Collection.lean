import Poketrader.Document.Fields

/-!
# Collections of documents

A collection maps document keys to field maps and lists its documents in key order. Four writes
change it. `setData` without merging replaces the whole document, `updateData` needs the document
to be there, and `delete` succeeds whether or not it was: a deletion under a wrong key is silent.

## Collections as images

A store that only ever holds documents of one shape is the image of a map of typed values under an
encoding. `insert_map`, `erase_map` and `modify_map` say that writing an encoded value is encoding
the written value, which is the step lemma of every refinement built on this module.
-/

open Std (ExtTreeMap)

namespace Document

/-- A collection: its documents under their keys. -/
abbrev Collection := ExtTreeMap String Fields

/-- A key the client draws for a new document. -/
structure AutoId where
  /-- The key. -/
  key : String
  /-- Drawn keys have twenty characters. -/
  length_eq : key.length = 20

/-- A write to one collection. -/
inductive Write where
  | setData (id : String) (data : Fields)
  | updateData (id : String) (data : Fields)
  | delete (id : String)

namespace Write

/-- The document a write is about. -/
def id : Write → String
  | .setData id _ => id
  | .updateData id _ => id
  | .delete id => id

/-- Apply a write; `none` is the error answer, which has no effect. -/
def apply : Write → Collection → Option Collection
  | .setData id data, t => some (t.insert id data)
  | .updateData id data, t => (t[id]?).map fun old ↦ t.insert id (old.update data)
  | .delete id, t => some (t.erase id)

/-- The collection after a write that may fail. -/
def commit (w : Write) (t : Collection) : Collection := (w.apply t).getD t

@[simp] theorem commit_setData (id : String) (data : Fields) (t : Collection) :
    (setData id data).commit t = t.insert id data := rfl

@[simp] theorem commit_delete (id : String) (t : Collection) :
    (delete id).commit t = t.erase id := rfl

theorem commit_updateData_of_none {id : String} {t : Collection} (data : Fields)
    (h : t[id]? = none) : (updateData id data).commit t = t := by
  rw [commit, apply, h, Option.map_none, Option.getD_none]

theorem commit_updateData_of_some {id : String} {t : Collection} (data : Fields) {old : Fields}
    (h : t[id]? = some old) : (updateData id data).commit t = t.insert id (old.update data) := by
  rw [commit, apply, h, Option.map_some, Option.getD_some]

theorem getElem?_commit_setData (id j : String) (data : Fields) (t : Collection) :
    ((setData id data).commit t)[j]? = if id = j then some data else t[j]? := by
  rw [commit_setData, ExtTreeMap.getElem?_insert]
  simp only [Std.LawfulEqCmp.compare_eq_iff_eq]

theorem getElem?_commit_updateData (id j : String) (data : Fields) (t : Collection) :
    ((updateData id data).commit t)[j]?
      = if id = j then (t[j]?).map (·.update data) else t[j]? := by
  cases h : t[id]? with
  | none =>
    rw [commit_updateData_of_none data h]
    split
    · next hij => rw [← hij, h, Option.map_none]
    · rfl
  | some old =>
    rw [commit_updateData_of_some data h, ExtTreeMap.getElem?_insert]
    simp only [Std.LawfulEqCmp.compare_eq_iff_eq]
    split
    · next hij => rw [← hij, h, Option.map_some]
    · rfl

theorem getElem?_commit_delete (id j : String) (t : Collection) :
    ((delete id).commit t)[j]? = if id = j then none else t[j]? := by
  rw [commit_delete, ExtTreeMap.getElem?_erase]
  simp only [Std.LawfulEqCmp.compare_eq_iff_eq]

/-- Creating a document and updating it is creating the updated document. -/
theorem commit_updateData_commit_setData (id : String) (data new : Fields) (t : Collection) :
    (updateData id new).commit ((setData id data).commit t)
      = (setData id (data.update new)).commit t := by
  refine ExtTreeMap.ext_getElem? fun j ↦ ?_
  rw [getElem?_commit_updateData, getElem?_commit_setData, getElem?_commit_setData]
  split
  · rw [Option.map_some]
  · rfl

/-- **Frame.** A write changes no other document. -/
theorem getElem?_commit_of_ne (w : Write) {j : String} (t : Collection) (h : w.id ≠ j) :
    (w.commit t)[j]? = t[j]? := by
  cases w with
  | setData id data =>
    rw [getElem?_commit_setData]
    exact if_neg h
  | updateData id data =>
    rw [getElem?_commit_updateData]
    exact if_neg h
  | delete id =>
    rw [getElem?_commit_delete]
    exact if_neg h

end Write

/-! ## Queries -/

/-- The documents whose field `k` is the string `s`, in key order. -/
def whereField (t : Collection) (k s : String) : List (String × Fields) :=
  t.toList.filter fun d ↦ d.2.string k = some s

@[simp] theorem mem_toList_iff {t : Collection} {d : String × Fields} :
    d ∈ t.toList ↔ t[d.1]? = some d.2 :=
  ExtTreeMap.mem_toList_iff_getElem?_eq_some

theorem mem_whereField_iff {t : Collection} {k s : String} {d : String × Fields} :
    d ∈ whereField t k s ↔ t[d.1]? = some d.2 ∧ d.2.string k = some s := by
  rw [whereField, List.mem_filter, mem_toList_iff, decide_eq_true_iff]

/-! ## Collections as images of an encoding -/

section Image

variable {β : Type*} (encode : String → β → Fields) (m : ExtTreeMap String β) (k : String)

theorem insert_map (v : β) :
    (m.map encode).insert k (encode k v) = (m.insert k v).map encode := by
  refine ExtTreeMap.ext_getElem? fun j ↦ ?_
  rw [ExtTreeMap.getElem?_insert, ExtTreeMap.getElem?_map, ExtTreeMap.getElem?_map,
    ExtTreeMap.getElem?_insert]
  simp only [Std.LawfulEqCmp.compare_eq_iff_eq]
  split
  · next h => rw [h, Option.map_some]
  · rfl

theorem erase_map : (m.map encode).erase k = (m.erase k).map encode := by
  refine ExtTreeMap.ext_getElem? fun j ↦ ?_
  rw [ExtTreeMap.getElem?_erase, ExtTreeMap.getElem?_map, ExtTreeMap.getElem?_map,
    ExtTreeMap.getElem?_erase]
  split
  · rfl
  · rfl

/-- An update that acts on every encoded value as `f` does on the value itself. -/
theorem commit_updateData_map {f : β → β} {data : Fields}
    (hf : ∀ v, (encode k v).update data = encode k (f v)) :
    (Write.updateData k data).commit (m.map encode) = (m.modify k f).map encode := by
  refine ExtTreeMap.ext_getElem? fun j ↦ ?_
  rw [Write.getElem?_commit_updateData, ExtTreeMap.getElem?_map, ExtTreeMap.getElem?_map,
    ExtTreeMap.getElem?_modify]
  simp only [Std.LawfulEqCmp.compare_eq_iff_eq]
  split
  · next h =>
    subst h
    cases m[k]? with
    | none => rfl
    | some v => simp only [Option.map_some, hf]
  · rfl

end Image

end Document
