import ClientGen.Proofs.Naming.Words
import ClientGen.View.Field
import Mathlib.Data.List.Perm.Basic

/-! The attributes of a record in Python. There is one for every field, and fields that may be left
out come last. Two fields share an attribute just if their names have the same words. -/
namespace ClientGen

namespace View
open Naming

theorem requiredFirstPerm (fs : List FieldView) : (requiredFirst fs).Perm fs := by
  rw [requiredFirst, sortedByParts]
  simpa using List.filter_append_perm (fun f : FieldView => !f.isOptional) fs

theorem fieldCalled {f : Field String} {name : String} (named : f.name = .str name) :
    ∃ v, field .python f = .ok v ∧ v.name = pythonName name :=
  ⟨pythonField f name.toList, by rw [field, named], rfl⟩

theorem fieldsCalled {fs : List (Field String)} {names : List String}
    (named : fs.map (·.name) = names.map .str) :
    ∃ vs, fields .python fs = .ok vs ∧ vs.map (·.name) = names.map pythonName := by
  induction fs generalizing names with
  | nil =>
    cases names with
    | nil => exact ⟨[], rfl, rfl⟩
    | cons name names => cases named
  | cons f rest ih =>
    cases names with
    | nil => cases named
    | cons name names =>
      obtain ⟨here, later⟩ := List.cons.inj named
      obtain ⟨v, first, own⟩ := fieldCalled here
      obtain ⟨vs, others, called⟩ := ih later
      refine ⟨v :: vs, ?_, by simp [own, called]⟩
      rw [fields, first, others]
      rfl

theorem attributesApart {d : Spelled} {names : List String}
    (named : d.fields.map (·.name) = names.map .str) :
    ∃ v, type .python d = .ok v ∧ v.name = d.name ∧
      (v.fields.map (·.name)).Perm (names.map pythonName) ∧
      ((v.fields.map (·.name)).Nodup ↔ (names.map fun n => nameWords n.toList).Nodup) := by
  obtain ⟨vs, shown, called⟩ := fieldsCalled named
  have all : ((requiredFirst vs).map (·.name)).Perm (names.map pythonName) :=
    called ▸ (requiredFirstPerm vs).map _
  refine ⟨⟨d.name, requiredFirst vs⟩, ?_, rfl, all, ?_⟩
  · rw [type, shown]
    rfl
  · rw [all.nodup_iff, pythonNamesApart]

def account (names : List String) : Spelled :=
  ⟨"Account", names.map fun n => ⟨.str n, "str", n != "id", .null, true⟩⟩

theorem accountWhole :
    (account ["user-id", "id", "userName"]).fields.map (·.name) =
      ["user-id", "id", "userName"].map .str ∧
    (["user-id", "id", "userName"].map fun n => nameWords n.toList).Nodup ∧
    ∃ v, type .python (account ["user-id", "id", "userName"]) = .ok v ∧
      v.fields.map (·.name) = [.str "id", .str "user_id", .str "user_name"] ∧
      (v.fields.map (·.name)).Nodup := by
  have words : (["user-id", "id", "userName"].map fun n => nameWords n.toList).Nodup := by
    decide +kernel
  have named : (account ["user-id", "id", "userName"]).fields.map (·.name) =
      ["user-id", "id", "userName"].map .str := rfl
  obtain ⟨v, shown, _, _, apart⟩ := attributesApart named
  refine ⟨named, words, v, shown, ?_, apart.mpr words⟩
  cases shown
  rfl

theorem accountMerged :
    ["userId", "user_id"].Nodup ∧
    ∃ v, type .python (account ["userId", "user_id"]) = .ok v ∧
      v.fields.map (·.name) = [.str "user_id", .str "user_id"] :=
  ⟨by decide, _, rfl, rfl⟩

end View
end ClientGen
