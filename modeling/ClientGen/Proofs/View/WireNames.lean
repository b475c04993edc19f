import ClientGen.Proofs.Text.Literal
import ClientGen.Proofs.View.Defaults

/-! How a field keeps the name of its property. In Python a field that is renamed tells the name in
its metadata, in the literal that JSON has for it; Python reads this back unless a character of the
name goes beyond sixteen bits. In TypeScript a name that is no identifier stands between quotes as
it is, which spells the name unless something in it has to be escaped; a line end behind an
identifier is taken for a part of it. -/
namespace ClientGen

namespace View
open Naming Text

def arguments (v : FieldView) : List (List Char) := (callArguments? fieldCall (behind v)).getD []

inductive KeepsName (name : String) (v : FieldView) : Prop
  | plain (own : v.name = .str name) (bare : ∀ a ∈ arguments v, keyword a ≠ "metadata".toList)
  | telling {literal} (carried : told literal ∈ arguments v)
      (denotes : Language.python.Denotes literal (name.toList.flatMap Language.python.units))

theorem toldInjective {l m : List Char} (same : told l = told m) : l = m :=
  List.append_cancel_left (List.append_cancel_right same)

variable {f : Field String} {name : String}

theorem toldCarried {literal s : List Char} :
    told literal ∈ arguments (pythonField f s) ↔
      identifier s ≠ s ∧ literal = jsonQuoted true s := by
  have apart : told literal ≠ "default=None".toList := by
    intro same
    have word := toldKeyword literal
    rw [same, leftOutKeyword] at word
    exact absurd word (by decide)
  have here : told literal ∉ if f.isOptional then ["default=None".toList] else [] := by
    split <;> simp only [List.mem_singleton, List.not_mem_nil, apart, not_false_eq_true]
  rw [arguments, pythonArguments, fieldArguments, List.mem_append, or_iff_right here]
  split
  · rename_i same
    simp [same]
  · rename_i renamed
    rw [List.mem_singleton]
    exact ⟨fun same => ⟨renamed, toldInjective same⟩, fun found => congrArg told found.2⟩

theorem plainCarried {s : List Char} (same : identifier s = s) :
    ∀ a ∈ arguments (pythonField f s), keyword a ≠ "metadata".toList := by
  rw [arguments, pythonArguments, fieldArguments, if_pos same, List.append_nil]
  split
  · refine List.forall_mem_singleton.mpr ?_
    rw [leftOutKeyword]
    decide
  · exact List.forall_mem_nil _

theorem identifierSmall {s : List Char} (same : identifier s = s) :
    ∀ c ∈ s, c.toNat < 0x10000 := by
  intro c member
  have word := identifierWord s c (same.symm ▸ member)
  exact Nat.lt_trans (asciiWordSmall word) (by decide)

theorem pythonCalled : (pythonField f name.toList).name = .str name ↔
    identifier name.toList = name.toList := by
  rw [pythonField, Node.str.injEq, ← String.toList_inj, String.toList_ofList]

theorem keepsNameIff : KeepsName name (pythonField f name.toList) ↔
    ∀ c ∈ name.toList, c.toNat < 0x10000 := by
  constructor
  · rintro (⟨own, _⟩ | ⟨carried, denotes⟩)
    · exact identifierSmall (pythonCalled.mp own)
    · obtain ⟨_, rfl⟩ := toldCarried.mp carried
      exact Language.unitsAlike.mp
        (Language.denotesOnce (Language.jsonRead name.toList) denotes)
  · intro small
    by_cases same : identifier name.toList = name.toList
    · exact .plain (pythonCalled.mpr same) (plainCarried same)
    · refine .telling (toldCarried.mpr ⟨same, rfl⟩) ?_
      rw [← Language.unitsAlike.mpr small]
      exact Language.jsonRead name.toList

theorem wireNameKept (named : f.name = .str name) :
    ∃ v, field .python f = .ok v ∧ v.name = pythonName name ∧
      (v.name = .str name → ∀ a ∈ arguments v, keyword a ≠ "metadata".toList) ∧
      (v.name ≠ .str name → ∃ literal, told literal ∈ arguments v ∧
        ∀ us, Language.python.Denotes literal us ↔
          us = name.toList.flatMap Language.typescript.units) ∧
      (KeepsName name v ↔ ∀ c ∈ name.toList, c.toNat < 0x10000) := by
  refine ⟨_, fieldShown named, rfl, fun own => plainCarried (pythonCalled.mp own), ?_, keepsNameIff⟩
  intro renamed
  refine ⟨_, toldCarried.mpr ⟨fun same => renamed (pythonCalled.mpr same), rfl⟩, fun us => ?_⟩
  constructor
  · exact fun denotes => Language.denotesOnce denotes (Language.jsonRead name.toList)
  · rintro rfl
    exact Language.jsonRead name.toList

def called (name : String) : Field String := ⟨.str name, "str", true, .null, true⟩

theorem quotedKept :
    (called "café \"au\"\nlait\\").name = .str "café \"au\"\nlait\\" ∧
    ∃ v, field .python (called "café \"au\"\nlait\\") = .ok v ∧ v.name = .str "caf_au_lait" ∧
      v.default = some (" = dataclasses.field(default=None, " ++
        "metadata=\x7b\"name\": \"caf\\u00e9 \\\"au\\\"\\nlait\\\\\"\x7d)") ∧
      KeepsName "café \"au\"\nlait\\" v := by
  have named : (called "café \"au\"\nlait\\").name = .str "café \"au\"\nlait\\" := rfl
  obtain ⟨v, ok, own, _, _, kept⟩ := wireNameKept named
  refine ⟨named, v, ok, own, ?_, kept.mpr (by simp)⟩
  cases ok
  decide

theorem halvesLost :
    ∃ v, field .python (called "😀") = .ok v ∧ v.name = .str "_" ∧
      v.default = some (" = dataclasses.field(default=None, " ++
        "metadata=\x7b\"name\": \"\\ud83d\\ude00\"\x7d)") ∧
      ¬KeepsName "😀" v := by
  refine ⟨_, rfl, rfl, by decide, fun kept => ?_⟩
  exact absurd (keepsNameIff.mp kept) (by simp)

def isPropertyName : List Char → Bool
  | [] => false
  | c :: rest => isPropertyStart c && rest.all isPropertyPart

inductive SpellsName (name : String) (v : FieldView) : Prop
  | plain (own : v.name = .str name) (whole : isPropertyName name.toList = true)
  | quoted {literal} (shown : v.name = .str (String.ofList literal))
      (denotes : Language.typescript.Denotes literal
        (name.toList.flatMap Language.typescript.units))

theorem propertyTailIff {s : List Char} : isPropertyTail s = true ↔
    s.all isPropertyPart = true ∨ ∃ t, s = t ++ ['\n'] ∧ t.all isPropertyPart = true := by
  fun_induction isPropertyTail s with
  | case1 => simp
  | case2 => exact iff_of_true rfl (.inr ⟨[], rfl, rfl⟩)
  | case3 c rest inner ih =>
    rw [Bool.and_eq_true, ih, List.all_cons, Bool.and_eq_true]
    constructor
    · rintro ⟨part, later | ⟨t, rfl, later⟩⟩
      · exact .inl ⟨part, later⟩
      · exact .inr ⟨c :: t, rfl, by simp [part, later]⟩
    · rintro (⟨part, later⟩ | ⟨t, same, later⟩)
      · exact ⟨part, .inl later⟩
      · cases t with
        | nil =>
          obtain ⟨rfl, rfl⟩ := List.cons.inj same
          exact absurd rfl (inner rfl)
        | cons d t =>
          obtain ⟨rfl, rfl⟩ := List.cons.inj same
          rw [List.all_cons, Bool.and_eq_true] at later
          exact ⟨later.1, .inr ⟨t, rfl, later.2⟩⟩

theorem propertyIff {s : List Char} : isProperty s = true ↔
    isPropertyName s = true ∨ ∃ t, s = t ++ ['\n'] ∧ isPropertyName t = true := by
  cases s with
  | nil => simp [isProperty, isPropertyName]
  | cons c rest =>
    rw [isProperty, isPropertyName, Bool.and_eq_true, propertyTailIff, Bool.and_eq_true,
      and_or_left]
    refine or_congr Iff.rfl ⟨?_, ?_⟩
    · rintro ⟨start, t, rfl, later⟩
      exact ⟨c :: t, rfl, by simp [isPropertyName, start, later]⟩
    · rintro ⟨t, same, name⟩
      cases t with
      | nil => cases name
      | cons d t =>
        obtain ⟨rfl, rfl⟩ := List.cons.inj same
        rw [isPropertyName, Bool.and_eq_true] at name
        exact ⟨name.1, t, rfl, name.2⟩

def special : List Char := ['"', '\\', '\n', '\r']

theorem specialIff {c : Char} : c ∉ special ↔
    c ≠ '"' ∧ c ≠ '\\' ∧ Language.typescript.breaksText c = false := by
  simp [special, Language.breaksText]

theorem propertyNamePlain {s : List Char} (name : isPropertyName s = true) :
    ∀ c ∈ s, c ∉ special := by
  have apart : special.all (fun c => !isPropertyPart c) = true := by decide
  have plain {c : Char} (part : isPropertyPart c = true) : c ∉ special := fun member => by
    have other := List.all_eq_true.mp apart c member
    rw [part] at other
    contradiction
  cases s with
  | nil => exact nofun
  | cons c rest =>
    rw [isPropertyName, Bool.and_eq_true, List.all_eq_true] at name
    have first : isPropertyPart c = true := by rw [isPropertyPart, name.1, Bool.true_or]
    exact List.forall_mem_cons.mpr ⟨plain first, fun d member => plain (name.2 d member)⟩

theorem propertyShown (named : f.name = .str name) (property : isProperty name.toList = true) :
    (typescriptField f name.toList).name = .str name := by
  rw [typescriptField, if_pos property]
  exact named

theorem otherShown (other : ¬isProperty name.toList = true) :
    (typescriptField f name.toList).name = .str (String.ofList ('"' :: name.toList ++ ['"'])) := by
  rw [typescriptField, if_neg other]

theorem textSame {s : List Char} : Node.str name = .str (String.ofList s) ↔ name.toList = s := by
  rw [Node.str.injEq, ← String.toList_inj, String.toList_ofList]

theorem lineEndUnsaid {v : FieldView} {t : List Char} (shown : v.name = .str name)
    (ends : name.toList = t ++ ['\n']) (inner : isPropertyName t = true) :
    ¬SpellsName name v := by
  rintro (⟨_, whole⟩ | ⟨same, inside, rfl, _⟩)
  · exact propertyNamePlain whole '\n' (by simp [ends]) (by decide)
  · have first := ends.symm.trans (textSame.mp (shown.symm.trans same))
    cases t with
    | nil => cases inner
    | cons c t =>
      obtain ⟨rfl, _⟩ := List.cons.inj first
      exact propertyNamePlain inner '"' List.mem_cons_self (by decide)

theorem quotedSpells {v : FieldView}
    (shown : v.name = .str (String.ofList ('"' :: name.toList ++ ['"']))) :
    SpellsName name v ↔ Language.typescript.Denotes ('"' :: name.toList ++ ['"'])
      (name.toList.flatMap Language.typescript.units) := by
  constructor
  · rintro (⟨own, _⟩ | ⟨same, denotes⟩)
    · have longer := congrArg List.length (textSame.mp (own.symm.trans shown))
      simp only [List.length_append, List.length_cons, List.length_nil] at longer
      omega
    · have literal := String.ofList_injective (Node.str.inj (shown.symm.trans same))
      rwa [literal]
  · exact .quoted shown

theorem spellsNameIff (named : f.name = .str name) :
    SpellsName name (typescriptField f name.toList) ↔ ∀ c ∈ name.toList, c ∉ special := by
  by_cases property : isProperty name.toList = true
  · have shown := propertyShown named property
    rcases propertyIff.mp property with whole | ⟨t, ends, inner⟩
    · exact iff_of_true (.plain shown whole) (propertyNamePlain whole)
    · exact iff_of_false (lineEndUnsaid shown ends inner)
        fun each => each '\n' (by simp [ends]) (by decide)
  · rw [quotedSpells (otherShown property), Language.bareDenotes]
    exact forall₂_congr fun c _ => specialIff.symm

theorem propertyNameKept (named : f.name = .str name) :
    ∃ v, field .typescript f = .ok v ∧
      (isPropertyName name.toList = true ∨
          (∃ t, name.toList = t ++ ['\n'] ∧ isPropertyName t = true) →
        v.name = .str name) ∧
      (¬(isPropertyName name.toList = true ∨
          ∃ t, name.toList = t ++ ['\n'] ∧ isPropertyName t = true) →
        v.name = .str (String.ofList ('"' :: name.toList ++ ['"']))) ∧
      (SpellsName name v ↔ ∀ c ∈ name.toList, c ∉ special) := by
  refine ⟨typescriptField f name.toList, by rw [field, named], ?_, ?_, spellsNameIff named⟩
  · rw [← propertyIff]
    exact propertyShown named
  · rw [← propertyIff]
    exact otherShown

theorem framesKept :
    (called "in-frame 😀").name = .str "in-frame 😀" ∧
    (∃ v, field .typescript (called "in-frame 😀") = .ok v ∧
      v.name = .str "\"in-frame 😀\"" ∧ SpellsName "in-frame 😀" v) ∧
    (called "$ref").name = .str "$ref" ∧
    ∃ v, field .typescript (called "$ref") = .ok v ∧ v.name = .str "$ref" ∧
      SpellsName "$ref" v := by
  have dashed : (called "in-frame 😀").name = .str "in-frame 😀" := rfl
  have whole : (called "$ref").name = .str "$ref" := rfl
  obtain ⟨v, quoted, _, shown, bare⟩ := propertyNameKept dashed
  obtain ⟨w, plain, own, _, spells⟩ := propertyNameKept whole
  refine ⟨dashed, ⟨v, quoted, shown ?_, bare.mpr (by simp [special])⟩,
    whole, w, plain, own (.inl (by decide)), spells.mpr (by simp [special])⟩
  rw [← propertyIff]
  decide

theorem quotesLost :
    (∃ v, field .typescript (called "say \"hi\"") = .ok v ∧
      v.name = .str "\"say \"hi\"\"" ∧ ¬SpellsName "say \"hi\"" v) ∧
    ∃ v, field .typescript (called "id\n") = .ok v ∧ v.name = .str "id\n" ∧
      ¬SpellsName "id\n" v := by
  constructor
  · refine ⟨_, rfl, rfl, fun spells => ?_⟩
    exact absurd ((spellsNameIff rfl).mp spells) (by simp [special])
  · refine ⟨_, rfl, rfl, fun spells => ?_⟩
    exact absurd ((spellsNameIff rfl).mp spells) (by simp [special])

end View
end ClientGen
