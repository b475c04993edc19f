import ClientGen.Proofs.View.Names

/-! Whether a name in a view may be taken for another. The types of a view have names of their own.
But a title may give a record the name of the class, or a spelling that the dialect has of its own.
Only if no record is named like such a spelling does every reference in the view denote one type. -/
namespace ClientGen
open Text

namespace TypeRef

def BuiltIn : TypeRef → Prop
  | .named _ => False
  | .array _ => False
  | _ => True

theorem kinds (t : TypeRef) : t.BuiltIn ∨ (∃ name, t = .named name) ∨ ∃ item, t = .array item := by
  cases t with
  | named name => exact .inr (.inl ⟨name, rfl⟩)
  | array item => exact .inr (.inr ⟨item, rfl⟩)
  | _ => exact .inl trivial

theorem BuiltIn.namedIn {t : TypeRef} (own : t.BuiltIn) (names : List String) :
    t.NamedIn names := by
  cases t with
  | named name => exact own.elim
  | array item => exact own.elim
  | _ => trivial

end TypeRef

namespace Dialect

def own (d : Dialect) : List String := d.primitives ++ [d.unknown, d.imported]

theorem builtInOwn (d : Dialect) {s : String} :
    s ∈ d.own ↔ ∃ t : TypeRef, t.BuiltIn ∧ d.spell t = s := by
  constructor
  · intro known
    simp only [own, primitives, List.mem_append, List.mem_cons, List.not_mem_nil, or_false] at known
    rcases known with (rfl | rfl | rfl) | rfl | rfl
    · exact ⟨.text, trivial, rfl⟩
    · exact ⟨.number, trivial, rfl⟩
    · exact ⟨.boolean, trivial, rfl⟩
    · exact ⟨.unknown, trivial, rfl⟩
    · exact ⟨.imported, trivial, rfl⟩
  · rintro ⟨t, builtIn, rfl⟩
    cases t with
    | named name => exact builtIn.elim
    | array item => exact builtIn.elim
    | _ => simp [own, primitives, spell]

theorem arrayOnce (d : Dialect) {a b : String} (same : d.arrayOf a = d.arrayOf b) : a = b := by
  have letters := congrArg String.toList same
  simp only [arrayOf, String.toList_append, List.append_cancel_left_eq,
    List.append_cancel_right_eq] at letters
  exact String.toList_injective letters

end Dialect

namespace Language
open Dialect

def Word (s : String) : Prop := ∀ c ∈ s.toList, isAsciiWord c = true

theorem ownWord (language : Language) {s : String} (known : s ∈ language.dialect.own) : Word s := by
  have all : ∀ s ∈ language.dialect.own, s.toList.all isAsciiWord = true := by
    cases language <;> decide
  exact List.all_eq_true.mp (all s known)

theorem arrayNoWord (language : Language) (item : String) :
    ¬ Word (language.dialect.arrayOf item) := by
  intro word
  have opening : language.dialect.arrayOpen.toList.any (fun c => !isAsciiWord c) = true := by
    cases language <;> decide
  obtain ⟨c, member, other⟩ := List.any_eq_true.mp opening
  have there : c ∈ (language.dialect.arrayOf item).toList := by
    simp [arrayOf, member]
  simp [word c there] at other

theorem builtInOnce (language : Language) {t u : TypeRef} (left : t.BuiltIn) (right : u.BuiltIn)
    (same : language.dialect.spell t = language.dialect.spell u) : t = u := by
  have apart : language.dialect.own.Nodup := by cases language <;> decide
  simp only [own, primitives, List.cons_append, List.nil_append, List.nodup_cons, List.mem_cons,
    List.not_mem_nil, or_false, not_or] at apart
  cases t <;> cases u <;> simp_all [TypeRef.BuiltIn, spell]

section Names

variable (language : Language) {names : List String} (words : ∀ name ∈ names, Word name)
include words

theorem plainWord {t : TypeRef} (ok : t.NamedIn names) (plain : ∀ item, t ≠ .array item) :
    Word (language.dialect.spell t) := by
  rcases t.kinds with builtIn | ⟨name, rfl⟩ | ⟨item, rfl⟩
  · exact ownWord language (language.dialect.builtInOwn.mpr ⟨t, builtIn, rfl⟩)
  · exact words name ok
  · exact absurd rfl (plain item)

theorem arrayBoth {t item : TypeRef} (ok : t.NamedIn names)
    (same : language.dialect.spell t = language.dialect.spell (.array item)) :
    ∃ item', t = .array item' := by
  by_contra plain
  push Not at plain
  exact arrayNoWord language _ (same ▸ plainWord language words ok plain)

theorem spelledOnce (free : ∀ s ∈ language.dialect.own, s ∉ names) {t u : TypeRef}
    (left : t.NamedIn names) (right : u.NamedIn names)
    (same : language.dialect.spell t = language.dialect.spell u) : t = u := by
  have unlike {t : TypeRef} {name : String} (builtIn : t.BuiltIn) (ok : name ∈ names) :
      language.dialect.spell t ≠ name := by
    rintro rfl
    exact free _ (language.dialect.builtInOwn.mpr ⟨t, builtIn, rfl⟩) ok
  induction t generalizing u with
  | array item ih =>
    obtain ⟨item', rfl⟩ := arrayBoth language words right same.symm
    have inner : language.dialect.spell item = language.dialect.spell item' :=
      language.dialect.arrayOnce same
    have right : item'.NamedIn names := right
    rw [ih left right inner]
  | named name =>
    rcases u.kinds with builtIn | ⟨name', rfl⟩ | ⟨item, rfl⟩
    · exact absurd same.symm (unlike builtIn left)
    · exact congrArg _ same
    · obtain ⟨item', other⟩ := arrayBoth language words left same
      cases other
  | _ =>
    rcases u.kinds with builtIn | ⟨name', rfl⟩ | ⟨item, rfl⟩
    · exact builtInOnce language trivial builtIn same
    · exact absurd same (unlike trivial right)
    · obtain ⟨item', other⟩ := arrayBoth language words left same
      cases other

end Names

theorem spelledOnceIff (language : Language) {names : List String}
    (words : ∀ name ∈ names, Word name) : (∀ s ∈ language.dialect.own, s ∉ names) ↔
      ∀ t u : TypeRef, t.NamedIn names → u.NamedIn names →
        language.dialect.spell t = language.dialect.spell u → t = u := by
  refine ⟨fun free t u left right same => spelledOnce language words free left right same, ?_⟩
  intro once s known taken
  obtain ⟨t, builtIn, spelled⟩ := language.dialect.builtInOwn.mp known
  cases once t (.named s) (builtIn.namedIn names) taken spelled
  exact builtIn

end Language

namespace View
open Compile

variable {parts : Parts} {language : Language} {strict : Bool} {r : Resource} {name : String}
  {view : ResourceView}

theorem typesApart (ok : (resource parts language strict r name).result = .ok view) :
    (view.types.map (·.name)).Nodup := by
  rw [(typesShown (resourceRuns ok).types).1]
  exact Registry.namesApart _ (by simp [Registry.names, Registry.empty])

theorem referredMeant (ok : (resource parts language strict r name).result = .ok view)
    {reference : String}
    (member : reference ∈ referred (registry parts language strict r) view.operations) :
    ∃ t : TypeRef, reference = language.dialect.spell t ∧ t.NamedIn (view.types.map (·.name)) := by
  have run := resourceRuns ok
  obtain ⟨os, compiled, same⟩ := referredCompiled run
  rw [(typesShown run.types).1]
  exact referredNamed run.added compiled (same ▸ member)

theorem namesCaptured (ok : (resource parts language strict r name).result = .ok view) :
    (view.types.map (·.name)).Nodup ∧
    ((view.types.map (·.name) ++ [view.className]).Nodup ↔
      ∀ letters, Records parts r letters → formatName letters ≠ name) ∧
    ((∀ s ∈ language.dialect.own, s ∉ view.types.map (·.name)) ↔
      ∀ letters, Records parts r letters → formatName letters ∉ language.dialect.own) ∧
    ((∀ s ∈ language.dialect.own, s ∉ view.types.map (·.name)) ↔
      ∀ t u : TypeRef, t.NamedIn (view.types.map (·.name)) → u.NamedIn (view.types.map (·.name)) →
        language.dialect.spell t = language.dialect.spell u → t = u) ∧
    ∀ reference ∈ referred (registry parts language strict r) view.operations,
      ∃ t : TypeRef, reference = language.dialect.spell t ∧
        t.NamedIn (view.types.map (·.name)) := by
  have taken (s : String) : s ∉ view.types.map (·.name) ↔
      ∀ letters, Records parts r letters → formatName letters ≠ s := by
    rw [namesRecorded ok]
    push Not
    exact forall₂_congr fun letters _ => ne_comm
  have words : ∀ n ∈ view.types.map (·.name), Language.Word n := by
    intro n there
    obtain ⟨letters, _, rfl⟩ := (namesRecorded ok n).mp there
    exact formatWord letters
  refine ⟨typesApart ok, ?_, ?_, language.spelledOnceIff words, fun _ => referredMeant ok⟩
  · rw [classOfView ok, ← taken, List.nodup_append]
    simp only [typesApart ok, List.nodup_singleton, List.mem_singleton, forall_eq, true_and]
    exact ⟨fun apart there => apart name there rfl, fun free n there same => free (same ▸ there)⟩
  · simp only [taken]
    exact ⟨fun free letters record known => free _ known letters record rfl,
      fun free s known letters record same => free letters record (same ▸ known)⟩

def collared (title : String) : Resource :=
  ⟨.str "Pet", Node.object [("type", .str "object"), ("properties",
    Node.object [("id", Node.object [("type", .str "string")]),
      ("collar", Node.object [("type", .str "object"), ("title", .str title)])])], []⟩

theorem collarDenotes :
    ∃ view, (resource [] .typescript true (collared "Red Collar") "PetContext").result = .ok view ∧
      view.types.map (·.name) = ["RedCollar", "Pet"] ∧
      (∀ letters, Records [] (collared "Red Collar") letters →
        formatName letters ≠ "PetContext" ∧
          formatName letters ∉ Language.typescript.dialect.own) ∧
      ∀ t : TypeRef, t.NamedIn ["RedCollar", "Pet"] →
        Language.typescript.dialect.spell t = "RedCollar" → t = .named "RedCollar" := by
  have compiled : ∃ view,
      (resource [] .typescript true (collared "Red Collar") "PetContext").result = .ok view ∧
      view.types.map (·.name) = ["RedCollar", "Pet"] ∧ view.className = "PetContext" :=
    ⟨_, rfl, rfl, rfl⟩
  obtain ⟨view, ok, names, called⟩ := compiled
  obtain ⟨_, class', own, once, _⟩ := namesCaptured ok
  rw [names] at class' own once
  rw [called] at class'
  have apart := class'.mp (by decide)
  have free : ∀ s ∈ Language.typescript.dialect.own, s ∉ ["RedCollar", "Pet"] := by decide
  exact ⟨view, ok, names,
    fun letters record => ⟨apart letters record, own.mp free letters record⟩,
    fun t there spelled => once.mp free t (.named "RedCollar") there List.mem_cons_self spelled⟩

theorem collarCaptured :
    className [] (collared "string") = .ok "PetContext" ∧
    (∃ view, (resource [] .typescript true (collared "string") "PetContext").result = .ok view ∧
      view.types.map (·.name) = ["string", "Pet"] ∧
      view.types.map (fun t => t.fields.map (·.type)) = [[], ["string", "string"]] ∧
      "string" ∈ Language.typescript.dialect.own) ∧
    className [] (collared "Pet Context") = .ok "PetContext" ∧
    ∃ view, (resource [] .typescript true (collared "Pet Context") "PetContext").result = .ok view ∧
      view.types.map (·.name) = ["PetContext", "Pet"] ∧ view.className = "PetContext" :=
  ⟨rfl, ⟨_, rfl, rfl, rfl, by decide⟩, rfl, _, rfl, rfl, rfl⟩

end View
end ClientGen
