import ClientGen.View.Basic
import ClientGen.Json.Writer

/-! Fields and types as the languages show them. TypeScript quotes a property name that is no
identifier. Python renames a field to an identifier and keeps the name of the document beside it;
there, fields without a default come first. -/
namespace ClientGen

namespace View

def isPropertyStart (c : Char) : Bool :=
  Text.isAsciiUpper c || Text.isAsciiLower c || c == '_' || c == '$'

def isPropertyPart (c : Char) : Bool := isPropertyStart c || Text.isAsciiDigit c

def isPropertyTail : List Char → Bool
  | [] => true
  | ['\n'] => true
  | c :: rest => isPropertyPart c && isPropertyTail rest

def isProperty : List Char → Bool
  | [] => false
  | c :: rest => isPropertyStart c && isPropertyTail rest

def base (f : Field String) : FieldView :=
  { name := f.name, type := f.type, isOptional := f.isOptional, comment := f.comment,
    readonly := f.readonly, default := none }

def wireName (name : List Char) : List Char :=
  "metadata=\x7b\"name\": ".toList ++ Text.jsonQuoted true name ++ ['\x7d']

def defaultText (arguments : List (List Char)) : String :=
  if arguments.isEmpty then ""
  else String.ofList
    (" = dataclasses.field(".toList ++ Text.joinWith [',', ' '] arguments ++ [')'])

def pythonField (f : Field String) (name : List Char) : FieldView :=
  let renamed := Naming.identifier name
  let arguments := (if f.isOptional then ["default=None".toList] else []) ++
    (if renamed = name then [] else [wireName name])
  { base f with
    name := .str (String.ofList renamed)
    type := if f.isOptional then f.type ++ " | None" else f.type
    default := some (defaultText arguments) }

def typescriptField (f : Field String) (name : List Char) : FieldView :=
  if isProperty name then base f
  else { base f with name := .str (String.ofList ('"' :: name ++ ['"'])) }

def field (language : Language) (f : Field String) : Except Fault FieldView :=
  match f.name with
  | .str s => .ok (match language with
    | .typescript => typescriptField f s.toList
    | .python => pythonField f s.toList)
  | _ => .error .wrongKind

def fields (language : Language) : List (Field String) → Except Fault (List FieldView)
  | [] => .ok []
  | f :: rest => do
    let first ← field language f
    return first :: (← fields language rest)

def insertBy {α : Type} (key : α → Bool) (a : α) : List α → List α
  | [] => [a]
  | b :: rest => if key a ≤ key b then a :: b :: rest else b :: insertBy key a rest

def sortedBy {α : Type} (key : α → Bool) (as : List α) : List α := as.foldr (insertBy key) []

def requiredFirst (fs : List FieldView) : List FieldView := sortedBy (·.isOptional) fs

theorem insertByParts {α : Type} (key : α → Bool) (a : α) {low high : List α}
    (small : ∀ b ∈ low, key b = false) (large : ∀ b ∈ high, key b = true) :
    insertBy key a (low ++ high) = if key a then low ++ a :: high else a :: (low ++ high) := by
  have apart : ¬ (true ≤ false) := by decide
  cases here : key a with
  | false => cases whole : low ++ high <;> simp [insertBy, here]
  | true =>
    induction low with
    | nil => cases high <;> simp_all [insertBy]
    | cons b low ih =>
      have kept := ih fun b inside => small b (List.mem_cons_of_mem _ inside)
      rw [if_pos rfl] at kept
      simp [insertBy, here, small b List.mem_cons_self, apart, kept]

theorem sortedByParts {α : Type} (key : α → Bool) (as : List α) :
    sortedBy key as = as.filter (fun a => !key a) ++ as.filter key := by
  induction as with
  | nil => rfl
  | cons a rest ih =>
    have step : sortedBy key (a :: rest) = insertBy key a (sortedBy key rest) := rfl
    rw [step, ih, insertByParts key a (by simp) (by simp)]
    cases here : key a <;> simp [here]

def type (language : Language) (d : Spelled) : Except Fault TypeView := do
  let fs ← fields language d.fields
  return ⟨d.name, match language with
    | .typescript => fs
    | .python => requiredFirst fs⟩

def types (language : Language) : List Spelled → Except Fault (List TypeView)
  | [] => .ok []
  | d :: rest => do
    let first ← type language d
    return first :: (← types language rest)

end View
end ClientGen
