import ClientGen.Schema
import ClientGen.Trail

/-! References to types, and the two spellings of them. A reference is abstract; a dialect says how
a language writes it. -/
namespace ClientGen

inductive TypeRef
  | text
  | number
  | boolean
  | unknown
  | imported
  | named (name : String)
  | array (item : TypeRef)
  deriving DecidableEq, Repr, Inhabited

structure Dialect where
  table : List (String × String)
  unknown : String
  imported : String
  arrayOpen : String
  arrayClose : String
  kinds : table.map Prod.fst = ["string", "number", "boolean"]
  deriving DecidableEq, Repr

namespace Dialect

def typescript : Dialect where
  table := [("string", "string"), ("number", "number"), ("boolean", "boolean")]
  unknown := "unknown"
  imported := "ImportedType"
  arrayOpen := "Array<"
  arrayClose := ">"
  kinds := rfl

def python : Dialect where
  table := [("string", "str"), ("number", "float"), ("boolean", "bool")]
  unknown := "Any"
  imported := "ImportedType"
  arrayOpen := "list["
  arrayClose := "]"
  kinds := rfl

def word (d : Dialect) (kind : String) : String := (d.table.lookup kind).getD ""

def text (d : Dialect) : String := d.word "string"

def number (d : Dialect) : String := d.word "number"

def boolean (d : Dialect) : String := d.word "boolean"

def spell (d : Dialect) : TypeRef → String
  | .text => d.text
  | .number => d.number
  | .boolean => d.boolean
  | .unknown => d.unknown
  | .imported => d.imported
  | .named name => name
  | .array item => d.arrayOpen ++ d.spell item ++ d.arrayClose

end Dialect

structure Field (τ : Type) where
  name : Node
  type : τ
  isOptional : Bool
  comment : Node
  readonly : Bool
  deriving Repr, Inhabited

structure Definition (τ : Type) where
  name : String
  fields : List (Field τ)
  deriving Repr, Inhabited

def Field.map {τ υ : Type} (f : τ → υ) (x : Field τ) : Field υ :=
  { name := x.name, type := f x.type, isOptional := x.isOptional, comment := x.comment,
    readonly := x.readonly }

def Definition.map {τ υ : Type} (f : τ → υ) (d : Definition τ) : Definition υ :=
  ⟨d.name, d.fields.map (Field.map f)⟩

abbrev Spelled := Definition String

def Dialect.define (d : Dialect) (x : Definition TypeRef) : Spelled := x.map d.spell

end ClientGen
