import ClientGen.Node.Basic

/-! Templates. A template is text with expressions, branches and loops over given variables. -/
namespace ClientGen.Template

inductive Expr
  | name (n : String)
  | constant (value : Node)
  | attribute (of : Expr) (key : String)
  | element (of index : Expr)
  | either (a b : Expr)
  | both (a b : Expr)
  | negation (a : Expr)
  | choice (test yes no : Expr)
  | condition (test yes : Expr) (line : Nat)
  /-- The last arguments may have names, in order. -/
  | filtered (value : Expr) (filter : String) (arguments : List Expr) (names : List String)
  deriving Repr, Inhabited

inductive Piece
  | text (s : String)
  | shown (e : Expr)
  | branch (test : Expr) (yes no : List Piece)
  | loop (item : String) (range : Expr) (body otherwise : List Piece)
  deriving Repr, Inhabited

end ClientGen.Template
