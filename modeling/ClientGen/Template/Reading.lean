import ClientGen.Template.Check
import ClientGen.Template.Lexeme

/-! Reading a template from text: what its tags say, and how they belong together. -/
namespace ClientGen.Template

def constant? (name : String) : Option Node :=
  if name = "true" ∨ name = "True" then some (.bool true)
  else if name = "false" ∨ name = "False" then some (.bool false)
  else if name = "none" ∨ name = "None" then some .null
  else none

abbrev Lexemes := List Lexeme

def filterName (name : String) : Lexemes → String × Lexemes
  | .mark "." :: .name n :: ls => filterName (name ++ "." ++ n) ls
  | ls => (name, ls)

section Expressions
variable (lineAt : Nat → Nat)

mutual
def expression : Nat → Lexemes → Reading (Expr × Lexemes)
  | 0, _ => badGrammar
  | fuel + 1, ls => do
    let (e, rest) ← disjunction fuel ls
    conditions fuel (lineAt ls.length) e rest
def conditions : Nat → Nat → Expr → Lexemes → Reading (Expr × Lexemes)
  | 0, _, _, _ => badGrammar
  | fuel + 1, line, e, .name "if" :: ls => do
    let (test, ls) ← disjunction fuel ls
    match ls with
    | .name "else" :: ls =>
      let (no, ls) ← expression fuel ls
      conditions fuel (lineAt ls.length) (.choice test e no) ls
    | ls => conditions fuel (lineAt ls.length) (.condition test e line) ls
  | _ + 1, _, e, ls => .ok (e, ls)
def disjunction : Nat → Lexemes → Reading (Expr × Lexemes)
  | 0, _ => badGrammar
  | fuel + 1, ls => do
    let (e, ls) ← conjunction fuel ls
    moreDisjuncts fuel e ls
def moreDisjuncts : Nat → Expr → Lexemes → Reading (Expr × Lexemes)
  | 0, _, _ => badGrammar
  | fuel + 1, e, .name "or" :: ls => do
    let (e', ls) ← conjunction fuel ls
    moreDisjuncts fuel (.either e e') ls
  | _ + 1, e, ls => .ok (e, ls)
def conjunction : Nat → Lexemes → Reading (Expr × Lexemes)
  | 0, _ => badGrammar
  | fuel + 1, ls => do
    let (e, ls) ← negation fuel ls
    moreConjuncts fuel e ls
def moreConjuncts : Nat → Expr → Lexemes → Reading (Expr × Lexemes)
  | 0, _, _ => badGrammar
  | fuel + 1, e, .name "and" :: ls => do
    let (e', ls) ← negation fuel ls
    moreConjuncts fuel (.both e e') ls
  | _ + 1, e, ls => .ok (e, ls)
def negation : Nat → Lexemes → Reading (Expr × Lexemes)
  | 0, _ => badGrammar
  | fuel + 1, .name "not" :: ls => do
    let (e, ls) ← negation fuel ls
    return (.negation e, ls)
  | fuel + 1, ls => do
    let (e, ls) ← primary fuel ls
    let (e, ls) ← postfixes fuel e ls
    filters fuel e ls
def primary : Nat → Lexemes → Reading (Expr × Lexemes)
  | 0, _ => badGrammar
  | fuel + 1, ls =>
    match ls with
    | .text s :: ls => .ok (texts fuel s ls)
    | .number n :: ls => .ok (.constant (.int n), ls)
    | .decimal x :: ls => .ok (.constant (.float x), ls)
    | .mark "-" :: .number n :: ls => .ok (.constant (.int (-(n : Int))), ls)
    | .mark "(" :: ls => do
      let (e, ls) ← expression fuel ls
      match ls with
      | .mark ")" :: ls => return (e, ls)
      | _ => badGrammar
    | .name n :: ls =>
      match constant? n with
      | some value => .ok (.constant value, ls)
      | none => .ok (.name n, ls)
    | _ => badGrammar
def texts : Nat → String → Lexemes → Expr × Lexemes
  | fuel + 1, s, .text t :: ls => texts fuel (s ++ t) ls
  | _, s, ls => (.constant (.str s), ls)
def postfixes : Nat → Expr → Lexemes → Reading (Expr × Lexemes)
  | 0, _, _ => badGrammar
  | fuel + 1, e, ls =>
    match ls with
    | .mark "." :: .name key :: ls => postfixes fuel (.attribute e key) ls
    | .mark "." :: .number n :: ls => postfixes fuel (.element e (.constant (.int n))) ls
    | .mark "[" :: ls => do
      let (index, ls) ← expression fuel ls
      match ls with
      | .mark "]" :: ls => postfixes fuel (.element e index) ls
      | _ => badGrammar
    | .mark "(" :: _ | .mark "." :: _ => badGrammar
    | ls => .ok (e, ls)
def filters : Nat → Expr → Lexemes → Reading (Expr × Lexemes)
  | 0, _, _ => badGrammar
  | fuel + 1, e, .mark "|" :: .name n :: ls => do
    let (n, ls) := filterName n ls
    let (args, ls) ← match ls with
      | .mark "(" :: ls => arguments fuel true ls
      | ls => .ok (([], []), ls)
    filters fuel (.filtered e n (args.1 ++ args.2.map (·.2)) (args.2.map (·.1))) ls
  | _ + 1, _, .mark "|" :: _ => badGrammar
  | _ + 1, e, ls => .ok (e, ls)
def arguments : Nat → Bool → Lexemes → Reading ((List Expr × List (String × Expr)) × Lexemes)
  | 0, _, _ => badGrammar
  | fuel + 1, first, ls =>
    match ls with
    | .mark ")" :: ls => .ok (([], []), ls)
    | ls => do
      let ls ← if first then pure ls else (match ls with
        | .mark "," :: ls => .ok ls
        | _ => badGrammar)
      match ls with
      | .mark ")" :: ls => return (([], []), ls)
      | .name n :: .mark "=" :: ls =>
        let (e, ls) ← expression fuel ls
        let ((plain, named), ls) ← arguments fuel false ls
        if plain.isEmpty then return (([], (n, e) :: named), ls) else badGrammar
      | ls =>
        let (e, ls) ← expression fuel ls
        let ((plain, named), ls) ← arguments fuel false ls
        return ((e :: plain, named), ls)
end

def expressionFuel (ls : Lexemes) : Nat := 8 * ls.length + 8

end Expressions

def Tag.expression (tag : Tag) (ls : Lexemes) : Reading Expr := do
  match ← Template.expression tag.lineAt (expressionFuel ls) ls with
  | (e, []) => return e
  | _ => badGrammar

def Tag.test (tag : Tag) (ls : Lexemes) : Reading Expr := do
  match ← disjunction tag.lineAt (expressionFuel ls) ls with
  | (e, []) => return e
  | _ => badGrammar

abbrev Ending := Option Tag

def Ending.isWord (ending : Ending) (word : String) : Bool :=
  match ending with
  | some ⟨[.name n], _⟩ => n == word
  | _ => false

mutual
def pieces : Nat → List Segment → Reading (List Piece × Ending × List Segment)
  | 0, _ => badGrammar
  | _ + 1, [] => .ok ([], none, [])
  | fuel + 1, .text s :: rest => do
    let (more, ending, rest) ← pieces fuel rest
    return (.text (String.ofList s) :: more, ending, rest)
  | fuel + 1, .output tag :: rest => do
    let e ← tag.expression tag.lexemes
    let (more, ending, rest) ← pieces fuel rest
    return (.shown e :: more, ending, rest)
  | fuel + 1, .statement tag :: rest =>
    match tag.lexemes with
    | .name "if" :: test => do
      let (piece, rest) ← branch fuel (← tag.test test) rest
      let (more, ending, rest) ← pieces fuel rest
      return (piece :: more, ending, rest)
    | .name "for" :: .name item :: .name "in" :: range => do
      if (constant? item).isSome then badGrammar
      let (piece, rest) ← loop fuel item (← tag.test range) rest
      let (more, ending, rest) ← pieces fuel rest
      return (piece :: more, ending, rest)
    | .name n :: _ =>
      if ["else", "elif", "endif", "endfor"].contains n then .ok ([], some tag, rest)
      else badGrammar
    | _ => badGrammar
def branch : Nat → Expr → List Segment → Reading (Piece × List Segment)
  | 0, _, _ => badGrammar
  | fuel + 1, test, rest => do
    let (yes, ending, rest) ← pieces fuel rest
    if ending.isWord "endif" then return (.branch test yes [], rest)
    else if ending.isWord "else" then
      let (no, ending, rest) ← pieces fuel rest
      if ending.isWord "endif" then return (.branch test yes no, rest) else badGrammar
    else match ending with
      | some ⟨.name "elif" :: other, lines⟩ =>
        let (piece, rest) ← branch fuel (← Tag.test ⟨.name "elif" :: other, lines⟩ other) rest
        return (.branch test yes [piece], rest)
      | _ => badGrammar
def loop : Nat → String → Expr → List Segment → Reading (Piece × List Segment)
  | 0, _, _, _ => badGrammar
  | fuel + 1, item, range, rest => do
    let (body, ending, rest) ← pieces fuel rest
    if ending.isWord "endfor" then return (.loop item range body [], rest)
    else if ending.isWord "else" then
      let (otherwise, ending, rest) ← pieces fuel rest
      if ending.isWord "endfor" then return (.loop item range body otherwise, rest)
      else badGrammar
    else badGrammar
end

def parse (text : String) : Reading (List Piece) := do
  let s := Text.unifyLineEnds text.toList
  let segments ← segments (s.length + 1) 1 true s
  match ← pieces (2 * segments.length + 2) segments with
  | (ps, none, _) =>
    Piece.checkList true ps
    return ps
  | _ => badGrammar

end ClientGen.Template
