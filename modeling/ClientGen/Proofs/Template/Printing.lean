import ClientGen.Proofs.Document.Fields
import ClientGen.Proofs.Template.Filters
import ClientGen.Template.Bundled

/-! What a template prints, as a row of wordings: texts of its own, values as they are shown, and
values laid out in lines. A row can be printed exactly if every value in it can. -/
namespace ClientGen

@[simp] theorem Node.textWritable (s : String) : (Node.str s).writable = true := rfl

namespace Template

inductive Wording
  | own (s : String)
  | value (n : Node)
  | laidOut (width : Nat) (margin : String) (n : Node)

namespace Wording

def text : Wording → List Char
  | .own s => s.toList
  | .value n => n.plainText.toList
  | .laidOut width margin n =>
    Text.withMargin margin.toList 0 (Text.wrap width n.plainText.toList)

def value? : Wording → Option Node
  | .own _ => none
  | .value n | .laidOut _ _ n => some n

def writable (w : Wording) : Bool := w.value?.all Node.writable

@[simp] theorem ownText (s : String) : (own s).text = s.toList := rfl

def lines (ls : List String) : Wording := .own (String.join (ls.map (· ++ "\n")))

theorem joinText (s : String) (ss : List String) :
    (ss.foldl (· ++ ·) s).toList = s.toList ++ ss.flatMap String.toList := by
  induction ss generalizing s with
  | nil => simp
  | cons t rest ih => simp [ih]

@[simp] theorem linesText (ls : List String) :
    (lines ls).text = ls.flatMap fun l => l.toList ++ ['\n'] := by
  simp [lines, text, String.join, joinText, List.flatMap_map]

@[simp] theorem linesWritable (ls : List String) : (lines ls).writable = true := rfl

@[simp] theorem ownWritable (s : String) : (own s).writable = true := rfl

@[simp] theorem valueWritable (n : Node) : (value n).writable = n.writable := rfl

@[simp] theorem laidOutWritable (width : Nat) (margin : String) (n : Node) :
    (laidOut width margin n).writable = n.writable := rfl

end Wording

def printed (ws : List Wording) : Except Fault (List Char) :=
  if ws.all Wording.writable then .ok (ws.flatMap Wording.text) else .error .longInteger

theorem printedAppend (ws ws' : List Wording) :
    (do
      let first ← printed ws
      return first ++ (← printed ws')) = printed (ws ++ ws') := by
  unfold printed
  cases here : ws.all Wording.writable <;> cases rest : ws'.all Wording.writable <;>
    simp [here, rest, bind, Except.bind, pure, Except.pure]

theorem shownPrinted (n : Node) :
    (do
      let s ← shownText n
      return s.toList) = printed [.value n] := by
  unfold printed shownText
  cases can : n.writable <;>
    simp [Wording.writable, Wording.value?, Wording.text, can, bind, Except.bind, pure, Except.pure]

def Alike (ws ws' : List Wording) : Prop :=
  ws.flatMap Wording.text = ws'.flatMap Wording.text ∧
    ws.all Wording.writable = ws'.all Wording.writable

theorem Alike.printed {ws ws' : List Wording} (alike : Alike ws ws') :
    printed ws = printed ws' := by
  rw [Template.printed, Template.printed, alike.1, alike.2]

def Gives (frame : Frame) (e : Expr) (n : Node) : Prop := e.eval frame = .ok (.known n)

theorem givesName {frame : Frame} {name : String} {n : Node}
    (bound : frame.lookup name = some (.known n)) : Gives frame (.name name) n := by
  simp [Gives, Expr.eval, resolve, bound]

abbrev viewKeys : List String := ["name", "fields", "type", "optional", "comment", "readonly",
  "default", "id", "description", "summary", "method", "templatized_path", "method_name",
  "parameters", "has_params", "return_type", "key", "module", "class_name"]

theorem viewKeysFree : ∀ key ∈ viewKeys, member? (.map []) key = none := by
  simp [member?, valueMember?, operationsOf, commonOperations]

theorem givesEntry {frame : Frame} {item key : String} {entries : List (String × Node)} {n : Node}
    (bound : frame.lookup item = some (.known (Node.object entries)))
    (entry : Entries.at? key (entries.map fun e => (.str e.1, e.2)) = some n)
    (free : key ∈ viewKeys := by simp) : Gives frame (of item key) n := by
  have none_ : (Value.known (Node.object entries)).member? key = none := viewKeysFree key free
  have found : (Value.known (Node.object entries)).element? (.str key) = some (.known n) := by
    simp only [Value.element?, Node.object, element?, Node.hashable, if_true, Node.findKeyText,
      entry, Option.map_some]
  unfold Gives of
  simp only [Expr.eval, resolve, bound, Option.some_or, Option.getD_some, bind, Except.bind,
    Value.attribute, none_, found, Option.none_or]

theorem givesFirst {frame : Frame} {run : LoopRun} (bound : frame.lookup "loop" = some (.loop run)) :
    Gives frame (of "loop" "first") (.bool (run.index == 0)) := by
  unfold Gives of
  simp only [Expr.eval, resolve, bound, Option.some_or, Option.getD_some, bind, Except.bind,
    Value.attribute, Value.member?, LoopRun.member?]

theorem givesNegation {frame : Frame} {e : Expr} {n : Node} (gives : Gives frame e n) :
    Gives frame (.negation e) (.bool (!n.holds)) := by
  simp [Gives, Expr.eval, Value.holds, show e.eval frame = _ from gives, bind, Except.bind, pure,
    Except.pure]

theorem givesEither {frame : Frame} {a b : Expr} {n m : Node} (first : Gives frame a n)
    (second : Gives frame b m) : Gives frame (.either a b) (if n.holds then n else m) := by
  unfold Gives
  cases held : n.holds <;>
    simp [Expr.eval, Value.holds, show a.eval frame = _ from first, show b.eval frame = _ from second,
      held, bind, Except.bind, pure, Except.pure]

theorem givesChoice {frame : Frame} {test yes no : Expr} {n a b : Node} (tests : Gives frame test n)
    (first : Gives frame yes a) (second : Gives frame no b) :
    Gives frame (.choice test yes no) (if n.holds then a else b) := by
  unfold Gives
  cases held : n.holds <;>
    simp [Expr.eval, Value.holds, show test.eval frame = _ from tests, held, bind, Except.bind,
      show yes.eval frame = _ from first, show no.eval frame = _ from second]

theorem givesJson {frame : Frame} {item key s : String}
    (gives : Gives frame (of item key) (.str s)) :
    Gives frame (.filtered (of item key) "json" [] [])
      (.str (String.ofList (Text.jsonQuoted false s.toList))) := by
  unfold Gives
  simp only [Expr.eval, Expr.evalList, show (of item key).eval frame = _ from gives]
  rfl

def Prints (frame : Frame) (ps : List Piece) (ws : List Wording) : Prop :=
  Piece.renderList frame ps = printed ws

namespace Prints

variable {frame : Frame} {ps : List Piece} {ws : List Wording}

theorem nil : Prints frame [] [] := rfl

theorem cons {p : Piece} (first : List Wording) (here : p.render frame = printed first)
    (rest : Prints frame ps ws) : Prints frame (p :: ps) (first ++ ws) := by
  unfold Prints
  rw [Piece.renderList, here, show Piece.renderList frame ps = _ from rest, printedAppend]

theorem alike {ws' : List Wording} (prints : Prints frame ps ws) (same : Alike ws ws') :
    Prints frame ps ws' := by
  rw [Prints, ← same.printed]
  exact prints

theorem text (s : String) (rest : Prints frame ps ws) : Prints frame (.text s :: ps) (.own s :: ws) :=
  cons [.own s] (by simp [Piece.render, printed]) rest

theorem lines (ls : List String) (rest : Prints frame ps ws) :
    Prints frame (Template.lines ls :: ps) (.lines ls :: ws) := text _ rest

theorem shown {e : Expr} {n : Node} (gives : Gives frame e n) (rest : Prints frame ps ws) :
    Prints frame (.shown e :: ps) (.value n :: ws) := by
  refine cons [.value n] ?_ rest
  rw [Piece.render, show e.eval frame = _ from gives]
  exact shownPrinted n

theorem branch {test : Expr} {yes : List Piece} {n : Node} {inside : List Wording}
    (tests : Gives frame test n) (body : Prints frame yes inside) (rest : Prints frame ps ws) :
    Prints frame (when_ test yes :: ps) ((if n.holds then inside else []) ++ ws) := by
  refine cons _ ?_ rest
  rw [when_, Piece.render, show test.eval frame = _ from tests]
  cases held : n.holds with
  | true =>
    simp only [Value.holds, held, bind, Except.bind, if_true]
    exact body
  | false => simp [Value.holds, held, bind, Except.bind, Piece.renderList, printed]

theorem flag {test : Expr} {yes : List Piece} {b : Bool} {inside : List Wording}
    (tests : Gives frame test (.bool b)) (body : Prints frame yes inside)
    (rest : Prints frame ps ws) :
    Prints frame (when_ test yes :: ps) ((if b then inside else []) ++ ws) :=
  branch tests body rest

theorem wrapApplies {width : Nat} (positive : 0 < width) (bound : width < Filter.widthBound)
    (n : Node) : applyFilter "wrap" (.known n) [.known (.int width)] [] =
      (do
        let s ← shownText n
        return .str (String.ofList (Text.wrap width s.toList))) := by
  have applied : applyFilter "wrap" (.known n) [.known (.int width)] [] =
      (do
        let width ← shownText (.int width)
        return .str (← Filter.wrapText (← shownText n).toList width.toList)) := rfl
  have wrapped : applyFilter "wrap" (.known n) [.known (.int width)] [] =
      (do return .str (← Filter.wrap n (.int width))) := by
    rw [applied, Filter.wrap]
    simp only [bind_assoc]
  rw [wrapped, Filter.wrapBounded positive bound]
  simp only [bind_assoc, pure_bind]

theorem marginApplies (s margin : String) :
    applyFilter "prefix" (.known (.str s)) [.known (.str margin)] [] =
      .ok (.str (String.ofList (Text.withMargin margin.toList 0 s.toList))) := by
  have applied : applyFilter "prefix" (.known (.str s)) [.known (.str margin)] [] =
      (do return .str (← Filter.marginText s.toList (.ok margin) (.int 0))) := rfl
  rw [applied, Filter.marginWhole]
  rfl

theorem comment {item key margin : String} (width : Nat) {n : Node}
    (gives : Gives frame (of item key) n) (positive : 0 < width)
    (bound : width < Filter.widthBound) (rest : Prints frame ps ws) :
    Prints frame (showComment item key width margin :: ps) (.laidOut width margin n :: ws) := by
  refine cons [.laidOut width margin n] ?_ rest
  rw [showComment, Piece.render]
  simp only [Expr.eval, Expr.evalList, show (of item key).eval frame = _ from gives, bind,
    Except.bind, pure, Except.pure, wrapApplies positive bound n]
  unfold shownText printed
  cases can : n.writable with
  | false => simp [Wording.writable, Wording.value?, can]
  | true =>
    have shows (s : String) : shownText (.str s) = .ok s := rfl
    simp [marginApplies, Value.text, shows, Wording.writable, Wording.value?, Wording.text, can]

theorem items {View : Type} {toNode : View → Node} {print : Nat → View → List Wording}
    {name : String} {body : List Piece} (vs : List View)
    (each : ∀ v ∈ vs, ∀ run : LoopRun,
      Prints ((name, .known (toNode v)) :: ("loop", .loop run) :: frame) body (print run.index v))
    (size index : Nat) (previous : Option Node) :
    renderItems (fun frame => Piece.renderList frame body) name frame size index previous
      (vs.map toNode) = printed ((vs.zipIdx index).flatMap fun e => print e.2 e.1) := by
  induction vs generalizing index previous with
  | nil => rfl
  | cons v vs ih =>
    have here := each v List.mem_cons_self ⟨index, size, previous, (vs.map toNode).head?⟩
    have later := ih (fun v member => each v (List.mem_cons_of_mem _ member)) (index + 1)
      (some (toNode v))
    simp only [List.map_cons, renderItems, show Piece.renderList _ body = _ from here, later]
    exact printedAppend _ _

theorem numbered {View : Type} {toNode : View → Node} {name : String} {range : Expr}
    {body : List Piece} {vs : List View} (print : Nat → View → List Wording)
    (ranges : Gives frame range (.list (vs.map toNode)))
    (each : ∀ v ∈ vs, ∀ run : LoopRun,
      Prints ((name, .known (toNode v)) :: ("loop", .loop run) :: frame) body (print run.index v))
    (rest : Prints frame ps ws) :
    Prints frame (Template.each name range body :: ps)
      ((vs.zipIdx.flatMap fun e => print e.2 e.1) ++ ws) := by
  refine cons _ ?_ rest
  rw [Template.each, Piece.render, show range.eval frame = _ from ranges]
  simp only [bind, Except.bind, Value.items, itemsOf, items vs each]
  cases vs <;> rfl

theorem each {View : Type} {toNode : View → Node} {print : View → List Wording}
    {name : String} {range : Expr} {body : List Piece} {vs : List View}
    (ranges : Gives frame range (.list (vs.map toNode)))
    (each : ∀ v ∈ vs, ∀ run : LoopRun,
      Prints ((name, .known (toNode v)) :: ("loop", .loop run) :: frame) body (print v))
    (rest : Prints frame ps ws) :
    Prints frame (Template.each name range body :: ps) (vs.flatMap print ++ ws) := by
  have all := numbered (fun _ => print) ranges each rest
  rwa [show (vs.zipIdx.flatMap fun e => print e.1) = vs.flatMap print by
    rw [← List.flatMap_map Prod.fst print, List.zipIdx_map_fst]] at all

end Prints
end Template
end ClientGen
