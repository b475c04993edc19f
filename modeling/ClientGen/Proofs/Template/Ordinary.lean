import ClientGen.Proofs.Fault.Ordinary
import ClientGen.Template.Render

/-! Rendering a template fails for ordinary reasons only. -/
namespace ClientGen

namespace Json

theorem keyTextOrdinary (key : Node) : Ordinary (keyText key) := by
  unfold keyText
  split
  · simp
  · simp
  · split <;> simp

mutual
theorem writeOrdinary (asciiOnly : Bool) (n : Node) : Ordinary (write asciiOnly n) := by
  match n with
  | .str _ | .enclosing _ | .null | .bool _ | .int _ | .float _ => simp [write]
  | .date _ | .datetime _ | .bytes _ | .set _ | .link _ => simp [write]
  | .list items => simp [write, writeItemsOrdinary asciiOnly items]
  | .pair a b => simp [write, writeOrdinary asciiOnly a, writeOrdinary asciiOnly b]
  | .map entries => simp [write, writeMembersOrdinary asciiOnly entries]
termination_by structural n
theorem writeItemsOrdinary (asciiOnly : Bool) (ns : List Node) :
    Ordinary (writeItems asciiOnly ns) := by
  match ns with
  | [] => simp [writeItems]
  | n :: rest =>
    simp [writeItems, writeOrdinary asciiOnly n, writeItemsOrdinary asciiOnly rest]
termination_by structural ns
theorem writeMembersOrdinary (asciiOnly : Bool) (es : List (Node × Node)) :
    Ordinary (writeMembers asciiOnly es) := by
  match es with
  | [] => simp [writeMembers]
  | (k, v) :: rest =>
    simp [writeMembers, keyTextOrdinary, writeOrdinary asciiOnly v,
      writeMembersOrdinary asciiOnly rest]
termination_by structural es
end

@[simp] theorem compactOrdinary (n : Node) : Ordinary (compact n) := by
  simp [compact, writeOrdinary]

end Json

namespace Template

@[simp] theorem absenceOrdinary (a : Absence) (name : String) : a.fault ≠ .typeCollision name := by
  cases a <;> simp [Absence.fault]

@[simp] theorem itemsOfOrdinary (n : Node) : Ordinary (itemsOf n) := by
  cases n <;> simp [itemsOf]

@[simp] theorem shownTextOrdinary (n : Node) : Ordinary (shownText n) := by
  simp [shownText]

namespace Value

variable (v : Value)

@[simp] theorem requireOrdinary : Ordinary v.require := by
  cases v <;> simp [require]

@[simp] theorem textOrdinary : Ordinary v.text := by
  cases v <;> simp [text]

@[simp] theorem holdsOrdinary : Ordinary v.holds := by
  cases v <;> simp [holds]

@[simp] theorem itemsOrdinary : Ordinary v.items := by
  cases v <;> simp [items]

@[simp] theorem lengthOrdinary : Ordinary v.length := by
  cases v <;> simp [length]

@[simp] theorem attributeOrdinary (key : String) : Ordinary (v.attribute key) := by
  cases v <;> simp [Value.attribute, unmetCondition]

@[simp] theorem elementOrdinary (index : Node) : Ordinary (v.element index) := by
  cases v <;> simp [Value.element, unmetCondition]

end Value

@[simp] theorem elementAtOrdinary (v index : Value) : Ordinary (elementAt v index) := by
  simp only [elementAt, Ordinary.bind, Value.requireOrdinary, true_and]
  intro v _ index _
  cases index <;> simp

namespace Filter

@[simp] theorem widthOfOrdinary (digits : List Char) : Ordinary (widthOf digits) := by
  unfold widthOf
  split
  · simp
  · split
    · simp
    · split <;> simp

@[simp] theorem wrapTextOrdinary (s width : List Char) : Ordinary (wrapText s width) := by
  simp [wrapText]

@[simp] theorem firstLineOrdinary (n : Node) : Ordinary (firstLine? n) := by
  unfold firstLine?
  split
  · simp
  · simp
  · split <;> simp
  · simp

theorem marginTextOrdinary (s : List Char) {lead : Except Fault String} (ordinary : Ordinary lead)
    (start : Node) : Ordinary (marginText s lead start) := by
  simp only [marginText, Ordinary.bind, firstLineOrdinary, true_and]
  intro first _
  cases first <;> simp [ordinary]

end Filter

@[simp] theorem startOfOrdinary (v : Option Value) : Ordinary (startOf v) := by
  unfold startOf
  split <;> simp [unmetCondition]

@[simp] theorem applyFilterOrdinary (filter : String) (value : Value) (arguments : List Value)
    (names : List String) : Ordinary (applyFilter filter value arguments names) := by
  unfold applyFilter
  split
  · split
    · split
      · split <;> simp
      · simp
      · simp [Filter.marginTextOrdinary]
      · simp
      · simp
    · simp
  · cases names <;> simp

mutual
theorem evalOrdinary (frame : Frame) (e : Expr) : Ordinary (e.eval frame) := by
  match e with
  | .name _ | .constant _ => simp [Expr.eval]
  | .attribute of key => simp [Expr.eval, evalOrdinary frame of]
  | .element of index => simp [Expr.eval, evalOrdinary frame of, evalOrdinary frame index]
  | .either a b => simp [Expr.eval, evalOrdinary frame a, evalOrdinary frame b]
  | .both a b => simp [Expr.eval, evalOrdinary frame a, evalOrdinary frame b]
  | .negation a => simp [Expr.eval, evalOrdinary frame a]
  | .choice test yes no =>
    simp [Expr.eval, evalOrdinary frame test, evalOrdinary frame yes, evalOrdinary frame no]
  | .condition test yes line =>
    simp [Expr.eval, evalOrdinary frame test, evalOrdinary frame yes]
  | .filtered value filter arguments names =>
    simp [Expr.eval, evalOrdinary frame value, evalListOrdinary frame arguments]
termination_by structural e
theorem evalListOrdinary (frame : Frame) (es : List Expr) : Ordinary (Expr.evalList frame es) := by
  match es with
  | [] => simp [Expr.evalList]
  | e :: rest => simp [Expr.evalList, evalOrdinary frame e, evalListOrdinary frame rest]
termination_by structural es
end

theorem renderItemsOrdinary {render : Frame → Except Fault (List Char)}
    (body : ∀ frame, Ordinary (render frame)) (name : String) (frame : Frame) (size index : Nat)
    (previous : Option Node) (items : List Node) :
    Ordinary (renderItems render name frame size index previous items) := by
  induction items generalizing index previous with
  | nil => simp [renderItems]
  | cons item rest ih => simp [renderItems, body, ih]

mutual
theorem pieceOrdinary (frame : Frame) (p : Piece) : Ordinary (p.render frame) := by
  match p with
  | .text _ => simp [Piece.render]
  | .shown e => simp [Piece.render, evalOrdinary]
  | .branch test yes no =>
    simp [Piece.render, evalOrdinary, piecesOrdinary frame yes, piecesOrdinary frame no]
  | .loop item range body otherwise =>
    have inside (frame : Frame) := piecesOrdinary frame body
    simp [Piece.render, evalOrdinary, piecesOrdinary frame otherwise, renderItemsOrdinary inside]
termination_by structural p
theorem piecesOrdinary (frame : Frame) (ps : List Piece) :
    Ordinary (Piece.renderList frame ps) := by
  match ps with
  | [] => simp [Piece.renderList]
  | p :: rest => simp [Piece.renderList, pieceOrdinary frame p, piecesOrdinary frame rest]
termination_by structural ps
end

@[simp] theorem renderOrdinary (template : List Piece) (scope : Scope) :
    Ordinary (render template scope) := by
  unfold render
  split <;> simp [piecesOrdinary]

end Template
end ClientGen
