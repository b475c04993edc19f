import ClientGen.Template.Render

/-! What is wrong with a template before it is rendered: a filter that does not exist, where nothing
keeps it from being reached, and a loop that names its items like the run of the loop. -/
namespace ClientGen.Template

mutual
/-- What an expression comes to in every frame. The part of an alternative that is never reached
does not matter. -/
def Expr.settled? : Expr → Option Value
  | .name _ => none
  | .constant value => some (.known value)
  | .attribute of key => do ((← of.settled?).attribute key).toOption
  | .element of index => do
    let v ← of.settled?
    (elementAt v (← index.settled?)).toOption
  | .either a b => do
    let left ← a.settled?
    if ← left.holds.toOption then return left else b.settled?
  | .both a b => do
    let left ← a.settled?
    if ← left.holds.toOption then b.settled? else return left
  | .negation a => do
    let holds ← (← a.settled?).holds.toOption
    return .known (.bool (!holds))
  | .choice test yes no => do
    if ← (← test.settled?).holds.toOption then yes.settled? else no.settled?
  | .condition test yes _ => do
    if ← (← test.settled?).holds.toOption then yes.settled? else none
  | .filtered value filter arguments names => do
    let v ← value.settled?
    let vs ← Expr.settledList? arguments
    (applyFilter filter v vs names).toOption.map .known
termination_by structural e => e
def Expr.settledList? : List Expr → Option (List Value)
  | [] => some []
  | e :: rest => do
    let first ← e.settled?
    return first :: (← Expr.settledList? rest)
termination_by structural e => e
end

theorem okOfToOption {α : Type} {r : Except Fault α} {a : α} (h : r.toOption = some a) :
    r = .ok a := by
  cases r with
  | error _ => cases h
  | ok b => simp only [Except.toOption, Option.some.injEq] at h; rw [h]

mutual
theorem evalSettled (frame : Frame) (e : Expr) {v : Value} (h : e.settled? = some v) :
    e.eval frame = .ok v := by
  match e with
  | .name _ => simp [Expr.settled?] at h
  | .constant value => simpa [Expr.settled?, Expr.eval] using h
  | .attribute of key =>
    simp only [Expr.settled?, bind, Option.bind_eq_some_iff] at h
    obtain ⟨u, hu, h⟩ := h
    simp [Expr.eval, bind, Except.bind, evalSettled frame of hu, okOfToOption h]
  | .element of index =>
    simp only [Expr.settled?, bind, Option.bind_eq_some_iff] at h
    obtain ⟨u, hu, i, hi, h⟩ := h
    simp [Expr.eval, bind, Except.bind, evalSettled frame of hu, evalSettled frame index hi,
      okOfToOption h]
  | .either a b =>
    simp only [Expr.settled?, bind, Option.bind_eq_some_iff] at h
    obtain ⟨u, hu, holds, hh, h⟩ := h
    have hh := okOfToOption hh
    cases holds <;>
      simp_all [Expr.eval, bind, Except.bind, pure, Except.pure, evalSettled frame a hu,
        evalSettled frame b]
  | .both a b =>
    simp only [Expr.settled?, bind, Option.bind_eq_some_iff] at h
    obtain ⟨u, hu, holds, hh, h⟩ := h
    have hh := okOfToOption hh
    cases holds <;>
      simp_all [Expr.eval, bind, Except.bind, pure, Except.pure, evalSettled frame a hu,
        evalSettled frame b]
  | .negation a =>
    simp only [Expr.settled?, bind, Option.bind_eq_some_iff] at h
    obtain ⟨u, hu, holds, hh, h⟩ := h
    have hh := okOfToOption hh
    simp_all [Expr.eval, bind, Except.bind, pure, Except.pure, evalSettled frame a hu]
  | .choice test yes no =>
    simp only [Expr.settled?, bind, Option.bind_eq_some_iff] at h
    obtain ⟨u, hu, holds, hh, h⟩ := h
    have hh := okOfToOption hh
    cases holds <;>
      simp_all [Expr.eval, bind, Except.bind, evalSettled frame test hu,
        evalSettled frame yes, evalSettled frame no]
  | .condition test yes line =>
    simp only [Expr.settled?, bind, Option.bind_eq_some_iff] at h
    obtain ⟨u, hu, holds, hh, h⟩ := h
    have hh := okOfToOption hh
    cases holds <;>
      simp_all [Expr.eval, bind, Except.bind, evalSettled frame test hu,
        evalSettled frame yes]
  | .filtered value filter arguments names =>
    simp only [Expr.settled?, bind, Option.bind_eq_some_iff, Option.map_eq_some_iff] at h
    obtain ⟨u, hu, us, hus, n, hn, h⟩ := h
    simp [Expr.eval, bind, Except.bind, pure, Except.pure, evalSettled frame value hu,
      evalListSettled frame arguments hus, okOfToOption hn, h]
termination_by structural e
theorem evalListSettled (frame : Frame) (es : List Expr) {vs : List Value}
    (h : Expr.settledList? es = some vs) : Expr.evalList frame es = .ok vs := by
  match es with
  | [] => simpa [Expr.settledList?, Expr.evalList] using h
  | e :: rest =>
    simp only [Expr.settledList?, bind, Option.bind_eq_some_iff] at h
    obtain ⟨u, hu, us, hus, h⟩ := h
    simp_all [Expr.evalList, bind, Except.bind, pure, Except.pure, evalSettled frame e hu,
      evalListSettled frame rest hus]
termination_by structural es
end

def Expr.isSettled (e : Expr) : Bool :=
  match e.settled? with
  | some (.known _) => true
  | _ => false

mutual
def Expr.check (e : Expr) : Except TemplateFault Unit :=
  if e.isSettled then .ok () else
  match e with
  | .name _ | .constant _ | .choice .. | .condition .. => .ok ()
  | .attribute of _ => of.check
  | .element of index => do of.check; index.check
  | .either a b | .both a b => do a.check; b.check
  | .negation a => a.check
  | .filtered value filter arguments _ => do
    if !isFilter filter then throw .unknownFilter
    value.check
    Expr.checkList arguments
termination_by structural e
def Expr.checkList (es : List Expr) : Except TemplateFault Unit :=
  match es with
  | [] => .ok ()
  | e :: rest => do e.check; Expr.checkList rest
termination_by structural es
end

mutual
/-- Look through a template. `sure` tells that no condition stands before the piece; what a loop
goes through may be nothing, and yet its body is looked through. -/
def Piece.check (sure : Bool) (p : Piece) : Except TemplateFault Unit :=
  match p with
  | .text _ => .ok ()
  | .shown e => if sure then e.check else .ok ()
  | .branch _ yes no => do Piece.checkList false yes; Piece.checkList false no
  | .loop item range body otherwise => do
    if item = "loop" then throw .reservedName
    if sure then range.check
    Piece.checkList true body
    Piece.checkList true otherwise
termination_by structural p
def Piece.checkList (sure : Bool) (ps : List Piece) : Except TemplateFault Unit :=
  match ps with
  | [] => .ok ()
  | p :: rest => do p.check sure; Piece.checkList sure rest
termination_by structural ps
end

end ClientGen.Template
