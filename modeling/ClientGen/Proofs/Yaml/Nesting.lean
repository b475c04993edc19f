import ClientGen.Yaml.Value
import ClientGen.Proofs.Fault.Curbing
import ClientGen.Proofs.Yaml.Reading

/-! Reading YAML with only so many levels: where nothing lies too deep, the limit makes no
difference. -/
namespace ClientGen.Yaml

def TooDeep (f : Failure) : Prop := f = .fault .endless

namespace Reader

def free (r : Reader) : Reader := { r with levels := none }

def loose {α : Type} (p : α × Reader) : α × Reader := (p.1, p.2.free)

abbrev Alike {α : Type} (read : Reader → Result (α × Reader)) (r : Reader) : Prop :=
  Curbed TooDeep loose (read r) (read r.free)

variable (r : Reader)

theorem peekFree : r.free.peek = r.peek := rfl

theorem handlesFree : r.free.handles = r.handles := rfl

theorem refuseAlike {α : Type} : Alike (α := α) refuse r := by
  unfold Alike refuse
  rw [peekFree]
  split
  · exact .error _
  · exact .error _

theorem expectCurbed (t : Token) :
    Curbed TooDeep free (r.expect t) (r.free.expect t) := by
  refine .branch (.ok _) ?_
  unfold refuse
  rw [peekFree]
  split
  · exact .error _
  · exact .error _

theorem takeAnchorFree : takeAnchor r.free = loose (takeAnchor r) := by
  unfold takeAnchor
  rw [peekFree]
  split <;> rfl

theorem takeTagFree : takeTag r.free = loose (takeTag r) := by
  unfold takeTag
  rw [peekFree]
  split <;> rfl

theorem takePropertiesFree : takeProperties r.free = loose (takeProperties r) := by
  unfold takeProperties
  rw [takeAnchorFree]
  cases takeAnchor r with
  | mk anchor r =>
    cases anchor with
    | some a =>
      dsimp only [loose]
      rw [takeTagFree]
      rfl
    | none =>
      dsimp only [loose]
      rw [takeTagFree]
      cases takeTag r with
      | mk tag r =>
        cases tag with
        | none => rfl
        | some t =>
          dsimp only [loose]
          rw [takeAnchorFree]
          rfl

theorem openAlike (anchor : Option String) (tag : String) (content : Content) :
    Alike (fun r => r.open? anchor tag content) r := by
  unfold Alike open?
  cases anchor with
  | none => exact .ok _
  | some name => exact .branch (.error _) (.ok _)

theorem enterCurbed : Curbed TooDeep free r.enter r.free.enter := by
  unfold enter
  split
  · exact .ok _
  · exact .stopped rfl

structure Curbs (fuel : Nat) : Prop where
  node (place : Place) (r : Reader) : Alike (node fuel place) r
  blockItems (r : Reader) : Alike (blockItems fuel) r
  looseItems (r : Reader) : Alike (looseItems fuel) r
  blockEntries (r : Reader) : Alike (blockEntries fuel) r
  flowItems (first : Bool) (r : Reader) : Alike (flowItems fuel first) r
  flowEntries (first : Bool) (r : Reader) : Alike (flowEntries fuel first) r
  nodeUnless (place : Place) (ends : List Token) (r : Reader) :
    Alike (nodeUnless fuel place ends) r
  valueUnless (place : Place) (ends : List Token) (r : Reader) :
    Alike (valueUnless fuel place ends) r

theorem collectionAlike {α : Type} {read : Reader → Result (α × Reader)}
    (alike : ∀ r, Alike read r) (anchor : Option String) (tag : String) (content : Content)
    (filled : α → Content) :
    Alike (fun r => do
      let (v, r) ← r.open? anchor tag content
      let (parts, inner) ← read (← r.enter)
      pure (v, (inner.leave r).fill v (filled parts))) r :=
  (openAlike r anchor tag content).bind fun (_, r) =>
    (enterCurbed r).bind fun inner => (alike inner).bind fun _ => .ok _

variable {fuel : Nat} (below : Curbs fuel)
include below

theorem nodeAlike (place : Place) : Alike (node (fuel + 1) place) r := by
  unfold Alike node
  rw [peekFree]
  split
  · exact Curbed.bind (.same (r.named _)) fun _ => .ok _
  rw [takePropertiesFree]
  cases takeProperties r with | mk properties r =>
  dsimp only [loose]
  refine Curbed.bind (.same r.checkNext) fun _ => ?_
  -- what follows a tag is read in the same way as what has none
  split
  case' h_1 => rw [pure_bind, pure_bind]
  case' h_2 => refine Curbed.bind (.same (r.fullTag _)) fun _ => ?_; rw [pure_bind, pure_bind]
  all_goals
    rw [peekFree]
    split
    · exact openAlike r.drop _ _ _
    · exact collectionAlike r.drop (below.flowItems true) _ _ _ .sequence
    · exact collectionAlike r.drop (below.flowEntries true) _ _ _ .mapping
    refine .branch (collectionAlike r below.looseItems _ _ _ .sequence) ?_
    refine .branch (collectionAlike r.drop below.blockItems _ _ _ .sequence) ?_
    refine .branch (collectionAlike r.drop below.blockEntries _ _ _ .mapping) ?_
    exact .branch (openAlike r _ _ _) (refuseAlike r)

theorem blockItemsAlike : Alike (blockItems (fuel + 1)) r := by
  unfold Alike blockItems
  rw [peekFree]
  split
  · refine (below.nodeUnless _ _ r.drop).bind fun (_, r) => ?_
    exact (below.blockItems r).bind fun _ => .ok _
  · exact .ok _
  · exact refuseAlike r

theorem looseItemsAlike : Alike (looseItems (fuel + 1)) r := by
  unfold Alike looseItems
  rw [peekFree]
  split
  · refine (below.nodeUnless _ _ r.drop).bind fun (_, r) => ?_
    exact (below.looseItems r).bind fun _ => .ok _
  · exact Curbed.bind (.same r.checkNext) fun _ => .ok _

theorem blockEntriesAlike : Alike (blockEntries (fuel + 1)) r := by
  unfold Alike blockEntries
  rw [peekFree]
  split
  · refine (below.nodeUnless _ _ r.drop).bind fun (_, r) => ?_
    refine (below.valueUnless _ _ r).bind fun (_, r) => ?_
    exact (below.blockEntries r).bind fun _ => .ok _
  · exact .ok _
  · exact refuseAlike r

omit below in
theorem separatedCurbed (first : Bool) : Curbed TooDeep free
    (if first then .ok r else r.expect .flowEntry)
    (if first then .ok r.free else r.free.expect .flowEntry) :=
  .branch (.ok _) (expectCurbed r _)

omit r in
theorem itemsBehind (p : Nat × Reader) : Curbed TooDeep loose
    (do
      let (items, r) ← flowItems fuel false p.2
      return (p.1 :: items, r))
    (do
      let (items, r) ← flowItems fuel false p.2.free
      return (p.1 :: items, r)) :=
  (below.flowItems false p.2).bind fun _ => .ok _

theorem flowItemsAlike (first : Bool) : Alike (flowItems (fuel + 1) first) r := by
  have later := itemsBehind below
  unfold Alike flowItems
  refine .branch (.ok _) ?_
  dsimp only
  refine .jump (separatedCurbed r first) fun r => ?_
  refine .branch (.ok _) (.branch ?_ ?_)
  · refine (openAlike r.drop _ _ _).bind fun opened => ?_
    refine (enterCurbed opened.2).bind fun inner => ?_
    refine (below.nodeUnless _ _ inner).bind fun key => ?_
    exact (below.valueUnless _ _ key.2).bind fun _ => later (_, _)
  · exact (below.node .flow r).bind later

omit r in
theorem entriesBehind (p : (Nat × Nat) × Reader) : Curbed TooDeep loose
    (do
      let (entries, r) ← flowEntries fuel false p.2
      return (p.1 :: entries, r))
    (do
      let (entries, r) ← flowEntries fuel false p.2.free
      return (p.1 :: entries, r)) :=
  (below.flowEntries false p.2).bind fun _ => .ok _

theorem flowEntriesAlike (first : Bool) : Alike (flowEntries (fuel + 1) first) r := by
  have later := entriesBehind below
  unfold Alike flowEntries
  refine .branch (.ok _) ?_
  dsimp only
  refine .jump (separatedCurbed r first) fun r => ?_
  refine .branch (.ok _) (.branch ?_ ?_)
  · refine (below.nodeUnless _ _ r.drop).bind fun key => ?_
    exact (below.valueUnless _ _ key.2).bind fun _ => later (_, _)
  · exact (below.node .flow r).bind fun _ => later (_, _)

theorem nodeUnlessAlike (place : Place) (ends : List Token) :
    Alike (nodeUnless (fuel + 1) place ends) r := by
  unfold Alike nodeUnless
  exact .branch (.ok _) (below.node place r)

theorem valueUnlessAlike (place : Place) (ends : List Token) :
    Alike (valueUnless (fuel + 1) place ends) r := by
  unfold Alike valueUnless
  refine .branch (below.nodeUnless place ends r.drop) ?_
  exact Curbed.bind (.same r.checkNext) fun _ => .ok _

omit r below

theorem curbs (fuel : Nat) : Curbs fuel := by
  induction fuel with
  | zero => constructor <;> intros <;> exact .error _
  | succ fuel below => exact
    { node := fun place r => nodeAlike r below place
      blockItems := fun r => blockItemsAlike r below
      looseItems := fun r => looseItemsAlike r below
      blockEntries := fun r => blockEntriesAlike r below
      flowItems := fun first r => flowItemsAlike r below first
      flowEntries := fun first r => flowEntriesAlike r below first
      nodeUnless := fun place ends r => nodeUnlessAlike r below place ends
      valueUnless := fun place ends r => valueUnlessAlike r below place ends }

theorem directivesCurbed (versioned : Bool) (r : Reader) (tokens : List Token) :
    Curbed TooDeep free (directives versioned r tokens) (directives versioned r.free tokens) := by
  fun_induction directives versioned r tokens with
  | case1 => exact .ok _
  | case2 versioned r rest major refused =>
    rw [directives, if_pos refused]
    exact .error _
  | case3 versioned r rest major kept ih =>
    rw [directives, if_neg kept]
    exact ih
  | case4 versioned r rest handle address known =>
    rw [directives, handlesFree, if_pos known]
    exact .error _
  | case5 versioned r rest handle address new ih =>
    rw [directives, handlesFree, if_neg new]
    exact ih
  | case6 versioned r rest ih => exact ih
  | case7 versioned r tokens held other =>
    rw [directives]
    · exact .ok _
    · exact held
    · exact other

theorem documentCurbed (tokens : List Token) (levels : Levels) :
    Curbed TooDeep id (document tokens levels) (document tokens none) := by
  have closed (p : Nat × Reader) : Curbed TooDeep id
      (do p.2.checkLast; return some (p.2.graph, p.1))
      (do p.2.free.checkLast; return some (p.2.free.graph, p.1)) :=
    Curbed.bind (.same p.2.checkLast) fun _ => .ok _
  unfold document
  dsimp only
  refine .branch (.ok _) (.branch ?_ ?_)
  · refine (directivesCurbed false ⟨tokens, [], [], #[], levels⟩ tokens).bind fun r => ?_
    refine (expectCurbed { r with handles := r.handles ++ defaultHandles } _).bind fun r => ?_
    rw [peekFree]
    split
    case h_5 => exact ((curbs _).node .block r).bind closed
    all_goals exact closed r.nothing
  · exact ((curbs _).node .block ⟨tokens, defaultHandles, [], #[], levels⟩).bind closed

end Reader

theorem readCurbed (s : List Char) (levels : Levels) (sets : SetOrder) :
    Curbed TooDeep id (read s levels sets) (read s none sets) :=
  Curbed.bind (.same _) fun ts =>
    (Reader.documentCurbed ts levels).bind fun _ => .same _

end ClientGen.Yaml
