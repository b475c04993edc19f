import ClientGen.Yaml.Reader
import ClientGen.Proofs.Yaml.Scanning

/-! Reading nodes fails for the grammar, or for what the broken token at the end tells. -/
namespace ClientGen.Yaml

variable {causes : List Fault}

namespace Reader

def Sound (causes : List Fault) (r : Reader) : Prop := BrokenAmong causes r.tokens

abbrev Keeps {α : Type} (causes : List Fault) (read : Result (α × Reader)) : Prop :=
  Ends (Failure.Among causes) (fun p => p.2.Sound causes) read

variable {r : Reader} (sound : r.Sound causes)
include sound

theorem dropSound : r.drop.Sound causes := fun f held => sound f (List.mem_of_mem_tail held)

theorem peekAmong {f : Failure} (next : r.peek = some (.broken f)) : f.Among causes :=
  sound f (List.mem_of_mem_head? next)

theorem refuseEnds {α : Type} {given : α → Prop} :
    Ends (Failure.Among causes) given (r.refuse : Result α) := by
  unfold refuse
  split
  next failure next => exact peekAmong sound next
  next => trivial

theorem checkNextTells : Tells (Failure.Among causes) r.checkNext := by
  unfold checkNext
  split
  next failure next => exact peekAmong sound next
  next => trivial

theorem expectEnds (t : Token) :
    Ends (Failure.Among causes) (fun r => r.Sound causes) (r.expect t) :=
  .branch (fun _ => dropSound sound) fun _ => refuseEnds sound

theorem takeAnchorSound : (takeAnchor r).2.Sound causes := by
  unfold takeAnchor
  split
  · exact dropSound sound
  · exact sound

theorem takeTagSound : (takeTag r).2.Sound causes := by
  unfold takeTag
  split
  · exact dropSound sound
  · exact sound

theorem takePropertiesSound : (takeProperties r).2.Sound causes := by
  have anchored := takeAnchorSound sound
  unfold takeProperties
  split
  next a r' taken =>
    rw [taken] at anchored
    exact takeTagSound anchored
  next r' taken =>
    rw [taken] at anchored
    have tagged := takeTagSound anchored
    split
    next t r' taken =>
      rw [taken] at tagged
      exact takeAnchorSound tagged
    next r' taken =>
      rw [taken] at tagged
      exact tagged

theorem openKeeps (anchor : Option String) (tag : String) (content : Content) :
    Keeps causes (r.open? anchor tag content) := by
  unfold open?
  split
  · exact sound
  · exact .branch (fun _ => trivial) fun _ => sound

omit sound in
theorem fullTagTells (r : Reader) (t : TagText) : Tells (Failure.Among causes) (r.fullTag t) := by
  unfold fullTag
  split
  · trivial
  · split <;> trivial

omit sound in
theorem namedTells (r : Reader) (name : String) : Tells (Failure.Among causes) (r.named name) := by
  unfold named
  split <;> trivial

theorem enterEnds (deep : .endless ∈ causes) :
    Ends (Failure.Among causes) (fun r => r.Sound causes) r.enter := by
  unfold enter
  split
  · exact sound
  · exact deep

structure Reads (causes : List Fault) (fuel : Nat) : Prop where
  node {r : Reader} (place : Place) : r.Sound causes → Keeps causes (node fuel place r)
  blockItems {r : Reader} : r.Sound causes → Keeps causes (blockItems fuel r)
  looseItems {r : Reader} : r.Sound causes → Keeps causes (looseItems fuel r)
  blockEntries {r : Reader} : r.Sound causes → Keeps causes (blockEntries fuel r)
  flowItems {r : Reader} (first : Bool) : r.Sound causes → Keeps causes (flowItems fuel first r)
  flowEntries {r : Reader} (first : Bool) :
    r.Sound causes → Keeps causes (flowEntries fuel first r)
  nodeUnless {r : Reader} (place : Place) (ends : List Token) :
    r.Sound causes → Keeps causes (nodeUnless fuel place ends r)
  valueUnless {r : Reader} (place : Place) (ends : List Token) :
    r.Sound causes → Keeps causes (valueUnless fuel place ends r)

variable {fuel : Nat} (below : Reads causes fuel)

theorem collectionKeeps (deep : .endless ∈ causes) {α : Type} {read : Reader → Result (α × Reader)}
    (keeps : ∀ {r : Reader}, r.Sound causes → Keeps causes (read r)) (anchor : Option String)
    (tag : String) (content : Content) (filled : α → Content) :
    Keeps causes (do
      let (v, r) ← r.open? anchor tag content
      let (parts, inner) ← read (← r.enter)
      pure (v, (inner.leave r).fill v (filled parts))) :=
  (openKeeps sound anchor tag content).bind fun _ opened =>
    (enterEnds opened deep).bind fun _ entered => (keeps entered).bind fun _ kept => kept

include below

theorem nodeKeeps (deep : .endless ∈ causes) (place : Place) :
    Keeps causes (node (fuel + 1) place r) := by
  unfold node
  split
  · exact (namedTells _ _).bind fun _ _ => dropSound sound
  have taken := takePropertiesSound sound
  have dropped := dropSound taken
  dsimp only
  refine (checkNextTells taken).bind fun _ _ => ?_
  -- what follows a tag is read in the same way as what has none
  split
  case' h_1 => rw [pure_bind]
  case' h_2 => refine (fullTagTells _ _).bind fun _ _ => ?_; rw [pure_bind]
  all_goals
    split
    · exact openKeeps dropped _ _ _
    · exact collectionKeeps dropped deep (below.flowItems true) _ _ _ .sequence
    · exact collectionKeeps dropped deep (below.flowEntries true) _ _ _ .mapping
    refine .branch (fun _ => ?_) fun _ => ?_
    · exact collectionKeeps taken deep below.looseItems _ _ _ .sequence
    refine .branch (fun _ => ?_) fun _ => ?_
    · exact collectionKeeps dropped deep below.blockItems _ _ _ .sequence
    refine .branch (fun _ => ?_) fun _ => ?_
    · exact collectionKeeps dropped deep below.blockEntries _ _ _ .mapping
    exact .branch (fun _ => openKeeps taken _ _ _) fun _ => refuseEnds taken

theorem blockItemsKeeps : Keeps causes (blockItems (fuel + 1) r) := by
  unfold blockItems
  split
  · refine (below.nodeUnless _ _ (dropSound sound)).bind fun _ kept => ?_
    exact (below.blockItems kept).bind fun _ kept => kept
  · exact dropSound sound
  · exact refuseEnds sound

theorem looseItemsKeeps : Keeps causes (looseItems (fuel + 1) r) := by
  unfold looseItems
  split
  · refine (below.nodeUnless _ _ (dropSound sound)).bind fun _ kept => ?_
    exact (below.looseItems kept).bind fun _ kept => kept
  · exact (checkNextTells sound).bind fun _ _ => sound

theorem blockEntriesKeeps : Keeps causes (blockEntries (fuel + 1) r) := by
  unfold blockEntries
  split
  · refine (below.nodeUnless _ _ (dropSound sound)).bind fun _ kept => ?_
    refine (below.valueUnless _ _ kept).bind fun _ kept => ?_
    exact (below.blockEntries kept).bind fun _ kept => kept
  · exact dropSound sound
  · exact refuseEnds sound

omit below in
theorem separatedEnds (first : Bool) :
    Ends (Failure.Among causes) (fun r => r.Sound causes)
      (if first then .ok r else r.expect .flowEntry) :=
  .branch (fun _ => sound) fun _ => expectEnds sound _

omit sound in
theorem flowItemsLater (p : Nat × Reader) (kept : p.2.Sound causes) : Keeps causes (do
    let (items, r) ← flowItems fuel false p.2
    return (p.1 :: items, r)) :=
  (below.flowItems false kept).bind fun _ kept => kept

theorem flowItemsKeeps (deep : .endless ∈ causes) (first : Bool) :
    Keeps causes (flowItems (fuel + 1) first r) := by
  have later := @flowItemsLater _ _ below
  unfold flowItems
  refine .branch (fun _ => dropSound sound) fun _ => ?_
  dsimp only
  refine .jump (separatedEnds sound first) fun r sound => ?_
  refine .branch (fun _ => dropSound sound) fun _ => .branch (fun _ => ?_) fun _ => ?_
  · refine (openKeeps (dropSound sound) _ _ _).bind fun _ opened => ?_
    refine (enterEnds opened deep).bind fun _ kept => ?_
    refine (below.nodeUnless _ _ kept).bind fun _ kept => ?_
    exact (below.valueUnless _ _ kept).bind fun _ kept => later (_, _) kept
  · exact (below.node .flow sound).bind later

omit sound in
theorem flowEntriesLater (p : (Nat × Nat) × Reader) (kept : p.2.Sound causes) : Keeps causes (do
    let (entries, r) ← flowEntries fuel false p.2
    return (p.1 :: entries, r)) :=
  (below.flowEntries false kept).bind fun _ kept => kept

theorem flowEntriesKeeps (first : Bool) : Keeps causes (flowEntries (fuel + 1) first r) := by
  have later := @flowEntriesLater _ _ below
  unfold flowEntries
  refine .branch (fun _ => dropSound sound) fun _ => ?_
  dsimp only
  refine .jump (separatedEnds sound first) fun r sound => ?_
  refine .branch (fun _ => dropSound sound) fun _ => .branch (fun _ => ?_) fun _ => ?_
  · refine (below.nodeUnless _ _ (dropSound sound)).bind fun _ kept => ?_
    exact (below.valueUnless _ _ kept).bind fun _ kept => later (_, _) kept
  · exact (below.node .flow sound).bind fun _ kept => later (_, _) kept

theorem nodeUnlessKeeps (place : Place) (ends : List Token) :
    Keeps causes (nodeUnless (fuel + 1) place ends r) := by
  unfold nodeUnless
  exact .branch (fun _ => sound) fun _ => below.node place sound

theorem valueUnlessKeeps (place : Place) (ends : List Token) :
    Keeps causes (valueUnless (fuel + 1) place ends r) := by
  unfold valueUnless
  refine .branch (fun _ => below.nodeUnless place ends (dropSound sound)) fun _ => ?_
  exact (checkNextTells sound).bind fun _ _ => sound

omit sound below

theorem reads (deep : .endless ∈ causes) (fuel : Nat) : Reads causes fuel := by
  induction fuel with
  | zero => constructor <;> intros <;> trivial
  | succ fuel below => exact
    { node := fun place sound => nodeKeeps sound below deep place
      blockItems := fun sound => blockItemsKeeps sound below
      looseItems := fun sound => looseItemsKeeps sound below
      blockEntries := fun sound => blockEntriesKeeps sound below
      flowItems := fun first sound => flowItemsKeeps sound below deep first
      flowEntries := fun first sound => flowEntriesKeeps sound below first
      nodeUnless := fun place ends sound => nodeUnlessKeeps sound below place ends
      valueUnless := fun place ends sound => valueUnlessKeeps sound below place ends }

theorem directivesEnds (versioned : Bool) (r : Reader) (tokens : List Token)
    (known : BrokenAmong causes tokens) :
    Ends (Failure.Among causes) (fun r => r.Sound causes) (directives versioned r tokens) := by
  have later {t : Token} {rest : List Token} (known : BrokenAmong causes (t :: rest)) :
      BrokenAmong causes rest := fun f held => known f (List.mem_cons_of_mem t held)
  fun_induction directives versioned r tokens with
  | case1 => exact known
  | case2 => trivial
  | case3 versioned r rest major _ ih => exact ih (later known)
  | case4 => trivial
  | case5 versioned r rest handle address _ ih => exact ih (later known)
  | case6 versioned r rest ih => exact ih (later known)
  | case7 => exact known

theorem skipEndsAmong {tokens : List Token} (known : BrokenAmong causes tokens) :
    BrokenAmong causes (skipEnds tokens) := by
  induction tokens with
  | nil => exact known
  | cons t rest ih =>
    unfold skipEnds
    split
    next ts same =>
      cases same
      exact ih fun f held => known f (List.mem_cons_of_mem _ held)
    next => exact known

theorem checkLastTells {r : Reader} (sound : r.Sound causes) :
    Tells (Failure.Among causes) r.checkLast := by
  have skipped : Sound causes { r with tokens := skipEnds r.tokens } := skipEndsAmong sound
  exact .branch (fun _ => trivial) fun _ => refuseEnds skipped

theorem documentTells (deep : .endless ∈ causes) {tokens : List Token}
    (known : BrokenAmong causes tokens) (levels : Levels) :
    Tells (Failure.Among causes) (document tokens levels) := by
  have closed (p : Nat × Reader) (kept : p.2.Sound causes) : Tells (Failure.Among causes) (do
      p.2.checkLast
      return some (p.2.graph, p.1)) :=
    (checkLastTells kept).bind fun _ _ => trivial
  have start : Sound causes ⟨tokens, [], [], #[], levels⟩ := known
  have named : Sound causes ⟨tokens, defaultHandles, [], #[], levels⟩ := known
  unfold document
  dsimp only
  refine .branch (fun _ => trivial) fun _ => .branch (fun _ => ?_) fun _ => ?_
  · refine (directivesEnds false _ tokens known).bind fun r sound => ?_
    have handled : Sound causes { r with handles := r.handles ++ defaultHandles } := sound
    refine (expectEnds handled _).bind fun r sound => ?_
    split
    case h_5 => exact ((reads deep _).node .block sound).bind closed
    all_goals exact closed r.nothing sound
  · exact ((reads deep _).node .block named).bind closed

end Reader
end ClientGen.Yaml
