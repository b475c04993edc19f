import ClientGen.Levels
import ClientGen.Yaml.Graph
import ClientGen.Yaml.Token

/-! Reading the nodes of a YAML document from its tokens, with every node's tag settled and every
alias replaced by the node it names. A text holds at most one document. -/
namespace ClientGen.Yaml

/-- Tokens still to be read, what the tokens read so far have declared, the nodes so far, and the
levels left for collections. -/
structure Reader where
  tokens : List Token
  handles : List (String × String)
  anchors : List (String × Nat)
  graph : Graph
  levels : Levels

namespace Reader

def peek (r : Reader) : Option Token := r.tokens.head?

def drop (r : Reader) : Reader := { r with tokens := r.tokens.tail }

def isAt (r : Reader) (t : Token) : Bool := r.peek == some t

def isAtAny (r : Reader) (ts : List Token) : Bool := ts.any r.isAt

def refuse {α : Type} (r : Reader) : Result α :=
  match r.peek with
  | some (.broken failure) => .error failure
  | _ => reject

def checkNext (r : Reader) : Result Unit :=
  match r.peek with
  | some (.broken failure) => .error failure
  | _ => .ok ()

def expect (t : Token) (r : Reader) : Result Reader := if r.isAt t then .ok r.drop else r.refuse

structure Properties where
  anchor : Option String
  tag : Option TagText

def takeAnchor (r : Reader) : Option String × Reader :=
  match r.peek with
  | some (.anchor name) => (some name, r.drop)
  | _ => (none, r)

def takeTag (r : Reader) : Option TagText × Reader :=
  match r.peek with
  | some (.tag t) => (some t, r.drop)
  | _ => (none, r)

def takeProperties (r : Reader) : Properties × Reader :=
  match takeAnchor r with
  | (some a, r) =>
    let (t, r) := takeTag r
    (⟨some a, t⟩, r)
  | (none, r) =>
    match takeTag r with
    | (some t, r) =>
      let (a, r) := takeAnchor r
      (⟨a, some t⟩, r)
    | (none, r) => (⟨none, none⟩, r)

def fullTag (r : Reader) (t : TagText) : Result String :=
  match t.handle with
  | none => .ok t.suffix
  | some h =>
    match r.handles.lookup h with
    | some lead => .ok (lead ++ t.suffix)
    | none => reject

def collectionTag (tag : Option String) (kind : String) : String :=
  match tag with
  | none => standardTag kind
  | some t => if t = "!" then standardTag kind else t

def scalarTag (tag : Option String) (plain : Bool) (text : String) : String :=
  match tag with
  | none => if plain then spelledTag text else standardTag "str"
  | some t => if t = "!" then spelledTag text else t

def open? (r : Reader) (anchor : Option String) (tag : String) (content : Content) :
    Result (Nat × Reader) :=
  let v := r.graph.size
  let r := { r with graph := r.graph.push ⟨tag, content⟩ }
  match anchor with
  | none => .ok (v, r)
  | some name =>
    if (r.anchors.lookup name).isSome then reject
    else .ok (v, { r with anchors := (name, v) :: r.anchors })

def fill (r : Reader) (v : Nat) (content : Content) : Reader :=
  { r with graph := r.graph.setContent v content }

def enter (r : Reader) : Result Reader :=
  match r.levels.inner? with
  | some inner => .ok { r with levels := inner }
  | none => .error (.fault .endless)

def leave (r : Reader) (outside : Reader) : Reader := { r with levels := outside.levels }

def nothing (r : Reader) : Nat × Reader :=
  (r.graph.size, { r with graph := r.graph.push ⟨standardTag "null", .scalar ""⟩ })

def named (r : Reader) (name : String) : Result Nat :=
  match r.anchors.lookup name with
  | some v => .ok v
  | none => reject

inductive Place
  | flow
  | block
  | entry
  deriving DecidableEq, Repr

mutual
/-- A node. A collection has its number before its parts are read, so that they can name it. -/
def node : Nat → Place → Reader → Result (Nat × Reader)
  | 0, _, _ => reject
  | fuel + 1, place, r =>
    match r.peek with
    | some (.alias name) => do return (← r.named name, r.drop)
    | _ => do
      let (properties, r) := takeProperties r
      r.checkNext
      let tag ← match properties.tag with
        | none => pure none
        | some t => do pure (some (← r.fullTag t))
      let anchor := properties.anchor
      let sequence := fun (read : Reader → Result (List Nat × Reader)) (r : Reader) => do
        let (v, r) ← r.open? anchor (collectionTag tag "seq") (.sequence [])
        let (items, inner) ← read (← r.enter)
        pure (v, (inner.leave r).fill v (.sequence items))
      let mapping := fun (read : Reader → Result (List (Nat × Nat) × Reader)) (r : Reader) => do
        let (v, r) ← r.open? anchor (collectionTag tag "map") (.mapping [])
        let (entries, inner) ← read (← r.enter)
        pure (v, (inner.leave r).fill v (.mapping entries))
      match r.peek with
      | some (.scalar text plain) => r.drop.open? anchor (scalarTag tag plain text) (.scalar text)
      | some .flowSequenceStart => sequence (flowItems fuel true) r.drop
      | some .flowMappingStart => mapping (flowEntries fuel true) r.drop
      | next =>
        if place == .entry && next == some .blockEntry then sequence (looseItems fuel) r
        else if place != .flow && next == some .blockSequenceStart then
          sequence (blockItems fuel) r.drop
        else if place != .flow && next == some .blockMappingStart then
          mapping (blockEntries fuel) r.drop
        else if anchor.isSome || tag.isSome then
          let full := match tag with
            | none => standardTag "null"
            | some t => if t = "!" then standardTag "null" else t
          r.open? anchor full (.scalar "")
        else r.refuse

def blockItems : Nat → Reader → Result (List Nat × Reader)
  | 0, _ => reject
  | fuel + 1, r =>
    match r.peek with
    | some .blockEntry => do
      let (item, r) ← nodeUnless fuel .block [.blockEntry, .blockEnd] r.drop
      let (items, r) ← blockItems fuel r
      return (item :: items, r)
    | some .blockEnd => .ok ([], r.drop)
    | _ => r.refuse

def looseItems : Nat → Reader → Result (List Nat × Reader)
  | 0, _ => reject
  | fuel + 1, r =>
    match r.peek with
    | some .blockEntry => do
      let (item, r) ← nodeUnless fuel .block [.blockEntry, .key, .value, .blockEnd] r.drop
      let (items, r) ← looseItems fuel r
      return (item :: items, r)
    | _ => do
      r.checkNext
      return ([], r)

def blockEntries : Nat → Reader → Result (List (Nat × Nat) × Reader)
  | 0, _ => reject
  | fuel + 1, r =>
    match r.peek with
    | some .key => do
      let (key, r) ← nodeUnless fuel .entry [.key, .value, .blockEnd] r.drop
      let (value, r) ← valueUnless fuel .entry [.key, .value, .blockEnd] r
      let (entries, r) ← blockEntries fuel r
      return ((key, value) :: entries, r)
    | some .blockEnd => .ok ([], r.drop)
    | _ => r.refuse

def flowItems : Nat → Bool → Reader → Result (List Nat × Reader)
  | 0, _, _ => reject
  | fuel + 1, first, r =>
    if r.isAt .flowSequenceEnd then .ok ([], r.drop)
    else do
      let r ← if first then .ok r else r.expect .flowEntry
      if r.isAt .flowSequenceEnd then return ([], r.drop)
      let (item, r) ←
        if r.isAt .key then do
          let (v, r) ← r.drop.open? none (standardTag "map") (.mapping [])
          let inner ← r.enter
          let (key, inner) ← nodeUnless fuel .flow [.value, .flowEntry, .flowSequenceEnd] inner
          let (value, inner) ← valueUnless fuel .flow [.flowEntry, .flowSequenceEnd] inner
          .ok (v, (inner.leave r).fill v (.mapping [(key, value)]))
        else node fuel .flow r
      let (items, r) ← flowItems fuel false r
      return (item :: items, r)

def flowEntries : Nat → Bool → Reader → Result (List (Nat × Nat) × Reader)
  | 0, _, _ => reject
  | fuel + 1, first, r =>
    if r.isAt .flowMappingEnd then .ok ([], r.drop)
    else do
      let r ← if first then .ok r else r.expect .flowEntry
      if r.isAt .flowMappingEnd then return ([], r.drop)
      let (entry, r) ←
        if r.isAt .key then do
          let (key, r) ← nodeUnless fuel .flow [.value, .flowEntry, .flowMappingEnd] r.drop
          let (value, r) ← valueUnless fuel .flow [.flowEntry, .flowMappingEnd] r
          .ok ((key, value), r)
        else do
          let (key, r) ← node fuel .flow r
          let (value, r) := r.nothing
          .ok ((key, value), r)
      let (entries, r) ← flowEntries fuel false r
      return (entry :: entries, r)

def nodeUnless : Nat → Place → List Token → Reader → Result (Nat × Reader)
  | 0, _, _, _ => reject
  | fuel + 1, place, ends, r =>
    if r.isAtAny ends then .ok r.nothing else node fuel place r

def valueUnless : Nat → Place → List Token → Reader → Result (Nat × Reader)
  | 0, _, _, _ => reject
  | fuel + 1, place, ends, r =>
    if r.isAt .value then nodeUnless fuel place ends r.drop
    else do
      r.checkNext
      return r.nothing
end

def directives : Bool → Reader → List Token → Result Reader
  | _, r, [] => .ok { r with tokens := [] }
  | versioned, r, .directive d :: rest =>
    match d with
    | .version major => if versioned || major != 1 then reject else directives true r rest
    | .tagLead handle address =>
      if (r.handles.lookup handle).isSome then reject
      else directives versioned { r with handles := (handle, address) :: r.handles } rest
    | .other => directives versioned r rest
  | _, r, tokens => .ok { r with tokens }

def defaultHandles : List (String × String) := [("!", "!"), ("!!", standardTag "")]

def skipEnds : List Token → List Token
  | .documentEnd :: rest => skipEnds rest
  | ts => ts

def checkLast (r : Reader) : Result Unit :=
  let r := { r with tokens := skipEnds r.tokens }
  if r.tokens.isEmpty then .ok () else r.refuse

def startsDocument (r : Reader) : Bool :=
  match r.peek with
  | some (.directive _) | some .documentStart => true
  | _ => false

def document (tokens : List Token) (levels : Levels) : Result (Option (Graph × Nat)) := do
  let fuel := 4 * tokens.length + 4
  let r : Reader := ⟨tokens, [], [], #[], levels⟩
  if tokens.isEmpty then return none
  let (v, r) ←
    if r.startsDocument then do
      let r ← directives false r tokens
      let r ← { r with handles := r.handles ++ defaultHandles }.expect .documentStart
      match r.peek with
      | none | some (.directive _) | some .documentStart | some .documentEnd => .ok r.nothing
      | _ => node fuel .block r
    else node fuel .block { r with handles := defaultHandles }
  r.checkLast
  return some (r.graph, v)

end Reader
end ClientGen.Yaml
