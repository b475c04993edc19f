import ClientGen.Proofs.Compile.Alike
import ClientGen.Proofs.Grouping.Formed
import ClientGen.Proofs.Node.Keys

/-! Documents that differ in the order of their keys. What a value is read as decides how far it may
differ: most maps may list their keys in another order, but paths, responses, media types and
properties are gone through in the order in which they stand; of what is required only the names
count, and what is shown stays as it is. The relation is inductive, so that what is read of a document
does not lead back to itself. -/
namespace ClientGen.Reordering
open Parts Compile
open Node (Apart)

inductive Role
  | root
  | components
  | schemas
  | paths
  | pathItem
  | operation
  | parameters
  | parameter
  | requestBody
  | responses
  | response
  | content
  | mediaType
  | schema
  | properties
  deriving DecidableEq, Repr

inductive Reading
  | as (role : Role)
  -- Shown, or compared, as it is.
  | plain
  -- Gone through for the names in it.
  | names
  -- Asked only whether it holds.
  | truth
  | unread

namespace Role

def every? : Role → Option Role
  | .schemas => some .schema
  | .paths => some .pathItem
  | .responses => some .response
  | .content => some .mediaType
  | .properties => some .schema
  | _ => none

def table : Role → List (String × Reading)
  | .root => [("paths", .as .paths), ("components", .as .components)]
  | .components => [("schemas", .as .schemas)]
  | .pathItem => ("$ref", .plain) :: methodKeys.map fun method => (method, .as .operation)
  | .operation => [("parameters", .as .parameters), ("requestBody", .as .requestBody),
      ("responses", .as .responses), ("operationId", .plain), ("summary", .plain),
      ("description", .plain), ("tags", .plain)]
  | .parameter => [("$ref", .plain), ("name", .plain), ("in", .plain), ("description", .plain),
      ("required", .truth), ("schema", .as .schema)]
  | .requestBody => [("$ref", .plain), ("content", .as .content)]
  | .response => [("$ref", .plain), ("description", .plain), ("content", .as .content)]
  | .mediaType => [("schema", .as .schema)]
  | .schema => [("$ref", .plain), ("type", .plain), ("title", .plain), ("description", .plain),
      (originKey, .plain), ("enum", .plain), ("required", .names), ("items", .as .schema),
      ("properties", .as .properties)]
  | _ => []

def reading (role : Role) (key : Node) : Reading :=
  match role.every? with
  | some inner => .as inner
  | none =>
    match key with
    | .str s => (role.table.lookup s).getD .unread
    | _ => .unread

theorem readingEvery {role inner : Role} (every : role.every? = some inner) (key : Node) :
    role.reading key = .as inner := by
  unfold reading
  rw [every]

def keepsOrder : Role → Bool
  | .paths | .responses | .content | .properties | .parameters => true
  | _ => false

def item? : Role → Option Role
  | .parameters => some .parameter
  | .schemas => some .schema
  | .content => some .mediaType
  | _ => none

end Role

section Relations

variable (parts parts' : Parts)

structure Unchanged (a b : Node) : Prop where
  equal : Equal parts parts' a b
  key : SameKey parts parts' a b
  items : Agree (List.Forall₂ (Equal parts parts')) (parts.items a) (parts'.items b)
  first : Agree (Equal parts parts') (parts.lookup a (.int 0)) (parts'.lookup b (.int 0))

inductive Requires (a b : Node) : Prop
  | nothing (left : parts.holds a = false) (right : parts'.holds b = false)
  | listed {xs ys} (there : parts.holds a = true) (there' : parts'.holds b = true)
      (left : parts.items a = .ok xs) (right : parts'.items b = .ok ys)
      (into : ∀ x ∈ xs, ∃ y ∈ ys, SameKey parts parts' x y)
      (onto : ∀ y ∈ ys, ∃ x ∈ xs, SameKey parts parts' x y)
  | unlisted {fault} (there : parts.holds a = true) (there' : parts'.holds b = true)
      (left : parts.items a = .error fault) (right : parts'.items b = .error fault)

structure Leaf (a b : Node) : Prop where
  same : parts.view a = parts'.view b
  equal : Equal parts parts' a b
  other : (parts.view a).isMap = false
  unlinked : ∀ i, parts.view a ≠ .link i
  flat : ∀ xs, parts.items a = .ok xs → ∀ x ∈ xs, x.hashable = true

structure Arranged (role : Role) (es es' : Entries) : Prop where
  keys : (es.map (·.1)).Perm (es'.map (·.1))
  order : role.keepsOrder = true → es.map (·.1) = es'.map (·.1)
  apart : Apart (es.map (·.1))
  plain : ∀ k v w, role.reading k = .plain → (k, v) ∈ es → (k, w) ∈ es' →
    Unchanged parts parts' v w
  names : ∀ k v w, role.reading k = .names → (k, v) ∈ es → (k, w) ∈ es' →
    Requires parts parts' v w
  truth : ∀ k v w, role.reading k = .truth → (k, v) ∈ es → (k, w) ∈ es' →
    parts.holds v = parts'.holds w

-- Values of two documents, read in one role, that differ only in what the role leaves open.
inductive Reordered : Role → Node → Node → Prop
  | map {role a b es es'} (left : parts.view a = .map es) (right : parts'.view b = .map es')
      (arranged : Arranged parts parts' role es es')
      (inner : ∀ (r : Role) (k v w : Node), role.reading k = .as r → (k, v) ∈ es → (k, w) ∈ es' →
        Reordered r v w) : Reordered role a b
  | list {role a b} {xs ys : List Node} (left : parts.view a = .list xs)
      (right : parts'.view b = .list ys) (size : xs.length = ys.length)
      (inner : ∀ (r : Role) (i : Nat) (x y : Node), role.item? = some r → xs[i]? = some x →
        ys[i]? = some y → Reordered r x y) : Reordered role a b
  | leaf {role a b} (same : Leaf parts parts' a b) : Reordered role a b

inductive Reads : Reading → Node → Node → Prop
  | as {role v w} (same : Reordered parts parts' role v w) : Reads (.as role) v w
  | plain {v w} (same : Unchanged parts parts' v w) : Reads .plain v w
  | names {v w} (same : Requires parts parts' v w) : Reads .names v w
  | truth {v w} (same : parts.holds v = parts'.holds w) : Reads .truth v w
  | unread {v w} : Reads .unread v w

end Relations

variable {parts parts' : Parts} {role : Role} {a b : Node} {es es' : Entries}

theorem itemsSame (same : parts.view a = parts'.view b) : parts.items a = parts'.items b := by
  simp only [Parts.items, same]

theorem lookupSame {k k' : Node} (same : parts.view a = parts'.view b)
    (key : parts.view k = parts'.view k') : parts.lookup a k = parts'.lookup b k' := by
  simp only [Parts.lookup, same, key]

theorem equalUsable {n : Node} (usable : n.hashable = true) : Equal parts parts' n n :=
  (closeUsable parts usable).trans (closeUsable parts' usable).symm

theorem viewBoth {n : Node} (usable : n.hashable = true) : parts.view n = parts'.view n := by
  rw [viewUsable parts usable, viewUsable parts' usable]

theorem itemsUsable {n : Node} (usable : n.hashable = true) {xs : List Node}
    (listed : parts.items n = .ok xs) : ∀ x ∈ xs, x.hashable = true := by
  rw [Parts.items, viewUsable parts usable] at listed
  cases n with
  | pair a b =>
    cases listed
    simp only [Node.hashable, Bool.and_eq_true] at usable
    simp [usable]
  | str s =>
    cases listed
    simp [Node.hashable]
  | bytes content =>
    cases listed
    simp [Node.hashable]
  | set | list | map | link | enclosing => simp [Node.hashable] at usable
  | _ => cases listed

theorem leafUsable {n : Node} (usable : n.hashable = true) : Leaf parts parts' n n where
  same := viewBoth usable
  equal := equalUsable usable
  other := by
    rw [viewUsable parts usable]
    cases n <;> simp [Node.hashable] at usable <;> rfl
  unlinked i shown := by
    rw [viewUsable parts usable] at shown
    subst shown
    simp [Node.hashable] at usable
  flat _ listed := itemsUsable usable listed

theorem sameKeyUsable {n : Node} (usable : n.hashable = true) : SameKey parts parts' n n where
  usable := by rw [viewBoth usable]
  key _ := viewBoth usable

theorem lookupUsable {n k v : Node} (usable : n.hashable = true)
    (found : parts.lookup n k = .ok v) : v.hashable = true := by
  rw [Parts.lookup, viewUsable parts usable] at found
  cases n with
  | str s =>
    dsimp only at found
    split at found
    · generalize (index? _ _).bind _ = character at found
      cases character with
      | none => cases found
      | some c =>
        cases found
        rfl
    · contradiction
  | set | list | map | link | enclosing => simp [Node.hashable] at usable
  | _ => cases found

theorem unchangedUsable {n : Node} (usable : n.hashable = true) : Unchanged parts parts' n n where
  equal := equalUsable usable
  key := sameKeyUsable usable
  items := by
    have same : parts.items n = parts'.items n := itemsSame (viewBoth usable)
    rw [← same]
    cases listed : parts.items n with
    | error fault => exact .refused fault
    | ok xs =>
      have each : ∀ x ∈ xs, Equal parts parts' x x :=
        fun x member => equalUsable (itemsUsable usable listed x member)
      exact .read (List.forall₂_same.mpr each)
  first := by
    have same : parts.lookup n (.int 0) = parts'.lookup n (.int 0) :=
      lookupSame (viewBoth usable) (viewBoth rfl)
    rw [← same]
    cases found : parts.lookup n (.int 0) with
    | error fault => exact .refused fault
    | ok v => exact .read (equalUsable (lookupUsable usable found))

theorem Reordered.usable {n : Node} (usable : n.hashable = true) :
    Reordered parts parts' role n n := .leaf (leafUsable usable)

theorem reorderedEmpty : Reordered parts parts' role (.map []) (.map []) :=
  .map rfl rfl
    { keys := .refl _
      order := fun _ => rfl
      apart := ⟨nofun, .nil⟩
      plain := nofun
      names := nofun
      truth := nofun } nofun

theorem readsNull (reading : Reading) : Reads parts parts' reading .null .null := by
  cases reading with
  | as role => exact .as (.usable rfl)
  | plain => exact .plain (unchangedUsable rfl)
  | names => exact .names (.nothing rfl rfl)
  | truth => exact .truth rfl
  | unread => exact .unread

theorem foundMember {key : String} {v : Node} (found : Entries.at? key es = some v) :
    (.str key, v) ∈ es := by
  induction es with
  | nil => cases found
  | cons e rest ih =>
    obtain ⟨k, v'⟩ := e
    cases k with
    | str s =>
      by_cases met : s = key
      · subst met
        simp only [Entries.at?, ↓reduceIte, Option.some.injEq] at found
        subst found
        exact List.mem_cons_self
      · exact List.mem_cons_of_mem _ (ih (by simpa [Entries.at?, met] using found))
    | _ => exact List.mem_cons_of_mem _ (ih (by simpa [Entries.at?] using found))

theorem memberFound {key : String} (there : Node.str key ∈ es.map (·.1)) :
    ∃ v, Entries.at? key es = some v := by
  induction es with
  | nil => cases there
  | cons e rest ih =>
    obtain ⟨k, v⟩ := e
    by_cases met : k = .str key
    · subst met
      exact ⟨v, by simp [Entries.at?]⟩
    · have later := ih ((List.mem_cons.mp there).resolve_left fun same => met same.symm)
      cases k with
      | str s =>
        have apart : s ≠ key := fun same => met (congrArg Node.str same)
        simpa [Entries.at?, apart] using later
      | _ => simpa [Entries.at?] using later

theorem keyMember {key k v : Node} (found : List.find? (fun e => key.same e.1) es = some (k, v)) :
    (k, v) ∈ es ∧ key.same k = true :=
  ⟨List.mem_of_find?_eq_some found, by simpa using List.find?_some found⟩

structure Matched (parts parts' : Parts) (role : Role) (es es' : Entries) : Prop where
  keys : (es.map (·.1)).Perm (es'.map (·.1))
  order : role.keepsOrder = true → es.map (·.1) = es'.map (·.1)
  apart : Apart (es.map (·.1))
  told : ∀ k v w, (k, v) ∈ es → (k, w) ∈ es' → Reads parts parts' (role.reading k) v w

theorem Arranged.matched (arranged : Arranged parts parts' role es es')
    (inner : ∀ (r : Role) (k v w : Node), role.reading k = .as r → (k, v) ∈ es → (k, w) ∈ es' →
      Reordered parts parts' r v w) : Matched parts parts' role es es' where
  keys := arranged.keys
  order := arranged.order
  apart := arranged.apart
  told k v w left right := by
    cases reading : role.reading k with
    | as r => exact .as (inner r k v w reading left right)
    | plain => exact .plain (arranged.plain k v w reading left right)
    | names => exact .names (arranged.names k v w reading left right)
    | truth => exact .truth (arranged.truth k v w reading left right)
    | unread => exact .unread

theorem Matched.reordered (matched : Matched parts parts' role es es') (left : parts.view a = .map es)
    (right : parts'.view b = .map es') : Reordered parts parts' role a b := by
  have told {reading : Reading} {k v w : Node} (read : role.reading k = reading)
      (there : (k, v) ∈ es) (there' : (k, w) ∈ es') : Reads parts parts' reading v w :=
    read ▸ matched.told k v w there there'
  refine .map left right
    { keys := matched.keys
      order := matched.order
      apart := matched.apart
      plain := fun k v w read there there' => ?_
      names := fun k v w read there there' => ?_
      truth := fun k v w read there there' => ?_ } fun r k v w read there there' => ?_
  · cases told read there there' with | plain same => exact same
  · cases told read there there' with | names same => exact same
  · cases told read there there' with | truth same => exact same
  · cases told read there there' with | as same => exact same

section Matched

variable (matched : Matched parts parts' role es es')
include matched

theorem textFound (key : String) :
    (Entries.at? key es = none ∧ Entries.at? key es' = none) ∨
      ∃ v w, Entries.at? key es = some v ∧ Entries.at? key es' = some w ∧
        Reads parts parts' (role.reading (.str key)) v w := by
  cases left : Entries.at? key es with
  | some v =>
    have member := foundMember left
    obtain ⟨w, right⟩ := memberFound (matched.keys.mem_iff.mp (List.mem_map_of_mem member))
    exact .inr ⟨v, w, rfl, right, matched.told _ v w member (foundMember right)⟩
  | none =>
    cases right : Entries.at? key es' with
    | none => exact .inl ⟨rfl, rfl⟩
    | some w =>
      have there := matched.keys.mem_iff.mpr (List.mem_map_of_mem (foundMember right))
      obtain ⟨v, found⟩ := memberFound there
      cases left.symm.trans found

theorem textRead (key : String) : Reads parts parts' (role.reading (.str key))
    ((Entries.at? key es).getD .null) ((Entries.at? key es').getD .null) := by
  rcases textFound matched key with ⟨left, right⟩ | ⟨v, w, left, right, reads⟩
  · rw [left, right]
    exact readsNull _
  · rw [left, right]
    exact reads

theorem textHas (key : String) : Entries.has key es = Entries.has key es' := by
  unfold Entries.has
  rcases textFound matched key with ⟨left, right⟩ | ⟨v, w, left, right, _⟩
  · rw [left, right]
  · rw [left, right]
    rfl

theorem keyFound {key : Node} (usable : key.hashable = true) :
    (Node.findKey? key es = none ∧ Node.findKey? key es' = none) ∨
      ∃ k v w, Node.findKey? key es = some v ∧ Node.findKey? key es' = some w ∧
        Reads parts parts' (role.reading k) v w := by
  have never {k : Node} {fs : Entries} (there : k ∈ fs.map (·.1)) (met : key.same k = true) :
      List.find? (fun e => key.same e.1) fs ≠ none := by
    intro none
    obtain ⟨e, member, rfl⟩ := List.mem_map.mp there
    exact List.find?_eq_none.mp none e member met
  unfold Node.findKey?
  cases left : List.find? (fun e => key.same e.1) es with
  | some e =>
    obtain ⟨member, met⟩ := keyMember left
    have there := matched.keys.mem_iff.mp (List.mem_map_of_mem member)
    cases right : List.find? (fun e => key.same e.1) es' with
    | none => exact absurd right (never there met)
    | some e' =>
      obtain ⟨member', met'⟩ := keyMember right
      have there' := matched.keys.mem_iff.mpr (List.mem_map_of_mem member')
      have keys : e.1.key = e'.1.key :=
        ((Node.sameKey usable _).mp met).2.symm.trans ((Node.sameKey usable _).mp met').2
      have one : e.1 = e'.1 := matched.apart.one (List.mem_map_of_mem member) there' keys
      exact .inr ⟨e.1, e.2, e'.2, rfl, rfl, matched.told _ _ _ member (one ▸ member')⟩
  | none =>
    cases right : List.find? (fun e => key.same e.1) es' with
    | none => exact .inl ⟨rfl, rfl⟩
    | some e' =>
      obtain ⟨member', met⟩ := keyMember right
      have there := matched.keys.mem_iff.mpr (List.mem_map_of_mem member')
      exact absurd left (never there met)

end Matched

theorem entriesTogether {r : Node → Node → Node → Prop} (order : es.map (·.1) = es'.map (·.1))
    (told : ∀ k v w, (k, v) ∈ es → (k, w) ∈ es' → r k v w) :
    List.Forall₂ (fun p q => p.1 = q.1 ∧ r p.1 p.2 q.2) es es' := by
  induction es generalizing es' with
  | nil =>
    cases es' with
    | nil => exact .nil
    | cons => cases order
  | cons e rest ih =>
    cases es' with
    | nil => cases order
    | cons e' rest' =>
      obtain ⟨k, v⟩ := e
      obtain ⟨k', w⟩ := e'
      obtain ⟨rfl, later⟩ := List.cons.inj order
      refine .cons ⟨rfl, told k v w List.mem_cons_self List.mem_cons_self⟩ (ih later ?_)
      exact fun k v w left right =>
        told k v w (List.mem_cons_of_mem _ left) (List.mem_cons_of_mem _ right)

theorem togetherKeys {r : Node → Node → Node → Prop}
    (together : List.Forall₂ (fun p q => p.1 = q.1 ∧ r p.1 p.2 q.2) es es') :
    es.map (·.1) = es'.map (·.1) := by
  induction together with
  | nil => rfl
  | cons here _ ih => rw [List.map_cons, List.map_cons, here.1, ih]

theorem togetherTold {r : Node → Node → Node → Prop} (apart : (es.map (·.1)).Nodup)
    (together : List.Forall₂ (fun p q => p.1 = q.1 ∧ r p.1 p.2 q.2) es es') :
    ∀ k v w, (k, v) ∈ es → (k, w) ∈ es' → r k v w := by
  induction together with
  | nil => nofun
  | @cons e e' rest rest' here later ih =>
    have order := togetherKeys later
    obtain ⟨fresh, apart⟩ := List.nodup_cons.mp apart
    intro k v w left right
    rcases List.mem_cons.mp left with rfl | left <;> rcases List.mem_cons.mp right with rfl | right
    · exact here.2
    · have there : k ∈ rest'.map (·.1) := List.mem_map_of_mem right
      exact absurd (order ▸ there) fresh
    · have there : k ∈ rest.map (·.1) := List.mem_map_of_mem left
      exact absurd (show e.1 ∈ rest.map (·.1) by rwa [here.1]) fresh
    · exact ih apart k v w left right

theorem togetherMatched (apart : Apart (es.map (·.1)))
    (together : List.Forall₂ (fun p q => p.1 = q.1 ∧
      Reads parts parts' (role.reading p.1) p.2 q.2) es es') : Matched parts parts' role es es' where
  keys := .of_eq (togetherKeys (r := fun k => Reads parts parts' (role.reading k)) together)
  order _ := togetherKeys (r := fun k => Reads parts parts' (role.reading k)) together
  apart := apart
  told := togetherTold (r := fun k => Reads parts parts' (role.reading k)) (.of_map _ apart.2) together

theorem Matched.permuted {es'' : Entries} (matched : Matched parts parts' role es es')
    (free : role.keepsOrder = false) (permuted : es'.Perm es'') : Matched parts parts' role es es'' where
  keys := matched.keys.trans (permuted.map _)
  order kept := by rw [free] at kept; cases kept
  apart := matched.apart
  told k v w left right := matched.told k v w left (permuted.mem_iff.mpr right)

theorem objectReordered {fs hs : List (String × Node)} (gs : List (String × Node))
    (left : parts.view a = .object fs) (right : parts'.view b = .object hs) (apart : (fs.map (·.1)).Nodup)
    (order : gs = hs ∨ role.keepsOrder = false ∧ gs.Perm hs)
    (together : List.Forall₂ (fun f g => f.1 = g.1 ∧
      Reads parts parts' (role.reading (.str f.1)) f.2 g.2) fs gs) :
    Reordered parts parts' role a b := by
  have texts : (fs.map fun f => (Node.str f.1, f.2)).map (·.1) = (fs.map (·.1)).map Node.str := by
    simp
  have keys : Apart ((fs.map fun f => (Node.str f.1, f.2)).map (·.1)) := by
    rw [texts]
    exact Node.textsApart apart
  have matched : Matched parts parts' role (fs.map fun f => (.str f.1, f.2))
      (gs.map fun g => (.str g.1, g.2)) := by
    refine togetherMatched keys ?_
    rw [List.forall₂_map_left_iff, List.forall₂_map_right_iff]
    exact together.imp fun f g here => ⟨congrArg Node.str here.1, here.2⟩
  rcases order with rfl | ⟨free, permuted⟩
  · exact matched.reordered left right
  · exact (matched.permuted free (permuted.map _)).reordered left right

theorem namesMembers {xs ys : List Node} (usable : ∀ x ∈ xs, x.hashable = true)
    (members : ∀ x, x ∈ xs ↔ x ∈ ys) : Requires parts parts' (.list xs) (.list ys) := by
  cases xs with
  | nil =>
    have none : ys = [] := List.eq_nil_iff_forall_not_mem.mpr fun y member =>
      (List.not_mem_nil ((members y).mpr member)).elim
    subst none
    exact .nothing rfl rfl
  | cons x xs =>
    cases ys with
    | nil => cases (members x).mp List.mem_cons_self
    | cons y ys =>
      refine .listed rfl rfl rfl rfl (fun x member => ?_) fun y member => ?_
      · exact ⟨x, (members x).mp member, sameKeyUsable (usable x member)⟩
      · have back := (members y).mpr member
        exact ⟨y, back, sameKeyUsable (usable y back)⟩

end ClientGen.Reordering
