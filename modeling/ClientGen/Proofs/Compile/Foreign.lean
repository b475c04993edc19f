import ClientGen.Proofs.Compile.Alike
import ClientGen.Proofs.Registry.Taking

/-! Schemas of other components stay closed. Two schemas, each of its own document, are alike for a
resource when they are equal except inside objects that carry the names of other components and have
equal descriptions. Whatever these objects are made of, what the resource compiles from the two is
the same, and so is what it registers. -/
namespace ClientGen
namespace Compile
open Parts

section Alike

variable (parts parts' : Parts)

inductive SameRequired (a b : Node) : Prop
  | nothing (left : parts.holds a = false) (right : parts'.holds b = false)
  | listed {xs ys} (there : parts.holds a = true) (there' : parts'.holds b = true)
      (left : parts.items a = .ok xs) (right : parts'.items b = .ok ys)
      (keys : List.Forall₂ (SameKey parts parts') xs ys)
  | unlisted {fault} (there : parts.holds a = true) (there' : parts'.holds b = true)
      (left : parts.items a = .error fault) (right : parts'.items b = .error fault)

variable (owner : Node) (R : Node → Node → Prop)

inductive AlikeProperties (a b : Node) : Prop
  | object {ps qs} (left : parts.view a = .map ps) (right : parts'.view b = .map qs)
      (each : List.Forall₂ (fun p q => p.1 = q.1 ∧ p.1.hashable = true ∧ R p.2 q.2) ps qs)
  | plain (other : (parts.view a).isMap = false) (equal : Equal parts parts' a b)

def readKeys : List String := ["items", "properties", "required"] ++ plainKeys

inductive AlikeEntry : Node × Node → Node × Node → Prop
  | items {v w} (inner : R v w) : AlikeEntry (.str "items", v) (.str "items", w)
  | properties {v w} (inner : AlikeProperties parts parts' R v w) :
      AlikeEntry (.str "properties", v) (.str "properties", w)
  | required {v w} (same : SameRequired parts parts' v w) :
      AlikeEntry (.str "required", v) (.str "required", w)
  | plain {key v w} (read : key ∈ plainKeys) (equal : Equal parts parts' v w) :
      AlikeEntry (.str key, v) (.str key, w)
  | unread {k v w} (other : ∀ key ∈ readKeys, k ≠ .str key) : AlikeEntry (k, v) (k, w)

structure Foreign (schema : Node) : Prop where
  shape : parts.shape schema = .ok .object
  origin : ∃ entries, parts.entries schema = .ok entries ∧ isForeign parts owner entries = true

inductive AlikeLayer (a b : Node) : Prop
  | foreign {t u} (left : Foreign parts owner a) (right : Foreign parts' owner b)
      (described : parts.field a "description" = .ok t)
      (described' : parts'.field b "description" = .ok u) (equal : Equal parts parts' t u)
  | object {es es'} (left : parts.view a = .map es) (right : parts'.view b = .map es')
      (entries : List.Forall₂ (AlikeEntry parts parts' R) es es')
  | plain (other : (parts.view a).isMap = false) (equal : Equal parts parts' a b)

end Alike

def Alike (parts parts' : Parts) (owner a b : Node) : Prop :=
  ∃ R : Node → Node → Prop, (∀ a b, R a b → AlikeLayer parts parts' owner R a b) ∧ R a b

variable {parts parts' : Parts} {owner : Node} {R : Node → Node → Prop} {es es' : Entries}

theorem entryFound (entries : List.Forall₂ (AlikeEntry parts parts' R) es es') (key : String) :
    (Entries.at? key es = none ∧ Entries.at? key es' = none) ∨
      ∃ v w, Entries.at? key es = some v ∧ Entries.at? key es' = some w ∧
        AlikeEntry parts parts' R (.str key, v) (.str key, w) := by
  induction entries with
  | nil => exact .inl ⟨rfl, rfl⟩
  | @cons e e' rest rest' here _ ih =>
    obtain ⟨k, v⟩ := e
    obtain ⟨k', w⟩ := e'
    have keys : k = k' := by cases here <;> rfl
    subst keys
    cases k with
    | str s =>
      by_cases met : s = key
      · subst met
        exact .inr ⟨v, w, by simp [Entries.at?], by simp [Entries.at?], here⟩
      · simpa [Entries.at?, met] using ih
    | _ => simpa [Entries.at?] using ih

theorem entryRead {key : String} {v w : Node}
    (alike : AlikeEntry parts parts' R (.str key, v) (.str key, w)) :
    (key = "items" → R v w) ∧ (key = "properties" → AlikeProperties parts parts' R v w) ∧
      (key = "required" → SameRequired parts parts' v w) ∧
      (key ∈ plainKeys → Equal parts parts' v w) := by
  cases alike with
  | items inner => simp [inner, plainKeys, originKey]
  | properties inner => simp [inner, plainKeys, originKey]
  | required same => simp [same, plainKeys, originKey]
  | plain read equal =>
    refine ⟨?_, ?_, ?_, fun _ => equal⟩ <;> rintro rfl <;> simp [plainKeys, originKey] at read
  | unread other =>
    have never {k : String} (read : k ∈ readKeys) : key ≠ k := fun same =>
      other k read (congrArg Node.str same)
    refine ⟨fun same => absurd same (never (by simp [readKeys])),
      fun same => absurd same (never (by simp [readKeys])),
      fun same => absurd same (never (by simp [readKeys])), fun read => ?_⟩
    exact absurd rfl (never (List.mem_append_right _ read))

theorem plainFound (entries : List.Forall₂ (AlikeEntry parts parts' R) es es') {key : String}
    (read : key ∈ plainKeys) : Equal parts parts' ((Entries.at? key es).getD .null)
      ((Entries.at? key es').getD .null) := by
  rcases entryFound entries key with ⟨left, right⟩ | ⟨v, w, left, right, alike⟩
  · rw [left, right]
    exact (closeUsable parts rfl).trans (closeUsable parts' rfl).symm
  · rw [left, right]
    exact (entryRead alike).2.2.2 read

theorem sameKeys (entries : List.Forall₂ (AlikeEntry parts parts' R) es es') (key : String) :
    Entries.has key es = Entries.has key es' := by
  unfold Entries.has
  rcases entryFound entries key with ⟨left, right⟩ | ⟨v, w, left, right, _⟩
  · rw [left, right]
  · rw [left, right]
    rfl

theorem keysAlike {xs ys : List Node} (keys : List.Forall₂ (SameKey parts parts') xs ys) :
    (xs.map parts.view).all Node.hashable = (ys.map parts'.view).all Node.hashable ∧
      ((xs.map parts.view).all Node.hashable = true → xs.map parts.view = ys.map parts'.view) := by
  induction keys with
  | nil => exact ⟨rfl, fun _ => rfl⟩
  | cons same _ ih =>
    simp only [List.map_cons, List.all_cons, Bool.and_eq_true]
    refine ⟨by rw [same.usable, ih.1], fun all => ?_⟩
    rw [same.key all.1, ih.2 all.2]

theorem requiredAlike (entries : List.Forall₂ (AlikeEntry parts parts' R) es es') :
    requiredKeys parts es = requiredKeys parts' es' := by
  unfold requiredKeys
  rcases entryFound entries "required" with ⟨left, right⟩ | ⟨v, w, left, right, alike⟩
  · rw [left, right]
    rfl
  · rw [left, right]
    cases (entryRead alike).2.2.1 rfl with
    | nothing none none' => simp [none, none']
    | unlisted some some' refused refused' =>
      simp only [Option.getD_some, some, some', refused, refused']
      rfl
    | listed some some' listed listed' keys =>
      obtain ⟨usable, equal⟩ := keysAlike keys
      simp only [Option.getD_some, some, some', listed, listed', if_true, bind, Except.bind,
        ← usable]
      split
      · rename_i all
        rw [equal all]
      · rfl

structure ForeignEntries (parts : Parts) (owner schema : Node) (entries : Entries) : Prop where
  shown : parts.view schema = .map entries
  plain : Entries.at? "$ref" entries = none
  origin : isForeign parts owner entries = true

theorem foreignEntries {schema : Node} (foreign : Foreign parts owner schema) :
    ∃ entries, ForeignEntries parts owner schema entries := by
  obtain ⟨entries, held, origin⟩ := foreign.origin
  have shown : parts.view schema = .map entries := entriesView held
  refine ⟨entries, shown, ?_, origin⟩
  have shape := foreign.shape
  rw [shapeShown shown] at shape
  split at shape
  · contradiction
  · assumption

theorem ForeignEntries.holds {schema : Node} {entries : Entries}
    (foreign : ForeignEntries parts owner schema entries) : parts.holds schema = true := by
  have origin := foreign.origin
  rw [Parts.holds, foreign.shown]
  cases entries with
  | nil => simp [isForeign, Entries.at?, Parts.holds, Parts.view, Node.holds] at origin
  | cons => rfl

theorem ForeignEntries.accepted {schema : Node} {entries : Entries}
    (foreign : ForeignEntries parts owner schema entries) :
    parts.refuseReference schema = .ok schema := by
  simp only [refuseReference, foreign.shown, foreign.plain]

theorem ForeignEntries.imported {schema : Node} {entries : Entries}
    (foreign : ForeignEntries parts owner schema entries) (shape : parts.shape schema = .ok .object)
    (fuel : Nat) (chain : List Node) :
    compileAt parts owner (fuel + 1) chain schema = pure .imported := by
  rw [compileAt, shape, entriesShown foreign.shown]
  exact recordForeign foreign.origin

section Inside

variable {a b : Node} (layer : AlikeLayer parts parts' owner R a b)
include layer

theorem layerHolds : parts.holds a = parts'.holds b := by
  cases layer with
  | foreign left right =>
    obtain ⟨_, left⟩ := foreignEntries left
    obtain ⟨_, right⟩ := foreignEntries right
    rw [left.holds, right.holds]
  | object left right entries =>
    have size := entries.length_eq
    rw [Parts.holds, Parts.holds, left, right, Node.holds, Node.holds, Bool.eq_iff_iff]
    simp [← List.length_eq_zero_iff, size]
  | plain _ equal => exact equalHolds equal

theorem layerAccepted :
    Agree (fun x y => x = a ∧ y = b) (parts.refuseReference a) (parts'.refuseReference b) := by
  cases layer with
  | foreign left right =>
    obtain ⟨_, left⟩ := foreignEntries left
    obtain ⟨_, right⟩ := foreignEntries right
    rw [left.accepted, right.accepted]
    exact .read ⟨rfl, rfl⟩
  | object left right entries =>
    have equal := plainFound entries (show "$ref" ∈ plainKeys by simp [plainKeys])
    simp only [refuseReference, left, right]
    rcases entryFound entries "$ref" with ⟨none, none'⟩ | ⟨v, w, found, found', _⟩
    · rw [none, none']
      exact .read ⟨rfl, rfl⟩
    · simp only [found, found', Option.getD_some] at equal ⊢
      rw [unexpectedAlike equal]
      exact .refused _
  | plain other equal =>
    rw [(entriesOther other).2.2.1, (entriesOther (equalMap equal ▸ other)).2.2.1]
    exact .read ⟨rfl, rfl⟩

theorem layerDescribed : Agree (Equal parts parts') (parts.field a "description")
    (parts'.field b "description") := by
  cases layer with
  | foreign _ _ described described' equal =>
    rw [described, described']
    exact .read equal
  | object left right entries =>
    simp only [Parts.field, left, right]
    exact .read (plainFound entries (by simp [plainKeys]))
  | plain other equal =>
    rw [(entriesOther other).2.2.2, (entriesOther (equalMap equal ▸ other)).2.2.2]
    exact .refused _

end Inside

section Calls

variable (closed : ∀ a b, R a b → AlikeLayer parts parts' owner R a b)
include closed

theorem itemsAlike (entries : List.Forall₂ (AlikeEntry parts parts' R) es es') :
    Agree (fun x y => R x y ∨ x = .map [] ∧ y = .map [])
      (parts.refuseReference (itemSchema parts es))
      (parts'.refuseReference (itemSchema parts' es')) := by
  unfold itemSchema orElse
  rcases entryFound entries "items" with ⟨left, right⟩ | ⟨v, w, left, right, alike⟩
  · rw [left, right]
    exact .read (.inr ⟨rfl, rfl⟩)
  · have inner := (entryRead alike).1 rfl
    rw [left, right, Option.getD_some, Option.getD_some, layerHolds (closed _ _ inner)]
    split
    · have accepted := layerAccepted (closed _ _ inner)
      generalize parts.refuseReference v = first at accepted
      generalize parts'.refuseReference w = second at accepted
      cases accepted with
      | refused fault => exact .refused fault
      | read same => exact .read (.inl (by rwa [same.1, same.2]))
    · exact .read (.inr ⟨rfl, rfl⟩)

omit closed in
theorem propertiesAlike (entries : List.Forall₂ (AlikeEntry parts parts' R) es es') :
    Agree (AlikeTables R) (Compile.properties parts es) (Compile.properties parts' es') := by
  unfold Compile.properties orElse
  rcases entryFound entries "properties" with ⟨left, right⟩ | ⟨v, w, left, right, alike⟩
  · rw [left, right]
    exact .read .nil
  · rw [left, right, Option.getD_some, Option.getD_some]
    cases (entryRead alike).2.1 rfl with
    | object shown shown' each =>
      have size := each.length_eq
      have holds : parts.holds v = parts'.holds w := by
        rw [Parts.holds, Parts.holds, shown, shown', Node.holds, Node.holds, Bool.eq_iff_iff]
        simp [← List.length_eq_zero_iff, size]
      rw [holds]
      split
      · rw [entriesShown shown, entriesShown shown']
        exact .read each
      · exact .read .nil
    | plain other equal =>
      rw [equalHolds equal]
      split
      · rw [(entriesOther other).1, (entriesOther (equalMap equal ▸ other)).1]
        exact .refused _
      · exact .read .nil

theorem entriesAlike (entries : List.Forall₂ (AlikeEntry parts parts' R) es es') :
    AlikeEntries parts parts' R es es' where
  plain _ read := plainFound entries read
  keys := sameKeys entries
  required := .ofSame (fun _ _ _ => rfl) (requiredAlike entries)
  items := itemsAlike closed entries
  properties := propertiesAlike entries

theorem likeness : Likeness parts parts' owner R where
  accepted alike := layerAccepted (closed _ _ alike)
  described alike := layerDescribed (closed _ _ alike)
  body alike := by
    cases closed _ _ alike with
    | foreign left right =>
      obtain ⟨_, shown⟩ := foreignEntries left
      obtain ⟨_, shown'⟩ := foreignEntries right
      exact .imported (shown.imported left.shape) (shown'.imported right.shape)
    | object left right entries => exact .object left right (entriesAlike closed entries)
    | plain other equal => exact .other other (equalMap equal ▸ other)

theorem compileAlike (owned : owner.hashable = true) (fuel : Nat) {chain : List Node}
    (usable : ∀ n ∈ chain, n.hashable = true) {a b : Node} (alike : R a b) :
    compileAt parts owner fuel chain a = compileAt parts' owner fuel chain b :=
  compileLike (likeness closed) owned fuel (chainUsable usable) alike

end Calls

-- A compilation without end stops at some depth; stopped at the same one, both have done the same.
theorem foreignHidden {a b : Node} (alike : Alike parts parts' owner a b)
    (owned : owner.hashable = true) {chain : List Node} (usable : ∀ n ∈ chain, n.hashable = true) :
    (parts.compile owner chain a).result = (parts'.compile owner chain b).result ∧
    ((parts.compile owner chain a).result ≠ .error .endless → ∀ (r : Registry) (d : Dialect),
      r.take d (parts.compile owner chain a) = r.take d (parts'.compile owner chain b)) ∧
    ∀ fuel (r : Registry) (d : Dialect),
      r.take d (compileAt parts owner fuel chain a) =
        r.take d (compileAt parts' owner fuel chain b) := by
  obtain ⟨R, closed, alike⟩ := alike
  have same fuel := compileAlike closed owned fuel usable alike
  obtain ⟨result, settled⟩ := resultsAlike same
  exact ⟨result, fun ends r d => by rw [settled ends], fun fuel r d => by rw [same fuel]⟩

def device (member : Node) : Node :=
  Node.object [("type", .str "object"), ("x-openapi-name", .str "Device"), ("properties",
    Node.object [("id", Node.object [("type", .str "string")]), ("member", member)])]

def oddMember : Node :=
  Node.object [("type", .str "object"), ("x-openapi-name", .str "Member"), ("title", .int 7),
    ("properties", Node.object [("born", Node.object [("type", .str "calendar")])])]

def endlessMember : Node :=
  Node.object [("x-openapi-name", .str "Member"), ("required", .list [.str "boss"]),
    ("properties", Node.object [("boss", .link 0)])]

inductive SameDevice : Node → Node → Prop
  | device : SameDevice (device oddMember) (device (.link 0))
  | member : SameDevice oddMember (.link 0)
  | id : SameDevice (Node.object [("type", .str "string")]) (Node.object [("type", .str "string")])

theorem sameDevice :
    Alike [] [endlessMember] (.str "Device") (device oddMember) (device (.link 0)) := by
  have text (s : String) : Equal [] [endlessMember] (.str s) (.str s) :=
    (closeUsable _ rfl).trans (closeUsable _ rfl).symm
  refine ⟨SameDevice, fun a b same => ?_, .device⟩
  cases same with
  | device =>
    have properties : AlikeTables SameDevice
        [(.str "id", Node.object [("type", .str "string")]), (.str "member", oddMember)]
        [(.str "id", Node.object [("type", .str "string")]), (.str "member", .link 0)] :=
      .cons ⟨rfl, rfl, .id⟩ (.cons ⟨rfl, rfl, .member⟩ .nil)
    exact .object rfl rfl (.cons (.plain (by simp [plainKeys]) (text _))
      (.cons (.plain (by simp [plainKeys, originKey]) (text _))
        (.cons (.properties (.object rfl rfl properties)) .nil)))
  | member =>
    exact .foreign ⟨rfl, _, rfl, by decide +kernel⟩ ⟨rfl, _, rfl, by decide +kernel⟩ rfl rfl
      ((closeUsable _ rfl).trans (closeUsable _ rfl).symm)
  | id => exact .object rfl rfl (.cons (.plain (by simp [plainKeys]) (text _)) .nil)

theorem deviceHidesMember :
    Alike [] [endlessMember] (.str "Device") (device oddMember) (device (.link 0)) ∧
    (Parts.compile [] (.str "Device") [.str "Device"] (device oddMember)).result =
      .ok (.named "Device") ∧
    ∀ (r : Registry) (d : Dialect),
      r.take d (Parts.compile [] (.str "Device") [.str "Device"] (device oddMember)) =
        r.take d (Parts.compile [endlessMember] (.str "Device") [.str "Device"]
          (device (.link 0))) := by
  have usable : ∀ n ∈ [Node.str "Device"], n.hashable = true := by simp [Node.hashable]
  have ends : (Parts.compile [] (.str "Device") [.str "Device"] (device oddMember)).result =
      .ok (.named "Device") := by decide +kernel
  refine ⟨sameDevice, ends, fun r d => (foreignHidden sameDevice rfl usable).2.1 ?_ r d⟩
  rw [ends]
  rintro ⟨⟩

end Compile
end ClientGen
