import ClientGen.Proofs.Compile.Calls
import ClientGen.Proofs.Node.Weight
import Mathlib.Data.List.Forall2
import Mathlib.Data.Nat.Find

/-! The fuel of a compilation is enough. A call settles when it ends in any way but by running out of
fuel; then more fuel changes nothing. Whether it settles depends on the schema, and on its chain only
so far as all of it are texts. Fewer than as many calls lie inside one another as the document has
containers, each counted for both kinds of chain, so that a schema settles with the fuel it is given
if it settles with any. -/
namespace ClientGen

namespace Trail

variable {ω α β : Type}

theorem bindCongr {t : Trail ω α} {f g : α → Trail ω β}
    (same : ∀ a, t.result = .ok a → f a = g a) : t >>= f = t >>= g := by
  cases ended : t.result with
  | error fault => rw [bindFails f ended, bindFails g ended]
  | ok a => simp only [bind, andThen, ended, same a ended]

def Settles (t : Trail ω α) : Prop := t.result ≠ .error .endless

theorem bindSettles {t : Trail ω α} {f : α → Trail ω β} :
    (t >>= f).Settles ↔ t.Settles ∧ ∀ a, t.result = .ok a → (f a).Settles := by
  unfold Settles
  cases ended : t.result with
  | error fault => simp [bindFails f ended]
  | ok a => simp [bindResult f ended]

def ending (t : Trail ω α) : Except Fault Unit := t.result.map fun _ => ()

theorem endingFails {t : Trail ω α} {fault : Fault} :
    t.ending = .error fault ↔ t.result = .error fault := by
  cases ended : t.result <;> simp [ending, ended, Except.map]

theorem settlesEnding {t : Trail ω α} {u : Trail ω β} (same : t.ending = u.ending) :
    t.Settles ↔ u.Settles := by
  unfold Settles
  rw [ne_eq, ne_eq, ← endingFails, ← endingFails, same]

theorem endingBind {γ δ : Type} {t : Trail ω α} {u : Trail ω β} {f : α → Trail ω γ}
    {g : β → Trail ω δ} (first : t.ending = u.ending)
    (next : ∀ a b, t.result = .ok a → u.result = .ok b → (f a).ending = (g b).ending) :
    (t >>= f).ending = (u >>= g).ending := by
  cases left : t.result with
  | error fault =>
    have right : u.result = .error fault := endingFails.mp (first ▸ endingFails.mpr left)
    rw [bindFails f left, bindFails g right]
    rfl
  | ok a =>
    cases right : u.result with
    | error fault => simp [ending, left, right, Except.map] at first
    | ok b => simpa only [ending, bindResult f left, bindResult g right] using next a b left right

end Trail

namespace Parts

variable {parts : Parts} {n : Node}

theorem entriesShown {es : Entries} (shown : parts.view n = .map es) :
    parts.entries n = .ok es := by
  simp only [entries, shown]

theorem shapeShown {es : Entries} (shown : parts.view n = .map es) : parts.shape n =
    match Entries.at? "$ref" es with
    | some target => .error (parts.unexpected target)
    | none => .ok (Shape.ofEntries parts es) := by
  cases found : Entries.at? "$ref" es with
  | some target => simp only [shape, refuseReference, shown, found, bind, Except.bind]
  | none =>
    simp only [shape, refuseReference, shown, found, entriesShown shown, bind, Except.bind, pure,
      Except.pure]

theorem shapeOther (other : ∀ es, parts.view n ≠ .map es) : parts.shape n = .error .notAnObject := by
  have refused : parts.refuseReference n = .ok n := by
    unfold refuseReference
    split
    · rename_i shown
      exact absurd shown (other _)
    · rfl
  have none : parts.entries n = .error .notAnObject := by
    unfold entries
    split
    · rename_i shown
      exact absurd shown (other _)
    · rfl
  simp only [shape, refused, none, bind, Except.bind]

end Parts

namespace Compile
open Trail

variable {parts : Parts} {owner : Node}

theorem fieldsAgree {compile compile' : List Node → Node → Compiled TypeRef}
    {chain required : List Node} {properties : List (Node × Node)}
    (agree : ∀ p ∈ properties, (compile (chain ++ [p.1]) p.2).Settles →
      compile' (chain ++ [p.1]) p.2 = compile (chain ++ [p.1]) p.2)
    (settles : (fields parts compile chain required properties).Settles) :
    fields parts compile' chain required properties =
      fields parts compile chain required properties := by
  induction properties with
  | nil => rfl
  | cons property rest ih =>
    obtain ⟨name, schema⟩ := property
    rw [fields] at settles ⊢
    rw [fields]
    refine bindCongr fun schema' refused => ?_
    have settles := (bindSettles.mp settles).2 schema' refused
    cases Parts.refuseReferenceSame refused
    obtain ⟨here, settles⟩ := bindSettles.mp settles
    rw [agree (name, schema) List.mem_cons_self here]
    refine bindCongr fun type compiled => ?_
    have settles := settles type compiled
    refine bindCongr fun comment described => ?_
    have settles := (bindSettles.mp settles).2 comment described
    rw [ih (fun p member => agree p (List.mem_cons_of_mem _ member)) (bindSettles.mp settles).1]

theorem compileAtAgree {m n : Nat} {chain : List Node} {schema : Node}
    (agree : ∀ c s, Calls parts owner chain schema c s → (compileAt parts owner m c s).Settles →
      compileAt parts owner n c s = compileAt parts owner m c s)
    (settles : (compileAt parts owner (m + 1) chain schema).Settles) :
    compileAt parts owner (n + 1) chain schema = compileAt parts owner (m + 1) chain schema := by
  rw [compileAt] at settles ⊢
  rw [compileAt]
  refine bindCongr fun shape shaped => ?_
  have settles := (bindSettles.mp settles).2 shape shaped
  refine bindCongr fun entries held => ?_
  have settles := (bindSettles.mp settles).2 entries held
  cases shape with
  | array =>
    refine bindCongr fun items refused => ?_
    have settles := (bindSettles.mp settles).2 items refused
    cases Parts.refuseReferenceSame refused
    rw [agree _ _ (.item shaped held) (bindSettles.mp settles).1]
  | object =>
    cases own : isForeign parts owner entries with
    | true => rw [recordForeign own, recordForeign own]
    | false =>
      simp only [record, own, Bool.false_eq_true, ↓reduceIte] at settles ⊢
      refine bindCongr fun title titled => ?_
      have settles := (bindSettles.mp settles).2 title titled
      refine bindCongr fun letters named => ?_
      have settles := (bindSettles.mp settles).2 letters named
      refine bindCongr fun required requires => ?_
      have settles := (bindSettles.mp settles).2 required requires
      refine bindCongr fun properties holds => ?_
      have settles := (bindSettles.mp settles).2 properties holds
      rw [fieldsAgree (fun p member => agree _ _ (.property shaped held own titled holds member))
        (bindSettles.mp settles).1]
  | union | any | primitive => rfl

theorem zeroUnsettled (chain : List Node) (schema : Node) :
    ¬ (compileAt parts owner 0 chain schema).Settles := by
  simp [Settles, compileAt]

theorem settledMore {m n : Nat} {chain : List Node} {schema : Node}
    (settles : (compileAt parts owner m chain schema).Settles) (more : m ≤ n) :
    compileAt parts owner n chain schema = compileAt parts owner m chain schema := by
  induction m generalizing n chain schema with
  | zero => exact absurd settles (zeroUnsettled chain schema)
  | succ m ih =>
    obtain ⟨n, rfl⟩ : ∃ k, n = k + 1 := ⟨n - 1, by omega⟩
    exact compileAtAgree (fun c s _ inner => ih inner (by omega)) settles

theorem callUnsettled {m : Nat} {chain : List Node} {schema : Node}
    (now : (compileAt parts owner (m + 2) chain schema).Settles)
    (before : ¬ (compileAt parts owner (m + 1) chain schema).Settles) :
    ∃ c s, Calls parts owner chain schema c s ∧ (compileAt parts owner (m + 1) c s).Settles ∧
      ¬ (compileAt parts owner m c s).Settles := by
  by_contra none
  push Not at none
  refine before ?_
  have same : compileAt parts owner (m + 1) chain schema =
      compileAt parts owner (m + 2) chain schema :=
    compileAtAgree (fun c s call settles =>
      (settledMore (none c s call settles) (Nat.le_succ m)).symm) now
  rw [same]
  exact now

def spelled (parts : Parts) (chain : List Node) : Bool :=
  chain.all fun n => (parts.view n).text?.isSome

theorem spelledText {chain : List Node} (texts : spelled parts chain = true) :
    ∃ letters, chainText parts chain = .ok letters := by
  induction chain with
  | nil => exact ⟨[], rfl⟩
  | cons n rest ih =>
    simp only [spelled, List.all_cons, Bool.and_eq_true] at texts
    obtain ⟨letters, later⟩ := ih texts.2
    cases shown : parts.view n with
    | str s => exact ⟨s.toList ++ letters, by simp [chainText, nameText, shown, later, bind,
        Except.bind, pure, Except.pure]⟩
    | _ => simp [shown, Node.text?] at texts

theorem unspelledText {chain : List Node} (other : spelled parts chain = false) :
    chainText parts chain = .error .wrongKind := by
  induction chain with
  | nil => simp [spelled] at other
  | cons n rest ih =>
    simp only [spelled, List.all_cons, Bool.and_eq_false_iff] at other
    cases shown : parts.view n with
    | str s =>
      have later := ih (other.resolve_left (by simp [shown, Node.text?]))
      simp [chainText, nameText, shown, later, bind, Except.bind]
    | _ => simp [chainText, nameText, shown, bind, Except.bind]

theorem fieldsEnding {compile compile' : List Node → Node → Compiled TypeRef}
    {chain chain' required : List Node} (alike : spelled parts chain = spelled parts chain')
    (inner : ∀ c c' s, spelled parts c = spelled parts c' →
      (compile c s).ending = (compile' c' s).ending) (properties : List (Node × Node)) :
    (fields parts compile chain required properties).ending =
      (fields parts compile' chain' required properties).ending := by
  induction properties with
  | nil => rfl
  | cons property rest ih =>
    obtain ⟨name, schema⟩ := property
    rw [fields, fields]
    refine endingBind rfl fun schema' schema'' refused refused' => ?_
    cases refused.symm.trans refused'
    refine endingBind (inner _ _ _ ?_) fun _ _ _ _ => endingBind rfl fun _ _ _ _ =>
      endingBind ih fun _ _ _ _ => rfl
    simp only [spelled, List.all_append] at alike ⊢
    rw [alike]

theorem ownNameEnding {chain chain' : List Node}
    (alike : spelled parts chain = spelled parts chain') (title : Option (List Char)) :
    (liftM (ownName parts title chain) : Compiled _).ending =
      (liftM (ownName parts title chain') : Compiled _).ending := by
  cases title with
  | some letters => rfl
  | none =>
    cases texts : spelled parts chain with
    | true =>
      obtain ⟨_, left⟩ := spelledText texts
      obtain ⟨_, right⟩ := spelledText (alike ▸ texts)
      simp [ending, ownName, left, right, Except.map]
    | false => simp only [ownName, unspelledText texts, unspelledText (alike ▸ texts)]

theorem innerSpelled {chain chain' : List Node}
    (alike : spelled parts chain = spelled parts chain') (title : Option (List Char)) :
    spelled parts (innerChain title chain) = spelled parts (innerChain title chain') := by
  cases title with
  | some letters => rfl
  | none => exact alike

theorem compileAtEnding {fuel : Nat} {chain chain' : List Node}
    (alike : spelled parts chain = spelled parts chain') (schema : Node) :
    (compileAt parts owner fuel chain schema).ending =
      (compileAt parts owner fuel chain' schema).ending := by
  induction fuel generalizing chain chain' schema with
  | zero => rfl
  | succ fuel ih =>
    rw [compileAt, compileAt]
    refine endingBind rfl fun shape shape' shaped shaped' => ?_
    cases shaped.symm.trans shaped'
    refine endingBind rfl fun entries entries' held held' => ?_
    cases held.symm.trans held'
    cases shape with
    | array =>
      refine endingBind rfl fun items items' refused refused' => ?_
      cases refused.symm.trans refused'
      exact endingBind (ih alike items) fun _ _ _ _ => rfl
    | object =>
      cases own : isForeign parts owner entries with
      | true => rw [recordForeign own, recordForeign own]
      | false =>
        simp only [record, own, Bool.false_eq_true, ↓reduceIte]
        refine endingBind rfl fun title title' titled titled' => ?_
        cases titled.symm.trans titled'
        refine endingBind (ownNameEnding alike title) fun _ _ _ _ =>
          endingBind rfl fun required required' asked asked' => ?_
        cases asked.symm.trans asked'
        refine endingBind rfl fun properties properties' holds holds' => ?_
        cases holds.symm.trans holds'
        have inside := innerSpelled alike title
        exact endingBind (fieldsEnding inside (fun c c' s same => ih same s) properties)
          fun _ _ _ _ => rfl
    | union | any | primitive => rfl

mutual
def containers : Node → List Entries
  | .map es => if es.isEmpty then [] else es :: containersIn es
  | _ => []
termination_by structural n => n
def containersIn : List (Node × Node) → List Entries
  | [] => []
  | (_, v) :: rest => containers v ++ containersIn rest
termination_by structural es => es
end

mutual
theorem containersFew (n : Node) : 2 * (containers n).length ≤ n.weight := by
  match n with
  | .map [] => simp [containers]
  | .map (e :: rest) =>
    have inner := containersInFew (e :: rest)
    simp only [containers, List.isEmpty_cons, Bool.false_eq_true, ↓reduceIte, List.length_cons,
      Node.weight] at inner ⊢
    omega
  | .null | .bool _ | .int _ | .float _ | .str _ | .date _ | .datetime _ | .bytes _ | .set _ |
    .pair _ _ | .list _ | .link _ | .enclosing _ => simp [containers]
termination_by structural n
theorem containersInFew (es : List (Node × Node)) :
    2 * (containersIn es).length + es.length ≤ Node.weightEntries es := by
  match es with
  | [] => simp [containersIn]
  | (k, v) :: rest =>
    have here := containersFew v
    have later := containersInFew rest
    have key := Node.weightPositive k
    simp only [containersIn, Node.weightEntries, List.length_append, List.length_cons]
    omega
termination_by structural es
end

theorem containersOfValue {es : List (Node × Node)} {k v : Node} (inside : (k, v) ∈ es) :
    containers v ⊆ containersIn es := by
  induction es with
  | nil => cases inside
  | cons e rest ih =>
    obtain ⟨k', v'⟩ := e
    rw [containersIn]
    rcases List.mem_cons.mp inside with same | later
    · cases same
      exact List.subset_append_left _ _
    · exact List.Subset.trans (ih later) (List.subset_append_right _ _)

mutual
theorem containersClosed {n : Node} {es : Entries} (member : es ∈ containers n) {k v : Node}
    (inside : (k, v) ∈ es) : containers v ⊆ containers n := by
  match n with
  | .map [] => simp [containers] at member
  | .map (e :: rest) =>
    simp only [containers, List.isEmpty_cons, Bool.false_eq_true, ↓reduceIte] at member ⊢
    refine List.subset_cons_of_subset _ ?_
    rcases List.mem_cons.mp member with rfl | deeper
    · exact containersOfValue inside
    · exact containersInClosed deeper inside
  | .null | .bool _ | .int _ | .float _ | .str _ | .date _ | .datetime _ | .bytes _ | .set _ |
    .pair _ _ | .list _ | .link _ | .enclosing _ => simp [containers] at member
termination_by structural n
theorem containersInClosed {outer : List (Node × Node)} {es : Entries}
    (member : es ∈ containersIn outer) {k v : Node} (inside : (k, v) ∈ es) :
    containers v ⊆ containersIn outer := by
  match outer with
  | [] => simp [containersIn] at member
  | (k', v') :: rest =>
    simp only [containersIn] at member ⊢
    rcases List.mem_append.mp member with here | later
    · exact List.Subset.trans (containersClosed here inside) (List.subset_append_left _ _)
    · exact List.Subset.trans (containersInClosed later inside) (List.subset_append_right _ _)
termination_by structural outer
end

-- All containers that a schema and the rows of the table hold.
def within (parts : Parts) (schema : Node) : List Entries := (schema :: parts).flatMap containers

theorem withinFew (parts : Parts) (schema : Node) :
    2 * (within parts schema).length < parts.depth schema := by
  have rows (ns : List Node) : 2 * (ns.flatMap containers).length ≤ Node.weightList ns := by
    induction ns with
    | nil => simp
    | cons n rest ih =>
      have here := containersFew n
      simp only [List.flatMap_cons, List.length_append, Node.weightList]
      omega
  have all := rows (schema :: parts)
  simp only [Node.weightList] at all
  unfold within Parts.depth
  omega

theorem withinViewed {schema n : Node} (known : containers n ⊆ within parts schema)
    {es : Entries} (shown : parts.view n = .map es) (full : es ≠ []) : es ∈ within parts schema := by
  obtain ⟨e, rest, rfl⟩ := List.exists_cons_of_ne_nil full
  have there {row : Node} (same : row = .map (e :: rest)) : e :: rest ∈ containers row := by
    simp [same, containers]
  cases n with
  | link i =>
    simp only [Parts.view] at shown
    cases row : parts[i]? with
    | none => simp [row] at shown
    | some r =>
      rw [row] at shown
      exact List.mem_flatMap.mpr ⟨r, List.mem_cons_of_mem _ (List.mem_of_getElem? row), there shown⟩
  | _ => exact known (there shown)

theorem withinClosed {schema : Node} {es : Entries} (member : es ∈ within parts schema)
    {k v : Node} (inside : (k, v) ∈ es) : containers v ⊆ within parts schema := by
  obtain ⟨n, row, held⟩ := List.mem_flatMap.mp member
  refine fun es' deeper => List.mem_flatMap.mpr ⟨n, row, containersClosed held inside deeper⟩

theorem valueMember {key : String} {es : Entries} {v : Node} (found : Entries.at? key es = some v) :
    ∃ k, (k, v) ∈ es := by
  induction es with
  | nil => cases found
  | cons e rest ih =>
    obtain ⟨k, w⟩ := e
    have later (found : Entries.at? key rest = some v) : ∃ k', (k', v) ∈ (k, w) :: rest := by
      obtain ⟨k', inside⟩ := ih found
      exact ⟨k', List.mem_cons_of_mem _ inside⟩
    cases k with
    | str s =>
      simp only [Entries.at?] at found
      split at found
      · cases found
        exact ⟨_, List.mem_cons_self⟩
      · exact later found
    | _ => exact later found

theorem propertiesShown {es properties : Entries} (holds : Compile.properties parts es = .ok properties)
    (full : properties ≠ []) : ∃ v, Entries.at? "properties" es = some v ∧
      parts.view v = .map properties := by
  have shown : parts.view (parts.orElse ((Entries.at? "properties" es).getD .null) (.map [])) =
      .map properties := by
    unfold Compile.properties Parts.entries at holds
    split at holds
    · rename_i here
      cases holds
      exact here
    · contradiction
  unfold Parts.orElse at shown
  split at shown
  · cases found : Entries.at? "properties" es with
    | none => simp [found, Parts.view] at shown
    | some v => exact ⟨v, rfl, by simpa [found] using shown⟩
  · exact absurd (Node.map.inj shown).symm full

theorem callWithin {schema start : Node} {es es' : Entries} {c c' : List Node} {s : Node}
    (member : es ∈ within parts start) (shown : parts.view schema = .map es)
    (call : Calls parts owner c schema c' s) (shown' : parts.view s = .map es') (full : es' ≠ []) :
    es' ∈ within parts start := by
  have own {entries : Entries} (held : parts.entries schema = .ok entries) : entries = es := by
    simpa [Parts.entries, shown] using held.symm
  have value {key : String} {v : Node} (found : Entries.at? key es = some v) :
      containers v ⊆ within parts start := by
    obtain ⟨k, inside⟩ := valueMember found
    exact withinClosed member inside
  cases call with
  | item shape held =>
    cases own held
    unfold itemSchema Parts.orElse at shown'
    split at shown'
    · cases found : Entries.at? "items" es with
      | none => simp [found, Parts.view] at shown'
      | some v =>
        rw [found] at shown'
        exact withinViewed (value found) shown' full
    · exact absurd (Node.map.inj shown').symm full
  | property shape held own' titled holds inside =>
    cases own held
    have some := List.ne_nil_of_mem inside
    obtain ⟨v, found, table⟩ := propertiesShown holds some
    have properties := withinViewed (value found) table some
    exact withinViewed (withinClosed properties inside) shown' full

theorem compileAtViewed {fuel : Nat} {chain : List Node} {schema : Node} {es : Entries}
    (shown : parts.view schema = .map es) :
    compileAt parts owner fuel chain schema = compileAt parts owner fuel chain (.map es) := by
  cases fuel with
  | zero => rfl
  | succ fuel =>
    have same : parts.view (.map es) = .map es := rfl
    rw [compileAt, compileAt, Parts.shapeShown shown, Parts.shapeShown same,
      Parts.entriesShown shown, Parts.entriesShown same]

theorem settlesAtOnce (fuel : Nat) (chain : List Node) {schema : Node}
    (empty : ∀ es, parts.view schema = .map es → es = []) :
    (compileAt parts owner (fuel + 1) chain schema).Settles := by
  rw [compileAt]
  by_cases object : ∃ es, parts.view schema = .map es
  · obtain ⟨es, shown⟩ := object
    rw [Parts.shapeShown shown, Parts.entriesShown shown, empty es shown]
    simp [Entries.at?, Shape.ofEntries, Parts.view, Entries.has, unionKeys, Settles]
  · rw [Parts.shapeOther fun es shown => object ⟨es, shown⟩]
    simp [Settles]

abbrev State := Entries × Bool

def State.SettlesAt (parts : Parts) (owner : Node) (fuel : Nat) (x : State) : Prop :=
  (compileAt parts owner fuel (if x.2 then [] else [.null]) (.map x.1)).Settles

theorem stateOfCall {fuel : Nat} {chain : List Node} {schema : Node} {es : Entries}
    (shown : parts.view schema = .map es) : (compileAt parts owner fuel chain schema).Settles ↔
      State.SettlesAt parts owner fuel (es, spelled parts chain) := by
  rw [compileAtViewed shown]
  refine settlesEnding (compileAtEnding ?_ (.map es))
  cases spelled parts chain <;> rfl

def states (parts : Parts) (schema : Node) : List State :=
  (within parts schema).flatMap fun es => [(es, true), (es, false)]

theorem statesFew (parts : Parts) (schema : Node) :
    (states parts schema).length < parts.depth schema := by
  have twice (ess : List Entries) :
      (ess.flatMap fun es => [(es, true), (es, false)]).length = 2 * ess.length := by
    induction ess with
    | nil => rfl
    | cons es rest ih =>
      simp only [List.flatMap_cons, List.length_append, List.length_cons, List.length_nil, ih]
      omega
  rw [states, twice]
  exact withinFew parts schema

theorem stateMember {schema : Node} {es : Entries} (member : es ∈ within parts schema) (b : Bool) :
    (es, b) ∈ states parts schema :=
  List.mem_flatMap.mpr ⟨es, member, by cases b <;> simp⟩

section Turning

variable (parts) (owner)

def State.TurnsAt (fuel : Nat) (x : State) : Prop :=
  x.SettlesAt parts owner (fuel + 1) ∧ ¬ x.SettlesAt parts owner fuel

end Turning

theorem turnsBefore {start : Node} {fuel : Nat} {x : State} (member : x ∈ states parts start)
    (turns : x.TurnsAt parts owner (fuel + 2)) :
    ∃ y ∈ states parts start, y.TurnsAt parts owner (fuel + 1) := by
  obtain ⟨es, inside, same⟩ := List.mem_flatMap.mp member
  have own : x.1 = es := by
    rcases List.mem_cons.mp same with rfl | same
    · rfl
    · rw [List.mem_singleton.mp same]
  obtain ⟨c, s, call, now, before⟩ := callUnsettled turns.1 turns.2
  by_cases full : ∃ es', parts.view s = .map es' ∧ es' ≠ []
  · obtain ⟨es', shown, full⟩ := full
    have there : parts.view (.map x.1) = .map es := congrArg Node.map own
    exact ⟨(es', spelled parts c), stateMember (callWithin inside there call shown full) _,
      (stateOfCall shown).mp now, mt (stateOfCall shown).mpr before⟩
  · push Not at full
    exact absurd (settlesAtOnce fuel c full) before

theorem countMore {α : Type} {p q : α → Bool} {xs : List α} (more : ∀ x ∈ xs, p x = true → q x = true)
    {y : α} (member : y ∈ xs) (now : q y = true) (before : p y = false) :
    xs.countP p < xs.countP q := by
  induction xs with
  | nil => cases member
  | cons x rest ih =>
    obtain ⟨here, later⟩ := List.forall_mem_cons.mp more
    rcases List.mem_cons.mp member with rfl | inside
    · have others := List.countP_mono_left later
      rw [List.countP_cons_of_neg (by simp [before]), List.countP_cons_of_pos now]
      omega
    · have others := ih later inside
      rw [List.countP_cons, List.countP_cons]
      cases first : p x with
      | true => simp [here first, others]
      | false =>
        simp only [Bool.false_eq_true, ↓reduceIte]
        omega

-- With every call inside another one state more has settled.
theorem turnsLate {start : Node} {fuel : Nat} {x : State} (member : x ∈ states parts start)
    (turns : x.TurnsAt parts owner (fuel + 1)) : fuel + 1 ≤ (states parts start).length := by
  classical
  let settled (n : Nat) (y : State) : Bool := decide (y.SettlesAt parts owner n)
  have more (n : Nat) (y : State) (settles : settled n y = true) : settled (n + 1) y = true := by
    have now := of_decide_eq_true settles
    refine decide_eq_true ?_
    unfold State.SettlesAt at now ⊢
    rw [settledMore now (Nat.le_succ n)]
    exact now
  have count : fuel + 1 ≤ (states parts start).countP (settled (fuel + 2)) := by
    induction fuel generalizing x with
    | zero =>
      exact List.countP_pos_iff.mpr ⟨x, member, decide_eq_true turns.1⟩
    | succ fuel ih =>
      obtain ⟨y, other, earlier⟩ := turnsBefore member turns
      have grown : (states parts start).countP (settled (fuel + 2)) <
          (states parts start).countP (settled (fuel + 3)) :=
        countMore (fun z _ => more (fuel + 2) z) member (decide_eq_true turns.1)
          (decide_eq_false turns.2)
      exact Nat.succ_le_of_lt (Nat.lt_of_le_of_lt (ih other earlier) grown)
  exact Nat.le_trans count List.countP_le_length

theorem depthEnough {fuel : Nat} {chain : List Node} {schema : Node}
    (settles : (compileAt parts owner fuel chain schema).Settles) :
    (compileAt parts owner (parts.depth schema) chain schema).Settles := by
  classical
  have ever : ∃ n, (compileAt parts owner n chain schema).Settles := ⟨fuel, settles⟩
  have least := Nat.find_spec ever
  have below := fun m => @Nat.find_min _ _ ever m
  generalize Nat.find ever = n at least below
  have enough : n ≤ parts.depth schema := by
    match n with
    | 0 => exact Nat.zero_le _
    | 1 => simp only [Parts.depth]; omega
    | n + 2 =>
      by_cases full : ∃ es, parts.view schema = .map es ∧ es ≠ []
      · obtain ⟨es, shown, full⟩ := full
        have own : containers schema ⊆ within parts schema :=
          fun es inside => List.mem_flatMap.mpr ⟨schema, List.mem_cons_self, inside⟩
        have turns : State.TurnsAt parts owner (n + 1) (es, spelled parts chain) :=
          ⟨(stateOfCall shown).mp least, mt (stateOfCall shown).mpr (below (n + 1) (by omega))⟩
        have late := turnsLate (stateMember (withinViewed own shown full) _) turns
        have few := statesFew parts schema
        omega
      · push Not at full
        exact absurd (settlesAtOnce 0 chain full) (below 1 (by omega))
  rw [settledMore least enough]
  exact least

theorem compileSettled {fuel : Nat} {chain : List Node} {schema : Node}
    (settles : (compileAt parts owner fuel chain schema).Settles) :
    parts.compile owner chain schema = compileAt parts owner fuel chain schema := by
  unfold Parts.compile
  have given := depthEnough settles
  rcases Nat.le_total fuel (parts.depth schema) with less | more
  · exact settledMore settles less
  · exact (settledMore given more).symm

end Compile
end ClientGen
