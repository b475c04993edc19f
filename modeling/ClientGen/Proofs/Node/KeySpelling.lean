import ClientGen.Node.KeySpelling
import ClientGen.Proofs.Node.Keys
import ClientGen.Proofs.Node.Pairs

/-! What the spelling of keys makes of a value. Maps and lists are entered, and every key that is met
there is a text afterwards. A pair is not entered: it stands in the result as it was, with all that is
inside. -/
namespace ClientGen.Node
open Relation

inductive Named : Node → String → Prop
  | text (name : String) : Named (.str name) name
  | other {k : Node} {name : String} (foreign : k.text? = none)
      (spelling : Json.write true k = .ok name.toList) : Named k name

def Bare : Node → Prop
  | .map _ | .list _ | .enclosing _ => False
  | _ => True

inductive Spelled : Node → Node → Prop
  | map {es fs : Entries} {named : List (String × Node)}
      (keys : List.Forall₂ (fun e p => Named e.1 p.1) es named)
      (values : List.Forall₂ (fun e p => Spelled e.2 p.2) es named)
      (once : List.Forall₂ (Holding (Last Prod.fst Prod.snd named))
        (named.map Prod.fst).eraseDups fs) : Spelled (.map es) (.map fs)
  | list {ns ms : List Node} (each : List.Forall₂ Spelled ns ms) : Spelled (.list ns) (.list ms)
  | bare {n : Node} (bare : n.Bare) : Spelled n n

theorem keyNamed {k k' : Node} (ok : spelledKey k = .ok k') :
    ∃ name, k' = .str name ∧ Named k name := by
  cases k with
  | str s =>
    cases ok
    exact ⟨s, rfl, .text s⟩
  | int n =>
    by_cases long : isLong n = true
    · simp [spelledKey, long] at ok
    · simp only [spelledKey, long, Bool.false_eq_true, ↓reduceIte, Except.ok.injEq] at ok
      exact ⟨_, ok.symm, .other rfl (by simp [Json.write, long])⟩
  | null =>
    cases ok
    exact ⟨_, rfl, .other rfl rfl⟩
  | bool b =>
    cases ok
    exact ⟨_, rfl, .other rfl (by simp [Json.write])⟩
  | float x =>
    cases ok
    exact ⟨_, rfl, .other rfl (by simp [Json.write])⟩
  | _ => simp [spelledKey, Json.scalarText?] at ok

mutual
theorem keysSpelled : (n : Node) → ∀ levels m, n.spellKeys levels = .ok m → Spelled n m
  | .map es => by
    intro levels m ok
    rw [spellKeys] at ok
    obtain ⟨inner, _, ok⟩ := Fault.bindOk ok
    obtain ⟨pairs, spelled, ok⟩ := Fault.bindOk ok
    obtain ⟨named, rfl, keys, values⟩ := entriesSpelled es inner pairs spelled
    cases ok
    exact .map keys values (pairsHold Prod.fst Prod.snd named).2
  | .list ns => by
    intro levels m ok
    rw [spellKeys] at ok
    obtain ⟨inner, _, ok⟩ := Fault.bindOk ok
    obtain ⟨ms, spelled, ok⟩ := Fault.bindOk ok
    cases ok
    exact .list (itemsSpelled ns inner ms spelled)
  | .enclosing _ => by
    intro levels m ok
    cases ok
  | .null | .bool _ | .int _ | .float _ | .str _ | .bytes _ | .date _ | .datetime _ | .set _
  | .pair _ _ | .link _ => by
    intro levels m ok
    cases ok
    exact .bare trivial
theorem itemsSpelled : (ns : List Node) → ∀ levels ms, spellKeysList ns levels = .ok ms →
    List.Forall₂ Spelled ns ms
  | [] => by
    intro levels ms ok
    cases ok
    exact .nil
  | n :: rest => by
    intro levels ms ok
    rw [spellKeysList] at ok
    obtain ⟨m, first, ok⟩ := Fault.bindOk ok
    obtain ⟨ms', later, ok⟩ := Fault.bindOk ok
    cases ok
    exact .cons (keysSpelled n levels m first) (itemsSpelled rest levels ms' later)
theorem entriesSpelled : (es : List (Node × Node)) → ∀ levels fs,
    spellKeysEntries es levels = .ok fs →
    ∃ named : List (String × Node), fs = named.map (fun p => (.str p.1, p.2)) ∧
      List.Forall₂ (fun e p => Named e.1 p.1) es named ∧
      List.Forall₂ (fun e p => Spelled e.2 p.2) es named
  | [] => by
    intro levels fs ok
    cases ok
    exact ⟨[], rfl, .nil, .nil⟩
  | (k, v) :: rest => by
    intro levels fs ok
    rw [spellKeysEntries] at ok
    obtain ⟨k', key, ok⟩ := Fault.bindOk ok
    obtain ⟨w, value, ok⟩ := Fault.bindOk ok
    obtain ⟨fs', later, ok⟩ := Fault.bindOk ok
    obtain ⟨name, rfl, known⟩ := keyNamed key
    obtain ⟨named, rfl, keys, values⟩ := entriesSpelled rest levels fs' later
    cases ok
    exact ⟨(name, w) :: named, rfl, .cons known keys,
      .cons (keysSpelled v levels w value) values⟩
end

abbrev Entered : Node → Node → Prop := ReflTransGen fun n m => m ∈ n.children

-- Every key of every map inside, also of those in pairs.
def TextKeyed (n : Node) : Prop := ∀ es, n.Held (.map es) → ∀ e ∈ es, ∃ s, e.1 = .str s

theorem textKeyedIff {n : Node} : n.TextKeyed ↔
    (∀ es, n = .map es → ∀ e ∈ es, ∃ s, e.1 = .str s) ∧ ∀ m ∈ n.members, m.TextKeyed := by
  constructor
  · intro keyed
    refine ⟨fun es same => keyed es ?_, fun m member es held => keyed es (.head member held)⟩
    rw [same]
  · rintro ⟨here, inner⟩ es held
    rcases ReflTransGen.cases_head held with same | ⟨m, member, rest⟩
    · exact here es same
    · exact inner m member es rest

mutual
def textKeyed : Node → Bool
  | .set items => textKeyedList items
  | .pair a b => a.textKeyed && b.textKeyed
  | .list items => textKeyedList items
  | .map entries => textKeyedEntries entries
  | _ => true
termination_by structural n => n
def textKeyedList : List Node → Bool
  | [] => true
  | n :: rest => n.textKeyed && textKeyedList rest
termination_by structural n => n
def textKeyedEntries : List (Node × Node) → Bool
  | [] => true
  | (k, v) :: rest => k.text?.isSome && v.textKeyed && textKeyedEntries rest
termination_by structural n => n
end

theorem textIff {k : Node} : k.text?.isSome = true ↔ ∃ s, k = .str s := by
  cases k <;> simp [text?]

theorem textKeyedListIff {ns : List Node} :
    textKeyedList ns = true ↔ ∀ n ∈ ns, n.textKeyed = true := by
  induction ns with
  | nil => simp [textKeyedList]
  | cons n rest ih => simp [textKeyedList, ih]

theorem textKeyedEntriesIff {es : Entries} : textKeyedEntries es = true ↔
    (∀ e ∈ es, ∃ s, e.1 = .str s) ∧ ∀ e ∈ es, e.2.textKeyed = true := by
  induction es with
  | nil => simp [textKeyedEntries]
  | cons e rest ih =>
    simp only [textKeyedEntries, Bool.and_eq_true, textIff, ih, List.forall_mem_cons]
    tauto

theorem textKeyedTrue {n : Node} : n.textKeyed = true ↔ n.TextKeyed := by
  induction size : n.weight using Nat.strong_induction_on generalizing n with
  | _ size ih =>
    subst size
    have inner (m : Node) (member : m ∈ n.members) : m.textKeyed = true ↔ m.TextKeyed :=
      ih _ (memberWeight member) rfl
    rw [textKeyedIff, ← forall₂_congr inner]
    cases n with
    | set items => simp [textKeyed, members, textKeyedListIff]
    | list items => simp [textKeyed, members, textKeyedListIff]
    | pair a b => simp [textKeyed, members]
    | map es =>
      simp only [textKeyed, textKeyedEntriesIff, members, List.forall_mem_map, map.injEq, forall_eq']
    | _ => simp [textKeyed, members]

instance (n : Node) : Decidable n.TextKeyed := decidable_of_iff _ textKeyedTrue

theorem enteredHeld {n m : Node} (entered : n.Entered m) : n.Held m := by
  induction entered with
  | refl => exact .refl
  | tail _ child ih => exact ih.tail (childMember child)

theorem enteredFormed {n m : Node} (formed : n.wellFormed = true) (entered : n.Entered m) :
    m.wellFormed = true := by
  induction entered with
  | refl => exact formed
  | @tail b c _ child ih =>
    cases b with
    | list items =>
      rw [wellFormed] at ih
      exact wellFormedListIff.mp ih c child
    | map es =>
      rw [wellFormed] at ih
      obtain ⟨e, member, same⟩ := List.mem_map.mp child
      rw [← same]
      exact ((wellFormedEntriesIff.mp ih).1 e member).2
    | _ => cases child

-- What lies inside is entered, or it lies in something that is not.
theorem heldEntered {n m : Node} (held : n.Held m) :
    n.Entered m ∨ ∃ b c, n.Entered b ∧ b.Bare ∧ c ∈ b.members ∧ c.Held m := by
  induction held with
  | refl => exact .inl .refl
  | @tail b c _ member ih =>
    rcases ih with entered | ⟨b', c', entered, bare, inside, held⟩
    · cases b with
      | list items => exact .inl (entered.tail member)
      | map es => exact .inl (entered.tail member)
      | enclosing level => cases member
      | _ => exact .inr ⟨_, c, entered, trivial, member, .refl⟩
    · exact .inr ⟨b', c', entered, bare, inside, held.tail member⟩

theorem spelledChild {n m c : Node} (spelled : Spelled n m) (child : c ∈ m.children) :
    ∃ d ∈ n.children, Spelled d c := by
  cases spelled with
  | map keys values once =>
    obtain ⟨f, member, rfl⟩ := List.mem_map.mp child
    obtain ⟨name, _, _, p, found, same⟩ := partner once member
    have inside := (List.mem_filter.mp (List.mem_of_getLast? found)).1
    obtain ⟨e, there, value⟩ := partner values inside
    rw [same]
    exact ⟨e.2, List.mem_map_of_mem there, value⟩
  | list each => exact partner each child
  | bare bare =>
    cases n with
    | map es => cases bare
    | list items => cases bare
    | _ => cases child

theorem spelledEntered {n m c : Node} (spelled : Spelled n m) (entered : m.Entered c) :
    ∃ d, n.Entered d ∧ Spelled d c := by
  induction entered with
  | refl => exact ⟨n, .refl, spelled⟩
  | tail _ child ih =>
    obtain ⟨d, reached, own⟩ := ih
    obtain ⟨d', inside, own'⟩ := spelledChild own child
    exact ⟨d', reached.tail inside, own'⟩

theorem spelledTexts {n : Node} {fs : Entries} (spelled : Spelled n (.map fs)) :
    ∀ f ∈ fs, ∃ s, f.1 = .str s := by
  intro f member
  cases spelled with
  | map keys values once =>
    obtain ⟨name, _, text, _⟩ := partner once member
    exact ⟨name, text⟩
  | bare bare => cases bare

theorem spelledBare {n m : Node} (spelled : Spelled n m) (bare : m.Bare) : n = m := by
  cases spelled with
  | map keys values once => cases bare
  | list each => cases bare
  | bare => rfl

theorem bareEntered {n m k : Node} (spelled : Spelled n m) (bare : k.Bare) (entered : m.Entered k) :
    n.Entered k := by
  obtain ⟨d, reached, own⟩ := spelledEntered spelled entered
  rw [← spelledBare own bare]
  exact reached

theorem bareHeld {n m k : Node} (spelled : Spelled n m) (bare : k.Bare) (held : m.Held k) :
    n.Held k := by
  rcases heldEntered held with entered | ⟨b, c, entered, closed, member, inner⟩
  · exact enteredHeld (bareEntered spelled bare entered)
  · exact (enteredHeld (bareEntered spelled closed entered)).trans (.head member inner)

theorem spelledKeyed {n m : Node} (formed : n.wellFormed = true) (spelled : Spelled n m) :
    m.TextKeyed ↔ ∀ a b, m.Entered (.pair a b) → (Node.pair a b).TextKeyed := by
  constructor
  · intro keyed a b entered es held
    exact keyed es ((enteredHeld entered).trans held)
  · intro pairs es held
    rcases heldEntered held with entered | ⟨b, c, entered, bare, member, inner⟩
    · obtain ⟨d, _, own⟩ := spelledEntered spelled entered
      exact spelledTexts own
    · cases b with
      | pair x y => exact pairs x y entered es (.head member inner)
      | set items =>
        have usable := enteredFormed formed (bareEntered spelled bare entered)
        rw [wellFormed, List.all_eq_true] at usable
        have impossible := usableHeld (usable c member) inner
        simp [hashable] at impossible
      | list items => cases bare
      | map entries => cases bare
      | _ => cases member

theorem enterFree : enter none = .ok none := rfl

theorem itemsAgain {ns : List Node} (each : ∀ n ∈ ns, n.spellKeys = .ok n) :
    spellKeysList ns none = .ok ns := by
  induction ns with
  | nil => rfl
  | cons n rest ih =>
    obtain ⟨first, others⟩ := List.forall_mem_cons.mp each
    simp only [spellKeysList, first, ih others, bind, Except.bind, pure, Except.pure]

theorem entriesAgain {es : Entries} (texts : ∀ e ∈ es, ∃ s, e.1 = .str s)
    (each : ∀ e ∈ es, e.2.spellKeys = .ok e.2) : spellKeysEntries es none = .ok es := by
  induction es with
  | nil => rfl
  | cons e rest ih =>
    obtain ⟨k, v⟩ := e
    obtain ⟨⟨s, text⟩, texts⟩ := List.forall_mem_cons.mp texts
    obtain ⟨first, others⟩ := List.forall_mem_cons.mp each
    have key : spelledKey k = .ok k := by
      rw [show k = .str s from text]
      rfl
    simp only [spellKeysEntries, key, first, ih texts others, bind, Except.bind, pure, Except.pure]

theorem spelledAgain {n m : Node} (spelled : Spelled n m) : m.spellKeys = .ok m := by
  induction size : m.weight using Nat.strong_induction_on generalizing n m with
  | _ size ih =>
    subst size
    have inner (c : Node) (child : c ∈ m.children) : c.spellKeys = .ok c := by
      obtain ⟨d, _, own⟩ := spelledChild spelled child
      exact ih _ (memberWeight (childMember child)) own rfl
    cases spelled with
    | @map es fs named keys values once =>
      have texts := spelledTexts (.map keys values once)
      have same := entriesAgain texts fun f member => inner f.2 (List.mem_map_of_mem member)
      have apart := holdingApart (pairsHold Prod.fst Prod.snd named).1 once
      simp only [spellKeys, enterFree, same, bind, Except.bind, pure, Except.pure,
        fromPairsApart apart]
    | @list ns ms each =>
      have same : spellKeysList ms none = .ok ms := itemsAgain inner
      simp only [spellKeys, enterFree, same, bind, Except.bind, pure, Except.pure]
    | bare bare => cases n <;> first | rfl | cases bare

end ClientGen.Node
