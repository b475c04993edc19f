import ClientGen.Yaml.Value
import ClientGen.Proofs.Fault.Ending
import ClientGen.Proofs.Node.Keys
import ClientGen.Proofs.Node.Pairs

/-! What is read from a YAML text is a well-formed tree. A key is looked at once, when it is met; what
stands for it is a scalar then, and it does not change while the entries behind it are met. A row holds
no rows itself but links to them, and each link is followed where it stands, or leads outward. -/
namespace ClientGen.Yaml
open Relation

abbrev Gives {α : Type} (given : α → Prop) (r : Result α) : Prop := Ends (fun _ => True) given r

theorem givesAny {α : Type} (r : Result α) : Gives (fun _ => True) r := by
  cases r <;> trivial

abbrev Usable (n : Node) : Prop := n.hashable = true

theorem readTimestampUsable (s : List Char) : Gives Usable (readTimestamp s) := by
  unfold readTimestamp
  dsimp only
  refine .branch (fun _ => trivial) fun _ => ?_
  split
  · exact (givesAny _).bind fun _ _ => rfl
  · exact (givesAny _).bind fun _ _ => rfl
  · generalize takeTwo (List.dropWhile isBlank _) = hour
    refine (givesAny _).bind fun _ _ => (givesAny _).bind fun _ _ => ?_
    refine .branch (fun _ => trivial) fun _ => .branch (fun _ => trivial) fun _ => ?_
    exact .branch (fun _ => trivial) fun _ => rfl

theorem scalarValueUsable (tag text : String) : Gives Usable (scalarValue tag text) := by
  refine .branch (fun _ => rfl) fun _ => .branch (fun _ => rfl) fun _ => ?_
  refine .branch (fun _ => (givesAny _).bind fun _ _ => rfl) fun _ => ?_
  refine .branch (fun _ => (givesAny _).bind fun _ _ => rfl) fun _ => ?_
  refine .branch (fun _ => (givesAny _).bind fun _ _ => rfl) fun _ => ?_
  refine .branch (fun _ => readTimestampUsable _) fun _ => ?_
  exact .branch (fun _ => (givesAny _).bind fun _ _ => rfl) fun _ => trivial

def Stands (n : Node) : Prop := (∃ i, n = .link i) ∨ Usable n

structure Row (n : Node) : Prop where
  own : ∀ i, n ≠ .link i
  formed : n.wellFormed = true
  flat : ∀ m ∈ n.members, Stands m

theorem standsFormed {n : Node} (stands : Stands n) : n.wellFormed = true := by
  rcases stands with ⟨i, same⟩ | usable
  · rw [same]
    rfl
  · exact Node.wellFormedOfUsable usable

theorem usableRow {n : Node} (usable : Usable n) : Row n := by
  refine ⟨fun i same => ?_, Node.wellFormedOfUsable usable, fun m member => ?_⟩
  · rw [same] at usable
    contradiction
  · exact .inr (Node.usableHeld usable (.single member))

theorem listRow {ns : List Node} (stand : ∀ n ∈ ns, Stands n) : Row (.list ns) := by
  refine ⟨by simp, ?_, stand⟩
  rw [Node.wellFormed, Node.wellFormedListIff]
  exact fun n member => standsFormed (stand n member)

theorem setRow {ns : List Node} (usable : ∀ n ∈ ns, Usable n) : Row (.set ns) := by
  refine ⟨by simp, ?_, fun n member => .inr (usable n member)⟩
  rw [Node.wellFormed, List.all_eq_true]
  exact usable

theorem pairRow {a b : Node} (left : Stands a) (right : Stands b) : Row (.pair a b) := by
  refine ⟨by simp, ?_, ?_⟩
  · rw [Node.wellFormed, standsFormed left, standsFormed right, Bool.and_self]
  · simp [Node.members, left, right]

theorem fromPairsValues {P : Node → Prop} {es : Entries} (each : ∀ e ∈ es, P e.2) :
    ∀ e ∈ Node.fromPairs es, P e.2 := by
  induction es using List.reverseRecOn with
  | nil => simp [Node.fromPairs]
  | append_singleton es last ih =>
    obtain ⟨before, own⟩ := List.forall_mem_append.mp each
    have own := own last (List.mem_singleton_self last)
    intro e member
    rw [Node.fromPairsConcat] at member
    rcases Node.insertKeyMember member with same | ⟨w, inside, same | same⟩
    · rw [same]
      exact own
    · rw [same]
      exact own
    · rw [same]
      exact ih before (e.1, w) inside

theorem mapRow {es : Entries} (each : ∀ e ∈ es, Usable e.1 ∧ Stands e.2) :
    Row (.map (Node.fromPairs es)) := by
  refine ⟨by simp, ?_, ?_⟩
  · rw [Node.wellFormed]
    exact Node.fromPairsFormed fun e member =>
      ⟨(each e member).1, standsFormed (each e member).2⟩
  · exact List.forall_mem_map.mpr (fromPairsValues fun e member => (each e member).2)

theorem keysRow (sets : SetOrder) {es : Entries} (each : ∀ e ∈ es, Usable e.1 ∧ Stands e.2) :
    Row (.set (sets.arrange ((Node.fromPairs es).map (·.1)))) := by
  have formed := (mapRow each).formed
  rw [Node.wellFormed] at formed
  refine setRow fun n member => ?_
  obtain ⟨e, inside, rfl⟩ := List.mem_map.mp ((sets.complete _).mem_iff.mp member)
  exact ((Node.wellFormedEntriesIff.mp formed).1 e inside).1

namespace Making

structure Sound (m : Making) : Prop where
  rows : ∀ (v : Nat) (n : Node), m.rows[v]? = some (some n) →
    Row n ∧ (isCollection n = false → Usable n)
  pairs : ∀ n ∈ m.pairs, Row n

structure Kept (m m' : Making) : Prop where
  rows : ∀ v : Nat, m.rows[v]? ≠ some none → m'.rows[v]? = m.rows[v]?
  sound : m.Sound → m'.Sound

theorem Kept.refl (m : Making) : m.Kept m := ⟨fun _ _ => rfl, id⟩

theorem Kept.trans {m m' m'' : Making} (first : m.Kept m') (second : m'.Kept m'') :
    m.Kept m'' := by
  refine ⟨fun v met => ?_, fun sound => second.sound (first.sound sound)⟩
  rw [second.rows v, first.rows v met]
  rw [first.rows v met]
  exact met

theorem standKept {m m' : Making} {v : Nat} (same : m'.rows[v]? = m.rows[v]?) :
    m'.stand v = m.stand v := by
  rw [stand, stand, same]

theorem standStands {m : Making} (sound : m.Sound) (v : Nat) : Stands (m.stand v) := by
  unfold stand
  cases row : m.rows[v]? with
  | none => exact .inr rfl
  | some slot =>
    cases slot with
    | none => exact .inr rfl
    | some n =>
      simp only [Option.getD_some]
      split
      · exact .inl ⟨v, rfl⟩
      · rename_i single
        exact .inr ((sound.rows v n row).2 (by simpa using single))

theorem putSound {m : Making} (sound : m.Sound) {n : Node} (row : Row n)
    (single : isCollection n = false → Usable n) (v : Nat) : (m.put v n).Sound := by
  refine ⟨fun u k there => ?_, sound.pairs⟩
  simp only [put, Array.getElem?_setIfInBounds] at there
  split at there
  · split at there
    · cases there
      exact ⟨row, single⟩
    · contradiction
  · exact sound.rows u k there

structure Met (m : Making) (v : Nat) (m' : Making) : Prop where
  kept : m.Kept m'
  here : m'.rows[v]? ≠ some none

theorem putMet {m : Making} {v : Nat} {n : Node} (vacant : (m.rows[v]?).getD none = none)
    (row : Row n) (single : isCollection n = false → Usable n) : m.Met v (m.put v n) := by
  have rows (u : Nat) : (m.put v n).rows[u]? =
      if v = u then if v < m.rows.size then some (some n) else none else m.rows[u]? := by
    rw [put, Array.getElem?_setIfInBounds]
  refine ⟨⟨fun u met => ?_, fun sound => putSound sound row single v⟩, ?_⟩
  · rw [rows]
    by_cases same : v = u
    · subst same
      have outside : m.rows[v]? = none := by
        cases there : m.rows[v]? with
        | none => rfl
        | some slot =>
          simp only [there, Option.getD_some] at vacant
          exact absurd (there.trans (congrArg some vacant)) met
      rw [if_pos rfl, outside, if_neg (by simpa using outside)]
    · rw [if_neg same]
  · rw [rows, if_pos rfl]
    split <;> simp

theorem awaitMet {m : Making} {v : Nat} {n : Node} (vacant : (m.rows[v]?).getD none = none)
    (row : Row n) (collection : isCollection n = true) : m.Met v (m.await v n) := by
  obtain ⟨⟨rows, sound⟩, here⟩ := putMet vacant row (by simp [collection])
  exact ⟨⟨rows, fun before => ⟨(sound before).rows, (sound before).pairs⟩⟩, here⟩

theorem scalarMet {m : Making} {v : Nat} (vacant : (m.rows[v]?).getD none = none) :
    Gives (m.Met v) (m.scalar v) := by
  have value (tag text : String) : Gives (fun n => m.Met v (m.put v n)) (scalarValue tag text) :=
    (scalarValueUsable tag text).imp (fun _ _ => trivial) fun n usable =>
      putMet vacant (usableRow usable) fun _ => usable
  refine (givesAny _).bind fun text _ => ?_
  split
  · exact (value _ _).bind fun _ met => met
  · exact .branch (fun _ => trivial) fun _ => (value _ _).bind fun _ met => met

theorem meetMet (m : Making) (v : Nat) : Gives (m.Met v) (m.meet v) := by
  cases row : (m.rows[v]?).getD none with
  | some n =>
    have there : m.meet v = .ok m := by simp [meet, row]
    rw [there]
    refine ⟨.refl m, fun vacant => ?_⟩
    simp [vacant] at row
  | none =>
    have emptyList := awaitMet row (@listRow [] (by simp)) rfl
    have emptyMap := awaitMet row (@mapRow [] (by simp)) rfl
    have emptySet := awaitMet row (@setRow [] (by simp)) rfl
    simp only [meet, row, Option.isSome_none, Bool.false_eq_true, ↓reduceIte]
    exact .branch (fun _ => scalarMet row) fun _ => .branch (fun _ => emptyList) fun _ =>
      .branch (fun _ => emptyMap) fun _ => .branch (fun _ => emptySet) fun _ => trivial

theorem meetItemsKept (m : Making) (items : List Nat) : Gives m.Kept (m.meetItems items) := by
  induction items generalizing m with
  | nil => exact .refl m
  | cons v rest ih =>
    refine (meetMet m v).bind fun m' met => ?_
    exact (ih m').imp (fun _ _ => trivial) fun _ kept => met.kept.trans kept

theorem meetEntriesKept (m : Making) (es : List (Nat × Nat)) :
    Gives (fun m' => m.Kept m' ∧ ∀ e ∈ es, Usable (m'.stand e.1)) (m.meetEntries es) := by
  induction es generalizing m with
  | nil => exact ⟨.refl m, by simp⟩
  | cons e rest ih =>
    obtain ⟨k, v⟩ := e
    refine (meetMet m k).bind fun m' key => ?_
    refine .branch (fun _ => trivial) fun usable => ?_
    refine (meetMet m' v).bind fun m'' value => ?_
    refine (ih m'').imp (fun _ _ => trivial) fun last after => ?_
    obtain ⟨kept, keys⟩ := after
    have later := value.kept.trans kept
    refine ⟨key.kept.trans later, List.forall_mem_cons.mpr ⟨?_, keys⟩⟩
    rw [Usable, standKept (later.rows k key.here)]
    simpa using usable

theorem meetPairsKept (m : Making) (items : List Nat) (done : List Node)
    (stand : ∀ n ∈ done, Stands n) :
    Gives (fun r => m.Kept r.2 ∧ ∀ n ∈ r.1, Stands n) (m.meetPairs items done) := by
  induction items generalizing m done with
  | nil => exact ⟨.refl m, fun n member => stand n (List.mem_reverse.mp member)⟩
  | cons v rest ih =>
    unfold meetPairs
    split
    · rename_i k w _
      refine (meetMet m k).bind fun m' key => ?_
      refine (meetMet m' w).bind fun m'' value => ?_
      have both := key.kept.trans value.kept
      let pair := Node.pair (m''.stand k) (m''.stand w)
      have pushed : m''.Kept { m'' with pairs := m''.pairs.push pair } := by
        refine ⟨fun _ _ => rfl, fun sound => ⟨sound.rows, fun n member => ?_⟩⟩
        rcases Array.mem_push.mp member with inside | same
        · exact sound.pairs n inside
        · rw [same]
          exact pairRow (standStands sound k) (standStands sound w)
      have more : ∀ n ∈ Node.link (m''.rows.size + m''.pairs.size) :: done, Stands n :=
        List.forall_mem_cons.mpr ⟨.inl ⟨_, rfl⟩, stand⟩
      exact (ih _ _ more).imp (fun _ _ => trivial) fun r after =>
        ⟨(both.trans pushed).trans after.1, after.2⟩
    · trivial

theorem fillSound {m : Making} (sound : m.Sound) (v : Nat) : Gives Sound (m.fill v) := by
  unfold fill
  refine .branch (fun _ => ?_) fun _ => .branch (fun _ => ?_) fun _ => ?_
  · split
    · rename_i items _
      refine (meetItemsKept m items).bind fun m' kept => ?_
      have after := kept.sound sound
      have stand := List.forall_mem_map.mpr fun u (_ : u ∈ items) => standStands after u
      exact putSound after (listRow stand) (by simp [isCollection]) v
    · trivial
  · split
    · rename_i items _
      refine (meetPairsKept m items [] (by simp)).bind fun r after => ?_
      exact putSound (after.1.sound sound) (listRow after.2) (by simp [isCollection]) v
    · trivial
  · refine (givesAny _).bind fun g _ => ?_
    have flattened : ({ m with graph := g } : Making).Sound := ⟨sound.rows, sound.pairs⟩
    dsimp only
    split
    · rename_i es _
      refine (meetEntriesKept _ es).bind fun m' after => ?_
      obtain ⟨kept, keys⟩ := after
      have after := kept.sound flattened
      have each : ∀ e ∈ es.map fun e => (m'.stand e.1, m'.stand e.2), Usable e.1 ∧ Stands e.2 :=
        List.forall_mem_map.mpr fun e member => ⟨keys e member, standStands after e.2⟩
      split
      · exact putSound after (keysRow _ each) (by simp [isCollection]) v
      · exact putSound after (mapRow each) (by simp [isCollection]) v
    · trivial

theorem fillAllSound (generations : Nat) {m : Making} (sound : m.Sound) :
    Gives Sound (fillAll generations m) := by
  have each (vs : List Nat) {m : Making} (sound : m.Sound) :
      Gives Sound (vs.foldlM (fun m v => m.fill v) m) := by
    induction vs generalizing m with
    | nil => exact sound
    | cons v rest ih =>
      rw [List.foldlM_cons]
      exact (fillSound sound v).bind fun m' after => ih after
  induction generations generalizing m with
  | zero => exact sound
  | succ generations ih =>
    have woken : ({ m with waiting := [] } : Making).Sound := ⟨sound.rows, sound.pairs⟩
    exact .branch (fun _ => sound) fun _ => (each _ woken).bind fun m' after => ih after

theorem tableRows {m : Making} (sound : m.Sound) : ∀ n ∈ m.table, Row n := by
  intro n member
  rcases List.mem_append.mp member with row | pair
  · obtain ⟨slot, inside, same⟩ := List.mem_map.mp row
    rw [← same]
    cases slot with
    | none => exact usableRow rfl
    | some k =>
      obtain ⟨v, there⟩ := List.getElem?_of_mem inside
      exact (sound.rows v k (by simpa using there)).1
  · exact sound.pairs n (by simpa using pair)

end Making

structure Tree (n : Node) : Prop where
  formed : n.wellFormed = true
  linkless : ∀ i, ¬n.Held (.link i)

theorem usableTree {n : Node} (usable : Usable n) : Tree n := by
  refine ⟨Node.wellFormedOfUsable usable, fun i held => ?_⟩
  have impossible := Node.usableHeld usable held
  simp [Node.hashable] at impossible

theorem innerTree {n : Node} (formed : n.wellFormed = true) (own : ∀ i, n ≠ .link i)
    (inner : ∀ m ∈ n.members, Tree m) : Tree n := by
  refine ⟨formed, fun i held => ?_⟩
  rcases ReflTransGen.cases_head held with same | ⟨m, member, rest⟩
  · exact own i same
  · exact (inner m member).linkless i rest

theorem pairTree {a b : Node} (left : Tree a) (right : Tree b) : Tree (.pair a b) := by
  refine innerTree ?_ (by simp) (by simp [Node.members, left, right])
  rw [Node.wellFormed, left.formed, right.formed, Bool.and_self]

theorem listTree {ns : List Node} {f : Node → Node} (each : ∀ n ∈ ns, Tree (f n)) :
    Tree (.list (ns.map f)) := by
  have each := List.forall_mem_map.mpr each
  refine innerTree ?_ (by simp) each
  rw [Node.wellFormed, Node.wellFormedListIff]
  exact fun n member => (each n member).formed

theorem mapTree {es : Entries} {f : Node → Node} (formed : (Node.map es).wellFormed = true)
    (each : ∀ e ∈ es, Tree (f e.2)) : Tree (.map (es.map fun e => (e.1, f e.2))) := by
  rw [Node.wellFormed] at formed
  obtain ⟨members, distinct⟩ := Node.wellFormedEntriesIff.mp formed
  refine innerTree ?_ (by simp) ?_
  · rw [Node.wellFormed, Node.wellFormedEntriesIff, List.forall_mem_map, List.pairwise_map]
    exact ⟨fun e member => ⟨(members e member).1, (each e member).formed⟩, distinct⟩
  · rw [Node.members, List.map_map]
    exact List.forall_mem_map.mpr each

section Closing

variable {rows : Parts} {around : List (Option Nat)} {i : Nat}

def unmet (rows : Parts) (around : List (Option Nat)) : Finset Nat :=
  (Finset.range rows.length).filter fun i => some i ∉ around

theorem unmetFew (rows : Parts) (around : List (Option Nat)) :
    (unmet rows around).card ≤ rows.length := by
  have few := Finset.card_filter_le (Finset.range rows.length) fun i => some i ∉ around
  rwa [Finset.card_range] at few

theorem unmetTaken (bound : i < rows.length) (new : some i ∉ around) :
    (unmet rows (some i :: around)).card < (unmet rows around).card := by
  refine Finset.card_lt_card (Finset.ssubset_iff_of_subset ?_ |>.mpr ⟨i, ?_, ?_⟩)
  · intro j member
    simp only [unmet, Finset.mem_filter, List.mem_cons, not_or] at member ⊢
    exact ⟨member.1, member.2.2⟩
  · simp [unmet, bound, new]
  · simp [unmet]

theorem rowShown (each : ∀ n ∈ rows, Row n) (bound : i < rows.length) :
    Row (rows.view (.link i)) := by
  have there : rows.view (.link i) = rows[i] := by simp [Parts.view, bound]
  rw [there]
  exact each _ (List.getElem_mem bound)

-- Inside a pair the rows met outside of it are free again, but not a second time.
theorem pairFew {fuel : Nat} {inPair : Bool} (bound : i < rows.length) (new : some i ∉ around)
    (enough : (unmet rows around).card + (if inPair then 0 else rows.length) < fuel + 1) :
    (unmet rows (some i :: if inPair then around else around.map fun _ => none)).card < fuel := by
  have taken := unmetTaken bound new
  cases inPair with
  | true =>
    simp only [↓reduceIte] at enough ⊢
    omega
  | false =>
    have few := unmetFew rows (some i :: around.map fun _ => none)
    simp only [Bool.false_eq_true, ↓reduceIte] at enough ⊢
    omega

theorem closedTree (each : ∀ n ∈ rows, Row n) {fuel : Nat} {inPair : Bool} {n : Node}
    (enough : (unmet rows around).card + (if inPair then 0 else rows.length) < fuel)
    (stands : Stands n) : Tree (closedAt rows fuel inPair around n) := by
  induction fuel generalizing inPair around n with
  | zero => exact absurd enough (Nat.not_lt_zero _)
  | succ fuel ih =>
    rcases stands with ⟨i, same⟩ | usable
    · subst same
      rw [closedAt]
      split
      · exact innerTree rfl (by simp) (by simp [Node.members])
      · rename_i absent
        simp only [List.findIdx?_eq_none_iff, decide_eq_false_iff_not] at absent
        have new : some i ∉ around := fun member => absent _ member rfl
        by_cases bound : i < rows.length
        · have row := rowShown each bound
          have taken := unmetTaken bound new
          have few := pairFew bound new enough
          have further (m : Node) (stands : Stands m) :
              Tree (closedAt rows fuel inPair (some i :: around) m) := ih (by omega) stands
          generalize rows.view (.link i) = n at row
          cases n with
          | pair a b =>
            obtain ⟨left, right⟩ : Stands a ∧ Stands b := by simpa [Node.members] using row.flat
            exact pairTree (ih few left) (ih few right)
          | list items => exact listTree fun m member => further m (row.flat m member)
          | map es =>
            refine mapTree row.formed fun e member => further e.2 (row.flat e.2 ?_)
            exact List.mem_map_of_mem member
          | set items =>
            have formed := row.formed
            rw [Node.wellFormed, List.all_eq_true] at formed
            exact innerTree row.formed row.own fun m member => usableTree (formed m member)
          | link j => exact absurd rfl (row.own j)
          | _ => exact innerTree row.formed row.own (by simp [Node.members])
        · have absent : rows.view (.link i) = .null := by simp [Parts.view, bound]
          rw [absent]
          exact usableTree rfl
    · cases n with
      | link i => contradiction
      | _ => exact usableTree usable

end Closing

theorem readTree (s : List Char) (levels : Levels) (sets : SetOrder) :
    Gives Tree (read s levels sets) := by
  refine (givesAny _).bind fun ts _ => (givesAny _).bind fun outermost _ => ?_
  split
  · exact usableTree rfl
  · rename_i graph v
    have empty : Making.Sound ⟨graph, Array.replicate graph.size none, #[], [], sets⟩ := by
      refine ⟨fun v n row => ?_, by simp⟩
      simp [Array.getElem?_replicate] at row
    refine (Making.meetMet _ v).bind fun m met => ?_
    refine (Making.fillAllSound _ (met.kept.sound empty)).bind fun last sound => ?_
    refine closedTree (Making.tableRows sound) ?_ (Making.standStands sound v)
    have few := unmetFew last.table []
    simp only [Bool.false_eq_true, ↓reduceIte]
    omega

end ClientGen.Yaml
