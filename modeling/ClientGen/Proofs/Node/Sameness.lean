import ClientGen.Node.Same

/-! When sameness is an equivalence. Values that may serve as keys are the same exactly when they
are compared by one quantity, text or moment. A value is well formed when its keys may serve as
keys and none stands twice in a map; such a value is the same as itself, and sameness passes on. -/
namespace ClientGen.Node

inductive Key
  | nothing
  | number (q : Quantity)
  | text (s : String)
  | day (d : Date)
  | moment (placed : Bool) (instant : Int)
  | bytes (content : List UInt8)
  | pair (first second : Key)
  | other

def key : Node → Key
  | .null => .nothing
  | .bool b => .number (.whole (if b then 1 else 0))
  | .int n => .number (.whole n)
  | .float x => .number (.ofFloat x)
  | .str s => .text s
  | .date d => .day d
  | .datetime t => .moment t.offset.isSome t.instant
  | .bytes content => .bytes content
  | .pair a b => .pair a.key b.key
  | _ => .other

theorem quantityKey (n : Node) (q : Quantity) :
    (n.quantity? == some q) = true ↔ n.hashable = true ∧ Key.number q = n.key := by
  cases n <;> simp only [quantity?, hashable, key, beq_iff_eq, Option.some.injEq, Key.number.injEq,
    reduceCtorEq, Bool.false_eq_true, true_and, and_false]
  all_goals exact eq_comm

theorem sameKey {a : Node} (usable : a.hashable = true) (b : Node) :
    a.same b = true ↔ b.hashable = true ∧ a.key = b.key := by
  match a with
  | .null | .str _ | .date _ | .bytes _ =>
    cases b <;> simp [same, hashable, key]
  | .bool _ | .int _ | .float _ =>
    simp only [same]
    exact quantityKey b _
  | .datetime t => cases b <;> simp [same, hashable, key, DateTime.same]
  | .pair c d =>
    simp only [hashable, Bool.and_eq_true] at usable
    cases b with
    | pair c' d' =>
      simp only [same, hashable, key, Bool.and_eq_true, sameKey usable.1 c', sameKey usable.2 d',
        Key.pair.injEq]
      exact ⟨fun h => ⟨⟨h.1.1, h.2.1⟩, h.1.2, h.2.2⟩, fun h => ⟨⟨h.1.1, h.2.1⟩, h.1.2, h.2.2⟩⟩
    | _ => simp [same, hashable, key]
  | .set _ | .list _ | .map _ | .link _ | .enclosing _ => simp [hashable] at usable
termination_by structural a

theorem sameSelfKey {a : Node} (usable : a.hashable = true) : a.same a = true :=
  (sameKey usable a).mpr ⟨usable, rfl⟩

theorem sameTextIff {s : String} {n : Node} : (Node.str s).same n = true ↔ n = .str s := by
  cases n with
  | str t =>
    rw [Node.same, beq_iff_eq, str.injEq]
    exact eq_comm
  | _ => simp [Node.same]

theorem sameAlike {a b : Node} (usable : a.hashable = true) (eq : a.same b = true) (c : Node) :
    a.same c = b.same c := by
  have both := (sameKey usable b).mp eq
  rw [Bool.eq_iff_iff, sameKey usable c, sameKey both.1 c, both.2]

mutual
def wellFormed : Node → Bool
  | .set items => items.all hashable
  | .pair a b => a.wellFormed && b.wellFormed
  | .list items => wellFormedList items
  | .map entries => wellFormedEntries entries
  | _ => true
termination_by structural n => n
def wellFormedList : List Node → Bool
  | [] => true
  | n :: rest => n.wellFormed && wellFormedList rest
termination_by structural n => n
def wellFormedEntries : List (Node × Node) → Bool
  | [] => true
  | (k, v) :: rest =>
    k.hashable && !rest.any (fun e => k.same e.1) && v.wellFormed && wellFormedEntries rest
termination_by structural n => n
end

theorem wellFormedOfUsable {a : Node} (usable : a.hashable = true) : a.wellFormed = true := by
  match a with
  | .null | .bool _ | .int _ | .float _ | .str _ | .date _ | .datetime _ | .bytes _ => rfl
  | .pair b c =>
    simp only [hashable, Bool.and_eq_true] at usable
    simp [wellFormed, wellFormedOfUsable usable.1, wellFormedOfUsable usable.2]
  | .set _ | .list _ | .map _ | .link _ | .enclosing _ => simp [hashable] at usable
termination_by structural a

theorem wellFormedListIff {ns : List Node} :
    wellFormedList ns = true ↔ ∀ n ∈ ns, n.wellFormed = true := by
  induction ns with
  | nil => simp [wellFormedList]
  | cons n rest ih => simp [wellFormedList, ih]

theorem wellFormedEntriesIff {es : Entries} :
    wellFormedEntries es = true ↔
      (∀ e ∈ es, e.1.hashable = true ∧ e.2.wellFormed = true) ∧
        es.Pairwise (fun a b => a.1.same b.1 = false) := by
  induction es with
  | nil => simp [wellFormedEntries]
  | cons e rest ih =>
    obtain ⟨k, v⟩ := e
    simp only [wellFormedEntries, Bool.and_eq_true, ih, List.mem_cons, forall_eq_or_imp,
      List.pairwise_cons, Bool.not_eq_true', List.any_eq_false, Bool.not_eq_true]
    constructor
    · rintro ⟨⟨⟨usable, fresh⟩, value⟩, members, distinct⟩
      exact ⟨⟨⟨usable, value⟩, members⟩, fresh, distinct⟩
    · rintro ⟨⟨⟨usable, value⟩, members⟩, fresh, distinct⟩
      exact ⟨⟨⟨usable, fresh⟩, value⟩, members, distinct⟩

theorem memberFormed {es : Entries} (ok : (Node.map es).wellFormed = true) {i : Nat}
    {e : Node × Node} (there : es[i]? = some e) :
    e.1.hashable = true ∧ e.2.wellFormed = true := by
  rw [wellFormed] at ok
  exact (wellFormedEntriesIff.mp ok).1 e (List.mem_of_getElem? there)

theorem mapFormed {es : Entries} (ok : (Node.map es).wellFormed = true) :
    wellFormedEntries es = true := by
  rw [wellFormed] at ok
  exact ok

theorem findSelf {es : Entries} (ok : wellFormedEntries es = true) {e : Node × Node}
    (member : e ∈ es) : es.find? (fun b => e.1.same b.1) = some e := by
  obtain ⟨usable, distinct⟩ := wellFormedEntriesIff.mp ok
  induction es with
  | nil => cases member
  | cons first rest ih =>
    obtain ⟨fresh, later⟩ := List.pairwise_cons.mp distinct
    rcases List.mem_cons.mp member with rfl | inside
    · rw [List.find?_cons, sameSelfKey (usable e List.mem_cons_self).1]
    · have apart : e.1.same first.1 = false := by
        cases found : e.1.same first.1 with
        | false => rfl
        | true =>
          have other := sameAlike (usable e member).1 found e.1
          rw [sameSelfKey (usable e member).1, fresh e inside] at other
          cases other
      rw [List.find?_cons, apart]
      have tail := fun e member => usable e (List.mem_cons_of_mem first member)
      exact ih (wellFormedEntriesIff.mpr ⟨tail, later⟩) inside tail later

theorem sameEntriesIff {as bs : Entries} :
    sameEntries as bs = true ↔ ∀ e ∈ as, ∃ b, bs.find? (fun b => e.1.same b.1) = some b ∧
      e.2.same b.2 = true := by
  induction as with
  | nil => simp [sameEntries]
  | cons e rest ih =>
    obtain ⟨k, v⟩ := e
    simp only [sameEntries, Bool.and_eq_true, ih, List.mem_cons, forall_eq_or_imp]
    refine and_congr ?_ Iff.rfl
    cases bs.find? (fun b => k.same b.1) <;> simp

theorem sameSetIff {as bs : List Node} :
    sameSet as bs = true ↔ ∀ a ∈ as, ∃ b ∈ bs, a.same b = true := by
  induction as with
  | nil => simp [sameSet]
  | cons a rest ih => simp [sameSet, ih]

mutual
theorem sameSelf {n : Node} (ok : n.wellFormed = true) : n.same n = true := by
  match n with
  | .null | .bool _ | .int _ | .float _ | .str _ | .date _ | .datetime _ | .bytes _ =>
    exact sameSelfKey rfl
  | .link _ | .enclosing _ => simp [same]
  | .pair a b =>
    simp only [wellFormed, Bool.and_eq_true] at ok
    simp [same, sameSelf ok.1, sameSelf ok.2]
  | .set items =>
    simp only [wellFormed, List.all_eq_true] at ok
    simp only [same, beq_self_eq_true, Bool.true_and, sameSetIff]
    exact fun a member => ⟨a, member, sameSelfKey (ok a member)⟩
  | .list items =>
    simp only [wellFormed] at ok
    simp only [same, sameSelfList ok]
  | .map entries =>
    simp only [wellFormed] at ok
    simp only [same, beq_self_eq_true, Bool.true_and, sameEntriesIff]
    exact fun e member => ⟨e, findSelf ok member, sameSelfValue ok e member⟩
termination_by structural n
theorem sameSelfList {ns : List Node} (ok : wellFormedList ns = true) :
    sameList ns ns = true := by
  match ns with
  | [] => rfl
  | n :: rest =>
    simp only [wellFormedList, Bool.and_eq_true] at ok
    simp [sameList, sameSelf ok.1, sameSelfList ok.2]
termination_by structural ns
theorem sameSelfValue {es : List (Node × Node)} (ok : wellFormedEntries es = true) :
    ∀ e ∈ es, e.2.same e.2 = true := by
  match es with
  | [] => simp
  | (k, v) :: rest =>
    simp only [wellFormedEntries, Bool.and_eq_true] at ok
    simp only [List.mem_cons, forall_eq_or_imp]
    exact ⟨sameSelf ok.1.2, sameSelfValue ok.2⟩
termination_by structural es
end

theorem sameTransKey {a b c : Node} (usable : a.hashable = true) (first : a.same b = true)
    (second : b.same c = true) : a.same c = true := by
  rw [sameAlike usable first]
  exact second

mutual
theorem sameTrans {a b c : Node} (left : a.wellFormed = true) (right : b.wellFormed = true)
    (first : a.same b = true) (second : b.same c = true) : a.same c = true := by
  match a with
  | .null | .bool _ | .int _ | .float _ | .str _ | .date _ | .datetime _ | .bytes _ =>
    exact sameTransKey rfl first second
  | .link i =>
    cases b <;> simp [same] at first
    subst first
    exact second
  | .enclosing i =>
    cases b <;> simp [same] at first
    subst first
    exact second
  | .pair x y =>
    cases b <;> simp [same] at first
    cases c <;> simp [same] at second
    simp only [wellFormed, Bool.and_eq_true] at left right
    simp [same, sameTrans left.1 right.1 first.1 second.1, sameTrans left.2 right.2 first.2 second.2]
  | .set items =>
    cases b <;> simp [same] at first
    cases c <;> simp [same] at second
    simp only [wellFormed, List.all_eq_true] at left
    simp only [same, Bool.and_eq_true, beq_iff_eq, sameSetIff] at *
    refine ⟨first.1.trans second.1, fun x member => ?_⟩
    obtain ⟨y, inside, xy⟩ := first.2 x member
    obtain ⟨z, last, yz⟩ := second.2 y inside
    exact ⟨z, last, sameTransKey (left x member) xy yz⟩
  | .list items =>
    cases b <;> simp [same] at first
    cases c <;> simp [same] at second
    simp only [wellFormed] at left right
    simp only [same]
    exact sameTransList left right first second
  | .map entries =>
    cases b <;> simp [same] at first
    cases c <;> simp [same] at second
    simp only [wellFormed] at left right
    simp only [same, Bool.and_eq_true, beq_iff_eq]
    refine ⟨first.1.trans second.1, sameEntriesIff.mpr fun e member => ?_⟩
    obtain ⟨e', found, same'⟩ := sameEntriesIff.mp first.2 e member
    have inside := List.mem_of_find?_eq_some found
    obtain ⟨e'', found', same''⟩ := sameEntriesIff.mp second.2 e' inside
    have met : e.1.same e'.1 = true := by simpa using List.find?_some found
    have keys := sameAlike ((wellFormedEntriesIff.mp left).1 e member).1 met
    refine ⟨e'', ?_, sameTransValue left e member
      ((wellFormedEntriesIff.mp right).1 e' inside).2 same' same''⟩
    simpa only [keys] using found'
termination_by structural a
theorem sameTransList {as bs cs : List Node} (left : wellFormedList as = true)
    (right : wellFormedList bs = true) (first : sameList as bs = true)
    (second : sameList bs cs = true) : sameList as cs = true := by
  match as with
  | [] => cases bs <;> simp [sameList] at first; exact second
  | a :: as =>
    cases bs <;> simp [sameList] at first
    cases cs <;> simp [sameList] at second
    simp only [wellFormedList, Bool.and_eq_true] at left right
    simp [sameList, sameTrans left.1 right.1 first.1 second.1,
      sameTransList left.2 right.2 first.2 second.2]
termination_by structural as
theorem sameTransValue {es : List (Node × Node)} (left : wellFormedEntries es = true) :
    ∀ e ∈ es, ∀ {b c : Node}, b.wellFormed = true → e.2.same b = true → b.same c = true →
      e.2.same c = true := by
  match es with
  | [] => simp
  | (k, v) :: rest =>
    simp only [wellFormedEntries, Bool.and_eq_true] at left
    simp only [List.mem_cons, forall_eq_or_imp]
    exact ⟨fun right first second => sameTrans left.1.2 right first second,
      sameTransValue left.2⟩
termination_by structural es
end

end ClientGen.Node
