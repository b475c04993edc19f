import ClientGen.Proofs.Node.Cycles
import ClientGen.Proofs.Node.Formed
import Mathlib.Data.List.Nodup
import Mathlib.Data.List.Perm.Subperm

/-! Keys that stand apart. Where no set and no map inside two values holds a key twice, to be the same
goes both ways. What is read of a document, and what it is closed to, keeps its keys apart. -/
namespace ClientGen
open Relation

namespace Node

def Apart (ks : List Node) : Prop := (∀ k ∈ ks, k.hashable = true) ∧ (ks.map key).Nodup

theorem Apart.one {ks : List Node} (apart : Apart ks) {k k' : Node} (left : k ∈ ks) (right : k' ∈ ks)
    (same : k.key = k'.key) : k = k' :=
  List.inj_on_of_nodup_map apart.2 left right same

theorem textsApart {texts : List String} (distinct : texts.Nodup) : Apart (texts.map .str) := by
  refine ⟨fun k member => ?_, ?_⟩
  · obtain ⟨s, _, rfl⟩ := List.mem_map.mp member
    rfl
  · rw [List.map_map]
    exact distinct.map fun s t same => by simpa [key] using same

def Keyed : Node → Prop
  | .set items => Apart items
  | .map entries => Apart (entries.map (·.1))
  | _ => True

abbrev KeyedThroughout (n : Node) : Prop := ∀ m, n.Held m → m.Keyed

theorem KeyedThroughout.inner {n m : Node} (keyed : n.KeyedThroughout) (member : m ∈ n.members) :
    m.KeyedThroughout := fun k held => keyed k (.head member held)

theorem usableHeld {n m : Node} (usable : n.hashable = true) (held : n.Held m) :
    m.hashable = true := by
  induction held with
  | refl => exact usable
  | @tail b c _ member ih =>
    cases b with
    | pair x y =>
      simp only [hashable, Bool.and_eq_true] at ih
      simp only [members, List.mem_cons, List.not_mem_nil, or_false] at member
      rcases member with rfl | rfl
      · exact ih.1
      · exact ih.2
    | set _ | list _ | map _ | link _ | enclosing _ => simp [hashable] at ih
    | _ => cases member

theorem keyedUsable {n : Node} (usable : n.hashable = true) : n.KeyedThroughout := by
  intro m held
  have usable := usableHeld usable held
  cases m <;> first | exact trivial | simp [hashable] at usable

theorem keyedFormed {n : Node} (keyed : n.KeyedThroughout) : n.wellFormed = true := by
  induction size : n.weight using Nat.strong_induction_on generalizing n with
  | _ size ih =>
    subst size
    have inner {m : Node} (member : m ∈ n.members) : m.wellFormed = true :=
      ih _ (memberWeight member) (keyed.inner member) rfl
    have here : n.Keyed := keyed n .refl
    cases n with
    | set items =>
      rw [wellFormed, List.all_eq_true]
      exact here.1
    | pair a b =>
      rw [wellFormed, inner (by simp [members]), inner (by simp [members]), Bool.and_self]
    | list items =>
      rw [wellFormed]
      exact wellFormedListIff.mpr fun m member => inner member
    | map es =>
      obtain ⟨usable, distinct⟩ := here
      rw [wellFormed]
      refine wellFormedEntriesIff.mpr ⟨fun e member => ?_, ?_⟩
      · exact ⟨usable _ (List.mem_map_of_mem member), inner (List.mem_map_of_mem member)⟩
      · rw [List.map_map, List.Nodup, List.pairwise_map] at distinct
        refine distinct.imp_of_mem fun {e f} left _ apart => Bool.eq_false_iff.mpr fun same => ?_
        exact apart ((sameKey (usable _ (List.mem_map_of_mem left)) f.1).mp same).2
    | _ => rfl

theorem partnersMet {α β κ : Type} {f : α → κ} {g : β → κ} {P : α → β → Prop} {as : List α}
    {bs : List β} (apart : (as.map f).Nodup) (size : as.length = bs.length)
    (into : ∀ a ∈ as, ∃ b ∈ bs, f a = g b ∧ P a b) : ∀ b ∈ bs, ∃ a ∈ as, f a = g b ∧ P a b := by
  have inside : as.map f ⊆ bs.map g := fun k member => by
    obtain ⟨a, there, rfl⟩ := List.mem_map.mp member
    obtain ⟨b, there', same, _⟩ := into a there
    exact List.mem_map.mpr ⟨b, there', same.symm⟩
  have permuted : (as.map f).Perm (bs.map g) :=
    (List.subperm_of_subset apart inside).perm_of_length_le (by simp [size])
  intro b member
  obtain ⟨a, there, same⟩ := List.mem_map.mp (permuted.mem_iff.mpr (List.mem_map_of_mem member))
  obtain ⟨b', member', same', both⟩ := into a there
  have one : b' = b := List.inj_on_of_nodup_map (permuted.nodup_iff.mp apart) member' member
    (same'.symm.trans same)
  exact ⟨a, there, same, one ▸ both⟩

theorem sameListSymm {as bs : List Node} (each : ∀ a ∈ as, ∀ b, a.same b = true → b.same a = true)
    (same : sameList as bs = true) : sameList bs as = true := by
  induction as generalizing bs with
  | nil =>
    cases bs with
    | nil => rfl
    | cons => cases same
  | cons a as ih =>
    cases bs with
    | nil => cases same
    | cons b bs =>
      simp only [sameList, Bool.and_eq_true] at same ⊢
      obtain ⟨here, later⟩ := List.forall_mem_cons.mp each
      exact ⟨here b same.1, ih later same.2⟩

theorem sameSetSymm {as bs : List Node} (apart : Apart as)
    (same : (Node.set as).same (.set bs) = true) : (Node.set bs).same (.set as) = true := by
  simp only [Node.same, Bool.and_eq_true, beq_iff_eq, sameSetIff] at same ⊢
  refine ⟨same.1.symm, fun b member => ?_⟩
  have into : ∀ a ∈ as, ∃ b ∈ bs, a.key = b.key ∧ a.same b = true := fun a there => by
    obtain ⟨b, there', met⟩ := same.2 a there
    exact ⟨b, there', ((sameKey (apart.1 a there) b).mp met).2, met⟩
  obtain ⟨a, there, _, met⟩ := partnersMet apart.2 same.1 into b member
  have usable := ((sameKey (apart.1 a there) b).mp met).1
  exact ⟨a, there, (sameSymmKey (apart.1 a there) usable).symm.trans met⟩

theorem sameMapSymm {es fs : Entries} (ok : (Node.map es).wellFormed = true)
    (apart : Apart (es.map (·.1))) (each : ∀ e ∈ es, ∀ v, e.2.same v = true → v.same e.2 = true)
    (same : (Node.map es).same (.map fs) = true) : (Node.map fs).same (.map es) = true := by
  simp only [Node.same, Bool.and_eq_true, beq_iff_eq, sameEntriesIff] at same ⊢
  refine ⟨same.1.symm, fun f member => ?_⟩
  have usable : ∀ e ∈ es, e.1.hashable = true := fun e there => apart.1 _ (List.mem_map_of_mem there)
  have into : ∀ e ∈ es, ∃ f ∈ fs, e.1.key = f.1.key ∧ f.1.hashable = true ∧
      e.2.same f.2 = true := fun e there => by
    obtain ⟨f, found, met⟩ := same.2 e there
    have keys := (sameKey (usable e there) f.1).mp (by simpa using List.find?_some found)
    exact ⟨f, List.mem_of_find?_eq_some found, keys.2, keys.1, met⟩
  have distinct : (es.map fun e => e.1.key).Nodup := by
    have keys := apart.2
    rwa [List.map_map] at keys
  obtain ⟨e, there, key, usable', met⟩ := partnersMet distinct same.1 into f member
  have alike : f.1.same e.1 = true := (sameKey usable' e.1).mpr ⟨usable e there, key.symm⟩
  refine ⟨e, ?_, each e there f.2 met⟩
  simp only [sameAlike usable' alike]
  exact findSelf (mapFormed ok) there

theorem sameSymm {a b : Node} (keyed : a.KeyedThroughout) (same : a.same b = true) :
    b.same a = true := by
  induction size : a.weight using Nat.strong_induction_on generalizing a b with
  | _ size ih =>
    subst size
    have inner {c : Node} (member : c ∈ a.members) (d : Node) (met : c.same d = true) :
        d.same c = true := ih _ (memberWeight member) (keyed.inner member) met rfl
    have here : a.Keyed := keyed a .refl
    have formed := keyedFormed keyed
    cases a with
    | set items =>
      cases b with
      | set others => exact sameSetSymm here same
      | _ => simp [Node.same] at same
    | map es =>
      cases b with
      | map fs =>
        exact sameMapSymm formed here (fun e member => inner (List.mem_map_of_mem member)) same
      | _ => simp [Node.same] at same
    | list items =>
      cases b with
      | list others =>
        rw [Node.same] at same ⊢
        exact sameListSymm (fun c member => inner member) same
      | _ => simp [Node.same] at same
    | pair x y =>
      cases b with
      | pair z w =>
        simp only [Node.same, Bool.and_eq_true] at same ⊢
        exact ⟨inner (by simp [members]) z same.1, inner (by simp [members]) w same.2⟩
      | _ => simp [Node.same] at same
    | link i =>
      cases b <;> simp [Node.same] at same ⊢
      exact same.symm
    | enclosing i =>
      cases b <;> simp [Node.same] at same ⊢
      exact same.symm
    | _ =>
      have usable := ((sameKey rfl b).mp same).1
      exact (sameSymmKey rfl usable).symm.trans same

end Node

namespace Parts

variable {parts : Parts}

def Keyed (parts : Parts) (n : Node) : Prop :=
  ∀ m, ReflTransGen parts.Inside n m → (parts.view m).Keyed

theorem Keyed.of {n : Node} (here : (parts.view n).Keyed)
    (each : ∀ m ∈ (parts.view n).members, parts.Keyed m) : parts.Keyed n := by
  intro m reach
  rcases ReflTransGen.cases_head reach with rfl | ⟨c, inside, further⟩
  · exact here
  · exact each c inside m further

theorem objectKeyed {es : List (String × Node)} (distinct : (es.map (·.1)).Nodup)
    (each : ∀ e ∈ es, parts.Keyed e.2) : parts.Keyed (Node.object es) := by
  have keys : (Node.object es).Keyed := by
    have texts := Node.textsApart distinct
    rw [List.map_map] at texts
    rw [Node.object, Node.Keyed, List.map_map]
    exact texts
  refine .of keys fun m member => ?_
  obtain ⟨e, there, rfl⟩ : ∃ e ∈ es, e.2 = m := by
    simpa [Parts.view, Node.object, Node.members] using member
  exact each e there

theorem Keyed.inner {n m : Node} (keyed : parts.Keyed n) (inside : parts.Inside n m) :
    parts.Keyed m := fun k reach => keyed k (.head inside reach)

theorem Keyed.within {n m : Node} (keyed : parts.Keyed n) (reach : ReflTransGen parts.Inside n m) :
    parts.Keyed m := fun k further => keyed k (reach.trans further)

theorem membersClosed (inner : Node → Node) (n : Node) :
    (closeInside inner n).members = n.members.map inner := by
  cases n <;> simp [closeInside, Node.members, Function.comp_def]

theorem closeInsideKeyed {inner : Node → Node} {n : Node}
    (kept : ∀ m : Node, m.hashable = true → inner m = m) (keyed : n.Keyed) :
    (closeInside inner n).Keyed := by
  cases n with
  | set items =>
    have same : items.map inner = items := by
      rw [List.map_congr_left fun m member => kept m (keyed.1 m member), List.map_id']
    simpa only [closeInside, same] using keyed
  | map es => simpa [closeInside, Node.Keyed, Function.comp_def] using keyed
  | _ => exact trivial

theorem closeInsideThroughout {inner : Node → Node} {n : Node}
    (kept : ∀ m : Node, m.hashable = true → inner m = m) (keyed : n.Keyed)
    (each : ∀ m ∈ n.members, (inner m).KeyedThroughout) :
    (closeInside inner n).KeyedThroughout := by
  intro m held
  rcases ReflTransGen.cases_head held with rfl | ⟨c, member, further⟩
  · exact closeInsideKeyed kept keyed
  · rw [membersClosed] at member
    obtain ⟨c, there, rfl⟩ := List.mem_map.mp member
    exact each c there m further

theorem heldKeyed {n : Node} (keyed : parts.Keyed n) : n.KeyedThroughout := by
  have still (m : Node) : parts.view m = m ∨ m.members = [] ∧ m.Keyed := by
    cases m with
    | link i => exact .inr ⟨rfl, trivial⟩
    | _ => exact .inl rfl
  intro m held
  have reach : ReflTransGen parts.Inside n m := by
    induction held with
    | refl => exact .refl
    | @tail b c _ member ih =>
      rcases still b with same | ⟨none, _⟩
      · exact .tail ih (by rwa [Inside, same])
      · simp [none] at member
  rcases still m with same | ⟨_, here⟩
  · have shown := keyed m reach
    rwa [same] at shown
  · exact here

theorem closeAtKeyed (fuel : Nat) (around : List (Option Nat)) {n : Node} (keyed : parts.Keyed n) :
    (closeAt parts fuel around n).KeyedThroughout := by
  induction fuel generalizing around n with
  | zero =>
    rw [closeAt]
    exact heldKeyed keyed
  | succ fuel ih =>
    have kept around (m : Node) := @closeAtUsable parts fuel around m
    have shown := keyed n .refl
    cases n with
    | link i =>
      rw [closeAt]
      split
      · intro m held
        rcases ReflTransGen.cases_head held with rfl | ⟨c, member, _⟩
        · exact trivial
        · cases member
      · exact closeInsideThroughout (kept _) shown fun m member => ih _ (keyed.inner member)
    | _ =>
      exact closeInsideThroughout (kept (none :: around)) shown fun m member =>
        ih (none :: around) (keyed.inner member)

theorem closeKeyed {n : Node} (keyed : parts.Keyed n) : (parts.close n).KeyedThroughout :=
  closeAtKeyed _ _ keyed

end Parts
end ClientGen
