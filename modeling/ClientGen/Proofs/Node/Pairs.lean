import ClientGen.Proofs.Node.Sameness
import Mathlib.Data.List.Forall2
import Mathlib.Data.List.Induction
import Mathlib.Data.List.Nodup

/-! A map that is made of pairs in turn. It has every key once, in the order in which the keys come
first, with the value that comes last under it. -/
namespace ClientGen

theorem partner {α β : Type} {R : α → β → Prop} {as : List α} {bs : List β}
    (pairs : List.Forall₂ R as bs) {b : β} (member : b ∈ bs) : ∃ a ∈ as, R a b := by
  induction pairs with
  | nil => cases member
  | cons here _ ih =>
    rcases List.mem_cons.mp member with rfl | later
    · exact ⟨_, List.mem_cons_self, here⟩
    · obtain ⟨a, inside, own⟩ := ih later
      exact ⟨a, List.mem_cons_of_mem _ inside, own⟩

namespace Node

variable {R R' : String → Node → Prop} {n : String} {v : Node}

abbrev Holding (R : String → Node → Prop) (n : String) (e : Node × Node) : Prop :=
  e.1 = .str n ∧ R n e.2

theorem othersHold (other : ∀ m w, m ≠ n → R m w → R' m w) {ns : List String} {es : Entries}
    (free : n ∉ ns) (each : List.Forall₂ (Holding R) ns es) :
    List.Forall₂ (Holding R') ns es := by
  induction each with
  | nil => exact .nil
  | @cons m e ns es here _ ih =>
    obtain ⟨apart, free⟩ := not_or.mp (mt List.mem_cons.mpr free)
    exact .cons ⟨here.1, other m e.2 (Ne.symm apart) here.2⟩ (ih free)

theorem insertHolds (own : R' n v) (other : ∀ m w, m ≠ n → R m w → R' m w) {ns : List String}
    {es : Entries} (apart : ns.Nodup) (each : List.Forall₂ (Holding R) ns es) :
    List.Forall₂ (Holding R') (if n ∈ ns then ns else ns ++ [n]) (insertKey (.str n) v es) := by
  induction each with
  | nil => exact .cons ⟨rfl, own⟩ .nil
  | @cons m e ns es here later ih =>
    obtain ⟨k, w⟩ := e
    obtain ⟨rfl, holds⟩ : k = .str m ∧ R m w := here
    obtain ⟨free, apart⟩ := List.nodup_cons.mp apart
    rw [insertKey]
    by_cases same : m = n
    · subst same
      rw [if_pos (sameTextIff.mpr rfl), if_pos List.mem_cons_self]
      exact .cons ⟨rfl, own⟩ (othersHold other free later)
    · have unmet : ¬(str n).same (.str m) = true :=
        fun met => same (Node.str.inj (sameTextIff.mp met))
      have first : Holding R' m (.str m, w) := ⟨rfl, other m w same holds⟩
      have names : (if n ∈ m :: ns then m :: ns else m :: ns ++ [n]) =
          m :: if n ∈ ns then ns else ns ++ [n] := by
        by_cases inside : n ∈ ns <;> simp [inside, Ne.symm same]
      rw [if_neg unmet, names]
      exact .cons first (ih apart)

theorem eraseDupsConcat (ns : List String) (n : String) :
    (ns ++ [n]).eraseDups = if n ∈ ns then ns.eraseDups else ns.eraseDups ++ [n] := by
  rw [List.eraseDups_append]
  by_cases inside : n ∈ ns <;> simp [inside, List.removeAll, List.eraseDups_cons]

theorem holdingApart {ns : List String} {es : Entries} (distinct : ns.Nodup)
    (each : List.Forall₂ (Holding R) ns es) : es.Pairwise fun a b => b.1.same a.1 = false := by
  induction each with
  | nil => exact .nil
  | @cons n e ns es here later ih =>
    obtain ⟨free, distinct⟩ := List.nodup_cons.mp distinct
    refine .cons (fun e' member => ?_) (ih distinct)
    obtain ⟨n', inside, text, _⟩ := partner later member
    rw [text, here.1, Bool.eq_false_iff, ne_eq, sameTextIff]
    intro same
    cases same
    exact free inside

theorem insertFresh {k : Node} {es : Entries} (fresh : ∀ e ∈ es, k.same e.1 = false) :
    insertKey k v es = es ++ [(k, v)] := by
  induction es with
  | nil => rfl
  | cons e rest ih =>
    obtain ⟨first, others⟩ := List.forall_mem_cons.mp fresh
    rw [insertKey, if_neg (by simp [first]), ih others, List.cons_append]

theorem fromPairsConcat (es : Entries) (e : Node × Node) :
    fromPairs (es ++ [e]) = insertKey e.1 e.2 (fromPairs es) := by
  rw [fromPairs, List.foldl_append]
  rfl

theorem fromPairsApart {es : Entries} (apart : es.Pairwise fun a b => b.1.same a.1 = false) :
    fromPairs es = es := by
  induction es using List.reverseRecOn with
  | nil => rfl
  | append_singleton es e ih =>
    obtain ⟨before, _, across⟩ := List.pairwise_append.mp apart
    rw [fromPairsConcat, ih before]
    exact insertFresh fun e' member => across e' member e (List.mem_singleton_self e)

variable {α : Type} (key : α → String) (value : α → Node)

-- The value that is declared last under a name.
def Last (as : List α) (n : String) (v : Node) : Prop :=
  ∃ a, (as.filter (key · == n)).getLast? = some a ∧ v = value a

theorem pairsHold (as : List α) : (as.map key).eraseDups.Nodup ∧
    List.Forall₂ (Holding (Last key value as)) (as.map key).eraseDups
      (fromPairs (as.map fun a => (.str (key a), value a))) := by
  induction as using List.reverseRecOn with
  | nil => exact ⟨List.nodup_nil, .nil⟩
  | append_singleton as a ih =>
    obtain ⟨apart, each⟩ := ih
    have own : Last key value (as ++ [a]) (key a) (value a) := by
      refine ⟨a, ?_, rfl⟩
      rw [List.filter_append, List.filter_cons_of_pos (by simp), List.filter_nil,
        List.getLast?_concat]
    have other (m : String) (w : Node) (apart : m ≠ key a) (last : Last key value as m w) :
        Last key value (as ++ [a]) m w := by
      obtain ⟨b, found, same⟩ := last
      refine ⟨b, ?_, same⟩
      rw [List.filter_append, List.filter_cons_of_neg (by simpa using Ne.symm apart),
        List.filter_nil, List.append_nil, found]
    have pairs : fromPairs ((as ++ [a]).map fun a => (.str (key a), value a)) =
        insertKey (.str (key a)) (value a)
          (fromPairs (as.map fun a => (.str (key a), value a))) := by
      rw [List.map_append]
      exact fromPairsConcat _ _
    have names : ((as ++ [a]).map key).eraseDups =
        if key a ∈ (as.map key).eraseDups then (as.map key).eraseDups
        else (as.map key).eraseDups ++ [key a] := by
      rw [List.map_append, List.map_singleton, eraseDupsConcat]
      simp only [List.mem_eraseDups]
    rw [pairs, names]
    refine ⟨?_, insertHolds own other apart each⟩
    split
    · exact apart
    · rename_i fresh
      exact List.nodup_append.mpr ⟨apart, List.nodup_singleton _, by simpa using fresh⟩

end Node

end ClientGen
