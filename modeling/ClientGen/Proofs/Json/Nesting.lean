import ClientGen.Json.Reader
import ClientGen.Proofs.Fault.Curbing

/-! Reading JSON with only so many levels. Brackets beyond the limit stop it at the first of them, and
where nothing lies so deep the limit makes no difference. -/
namespace ClientGen.Json

def TooDeep (f : Failure) : Prop := f.problem = .nesting

structure Curbs (fuel : Nat) : Prop where
  value (levels : Levels) (c : Cursor) :
    Curbed TooDeep id (readValue fuel levels c) (readValue fuel none c)
  items (levels : Levels) (c : Cursor) (done : List Node) :
    Curbed TooDeep id (readItems fuel levels c done) (readItems fuel none c done)
  members (levels : Levels) (c : Cursor) (done : Entries) :
    Curbed TooDeep id (readMembers fuel levels c done) (readMembers fuel none c done)

theorem enterCurbed (c : Cursor) (levels : Levels) :
    Curbed TooDeep (fun _ => none) (c.enter levels) (c.enter none) := by
  unfold Cursor.enter
  split
  · exact .ok _
  · exact .stopped rfl

section Step
variable {fuel : Nat} (below : Curbs fuel) (levels : Levels) (c : Cursor)
include below

theorem valueCurbed :
    Curbed TooDeep id (readValue (fuel + 1) levels c) (readValue (fuel + 1) none c) := by
  rw [readValue, readValue]
  split
  · exact .same _
  · refine (enterCurbed c levels).bind fun inner => ?_
    dsimp only
    split
    · exact .same _
    · exact below.members inner _ _
  · refine (enterCurbed c levels).bind fun inner => ?_
    dsimp only
    split
    · exact .same _
    · exact below.items inner _ _
  · exact .same _

theorem itemsCurbed (done : List Node) :
    Curbed TooDeep id (readItems (fuel + 1) levels c done) (readItems (fuel + 1) none c done) := by
  rw [readItems, readItems]
  refine (below.value levels c).bind fun (item, c) => ?_
  dsimp only [id]
  split
  · exact .same _
  · exact below.items levels _ _
  · exact .same _

theorem membersCurbed (done : Entries) : Curbed TooDeep id
    (readMembers (fuel + 1) levels c done) (readMembers (fuel + 1) none c done) := by
  rw [readMembers, readMembers]
  split
  · refine Curbed.bind (.same _) fun (key, c) => ?_
    dsimp only [id]
    split
    · refine (below.value levels _).bind fun (value, c) => ?_
      dsimp only [id]
      split
      · exact .same _
      · exact below.members levels _ _
      · exact .same _
    · exact .same _
  · exact .same _

end Step

theorem curbs (fuel : Nat) : Curbs fuel := by
  induction fuel with
  | zero => constructor <;> intros <;> exact .same _
  | succ fuel below => exact ⟨valueCurbed below, itemsCurbed below, membersCurbed below⟩

theorem documentCurbed (s : List Char) (levels : Levels) :
    Curbed TooDeep id (readDocument s levels) (readDocument s) := by
  unfold readDocument
  split
  · exact .same _
  · exact ((curbs _).value levels _).bind fun _ => .same _

theorem bracketSkipped (rest : List Char) (position : Nat) :
    Cursor.skipBlanks ⟨'[' :: rest, position⟩ = ⟨'[' :: rest, position⟩ := by
  have full : isBlank '[' = false := by decide
  simp [Cursor.skipBlanks, Cursor.advance, full]

theorem bracketsNest {fuel n : Nat} (enough : 2 * n < fuel) (position : Nat) (tail : List Char) :
    readValue fuel (some n) ⟨List.replicate (n + 1) '[' ++ tail, position⟩ =
      .error ⟨.nesting, position + n⟩ := by
  induction n generalizing fuel position with
  | zero =>
    obtain ⟨fuel, rfl⟩ := Nat.exists_eq_add_of_lt enough
    rfl
  | succ n ih =>
    obtain ⟨fuel, rfl⟩ : ∃ k, fuel = k + 2 := ⟨fuel - 2, by omega⟩
    have first := ih (show 2 * n < fuel by omega) (position + 1)
    have place : position + 1 + n = position + (n + 1) := by omega
    rw [List.replicate_succ, List.cons_append, place] at first
    have items : readItems (fuel + 1) (some n)
        ⟨'[' :: (List.replicate n '[' ++ tail), position + 1⟩ [] =
          .error ⟨.nesting, position + (n + 1)⟩ := by
      rw [readItems, first]
      rfl
    rw [List.replicate_succ, List.replicate_succ, readValue]
    simp only [List.cons_append, Cursor.enter, Levels.inner?, bind, Except.bind, Cursor.advance,
      List.drop_succ_cons, List.drop_zero, bracketSkipped]
    exact items

-- Whatever the limit is, some texts exceed it, and what comes after the brackets does not count.
theorem bracketsUnread {s : List Char} {n : Nat} (deep : List.replicate (n + 1) '[' <+: s) :
    readDocument s (some n) = .error ⟨.nesting, n⟩ := by
  obtain ⟨tail, rfl⟩ := deep
  have long : 2 * n < 2 * (List.replicate (n + 1) '[' ++ tail).length + 2 := by
    simp only [List.length_append, List.length_replicate]
    omega
  have nested := bracketsNest long 0 tail
  rw [Nat.zero_add] at nested
  rw [List.replicate_succ, List.cons_append] at nested ⊢
  rw [readDocument, bracketSkipped, nested]
  · rfl
  · simp

end ClientGen.Json
