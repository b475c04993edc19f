import ClientGen.Yaml.Value
import ClientGen.Proofs.Yaml.Reading

/-! What reading a YAML text fails for: its grammar, a scalar without a value, or one of a few
causes that keep the value from being held at all. -/
namespace ClientGen.Yaml

def valueCauses : List Fault :=
  [.tooLarge, .endless, .outOfRange, .missingKey, .notAnObject, .wrongKind]

abbrev Valued {α : Type} (r : Result α) : Prop := Tells (Failure.Among valueCauses) r

theorem failsValued {α : Type} {cause : Fault} (known : cause ∈ valueCauses) :
    Valued (.error (.fault cause) : Result α) := known

theorem readIntegerValued (base : Nat) (s : List Char) : Valued (readInteger base s) := by
  unfold readInteger
  split
  · exact .branch (fun _ => trivial) fun _ => trivial
  · trivial

theorem takeSignValued (s : List Char) : Valued (takeSign s) := by
  unfold takeSign
  split
  · exact failsValued (by decide)
  all_goals trivial

theorem readIntValued (text : List Char) : Valued (readInt text) := by
  refine (takeSignValued _).bind fun p _ => ?_
  dsimp only
  split
  · exact failsValued (by decide)
  · trivial
  · exact (readIntegerValued _ _).bind fun _ _ => trivial
  · exact (readIntegerValued _ _).bind fun _ _ => trivial
  · exact (readIntegerValued _ _).bind fun _ _ => trivial
  · refine .branch (fun _ => ?_) fun _ => (readIntegerValued _ _).bind fun _ _ => trivial
    exact (Ends.mapM _ fun group _ => readIntegerValued 10 group).bind fun _ _ => trivial

theorem readDecimalValued (s : List Char) : Valued (readDecimal s) := by
  unfold readDecimal
  split <;> trivial

theorem sumOfSixtiesValued (power : Nat) (sum : Float) (groups : List Float) :
    Valued (sumOfSixties power sum groups) := by
  induction groups generalizing power sum with
  | nil => trivial
  | cons group rest ih =>
    refine .branch (fun _ => ?_) fun _ => ih _ _
    exact failsValued (by decide)

theorem readFloatValued (text : List Char) : Valued (readFloat text) := by
  refine (takeSignValued _).bind fun p _ => ?_
  refine .branch (fun _ => trivial) fun _ => .branch (fun _ => trivial) fun _ => ?_
  refine .branch (fun _ => ?_) fun _ => (readDecimalValued _).bind fun _ _ => trivial
  refine (Ends.mapM _ fun group _ => readDecimalValued group).bind fun _ _ => ?_
  exact (sumOfSixtiesValued _ _ _).bind fun _ _ => trivial

theorem readBoolValued (text : List Char) : Valued (readBool text) := by
  refine .branch (fun _ => trivial) fun _ => .branch (fun _ => trivial) fun _ => ?_
  exact failsValued (by decide)

theorem readDateValued (year month day : Nat) : Valued (readDate year month day) :=
  .branch (fun _ => trivial) fun _ => .branch (fun _ => trivial) fun _ =>
    .branch (fun _ => trivial) fun _ => trivial

theorem readZoneValued (s : List Char) : Valued (readZone s) := by
  unfold readZone
  split
  · trivial
  · refine .branch (fun _ => ?_) fun _ => trivial
    exact .branch (fun _ => trivial) fun _ => trivial
  · trivial

theorem readTimestampValued (s : List Char) : Valued (readTimestamp s) := by
  unfold readTimestamp
  dsimp only
  refine .branch (fun _ => ?_) fun _ => ?_
  · exact failsValued (by decide)
  split
  · exact (readDateValued _ _ _).bind fun _ _ => trivial
  · exact (readDateValued _ _ _).bind fun _ _ => trivial
  · generalize takeTwo (List.dropWhile isBlank _) = hour
    refine (readZoneValued _).bind fun _ _ => (readDateValued _ _ _).bind fun _ _ => ?_
    refine .branch (fun _ => trivial) fun _ => .branch (fun _ => trivial) fun _ => ?_
    exact .branch (fun _ => trivial) fun _ => trivial

theorem readBinaryValued (s : List Char) : Valued (readBinary s) := by
  refine .branch (fun _ => ?_) fun _ => trivial
  split <;> trivial

theorem scalarValueValued (tag text : String) : Valued (scalarValue tag text) := by
  refine .branch (fun _ => trivial) fun _ => .branch (fun _ => trivial) fun _ => ?_
  refine .branch (fun _ => (readBoolValued _).bind fun _ _ => trivial) fun _ => ?_
  refine .branch (fun _ => (readIntValued _).bind fun _ _ => trivial) fun _ => ?_
  refine .branch (fun _ => (readFloatValued _).bind fun _ _ => trivial) fun _ => ?_
  refine .branch (fun _ => readTimestampValued _) fun _ => ?_
  exact .branch (fun _ => (readBinaryValued _).bind fun _ _ => trivial) fun _ => trivial

namespace Graph

theorem flattenFromValued (fuel : Nat) (g : Graph) (v : Nat) (merged : List (Nat × Nat)) :
    Valued (g.flattenFrom fuel v merged) := by
  induction fuel generalizing g v merged with
  | zero => exact failsValued (by decide)
  | succ fuel ih =>
    simp only [flattenFrom]
    split
    · trivial
    · split
      · exact (ih _ _ _).bind fun _ _ => ih _ _ _
      · refine (Ends.foldlM _ (fun done item _ => ?_) _).bind fun _ _ => ih _ _ _
        exact .branch (fun _ => trivial) fun _ => (ih _ _ _).bind fun _ _ => trivial
      · trivial

theorem flattenedValued (g : Graph) (v : Nat) : Valued (g.flattened v) :=
  .branch (fun _ => flattenFromValued _ _ _ _) fun _ => trivial

theorem textFromValued (g : Graph) (fuel v : Nat) : Valued (g.textFrom fuel v) := by
  induction fuel generalizing v with
  | zero => exact failsValued (by decide)
  | succ fuel ih =>
    simp only [textFrom]
    split
    · trivial
    · split
      · exact ih _
      · trivial
    · trivial

end Graph

namespace Making

theorem scalarValued (m : Making) (v : Nat) : Valued (m.scalar v) := by
  refine (Graph.textFromValued _ _ _).bind fun text _ => ?_
  split
  · exact (scalarValueValued _ _).bind fun _ _ => trivial
  · refine .branch (fun _ => ?_) fun _ => (scalarValueValued _ _).bind fun _ _ => trivial
    exact failsValued (by decide)

theorem meetValued (m : Making) (v : Nat) : Valued (m.meet v) :=
  .branch (fun _ => trivial) fun _ => .branch (fun _ => scalarValued m v) fun _ =>
    .branch (fun _ => trivial) fun _ => .branch (fun _ => trivial) fun _ =>
      .branch (fun _ => trivial) fun _ => trivial

theorem meetItemsValued (m : Making) (items : List Nat) : Valued (m.meetItems items) := by
  induction items generalizing m with
  | nil => trivial
  | cons v rest ih => exact (meetValued m v).bind fun m _ => ih m

theorem meetEntriesValued (m : Making) (es : List (Nat × Nat)) : Valued (m.meetEntries es) := by
  induction es generalizing m with
  | nil => trivial
  | cons e rest ih =>
    refine (meetValued m e.1).bind fun m _ => .branch (fun _ => trivial) fun _ => ?_
    exact (meetValued m e.2).bind fun m _ => ih m

theorem meetPairsValued (m : Making) (items : List Nat) (done : List Node) :
    Valued (m.meetPairs items done) := by
  induction items generalizing m done with
  | nil => trivial
  | cons v rest ih =>
    unfold meetPairs
    split
    · exact (meetValued _ _).bind fun m _ => (meetValued m _).bind fun _ _ => ih _ _
    · trivial

theorem fillValued (m : Making) (v : Nat) : Valued (m.fill v) := by
  refine .branch (fun _ => ?_) fun _ => .branch (fun _ => ?_) fun _ => ?_
  · split
    · exact (meetItemsValued _ _).bind fun _ _ => trivial
    · trivial
  · split
    · exact (meetPairsValued _ _ _).bind fun _ _ => trivial
    · trivial
  · refine (Graph.flattenedValued _ _).bind fun g _ => ?_
    dsimp only
    split
    · exact (meetEntriesValued _ _).bind fun _ _ => trivial
    · trivial

theorem fillAllValued (generations : Nat) (m : Making) : Valued (fillAll generations m) := by
  induction generations generalizing m with
  | zero => trivial
  | succ generations ih =>
    refine .branch (fun _ => trivial) fun _ => ?_
    exact (Ends.foldlM _ (fun m v _ => fillValued m v) _).bind fun m _ => ih m

end Making

theorem tokensValued (s : List Char) :
    Ends (Failure.Among valueCauses) (BrokenAmong valueCauses) (tokens s) := by
  refine (tokensBroken s).imp ?_ fun ts known f held => (known f held).imp (by decide)
  rintro _ rfl
  trivial

theorem readValued (s : List Char) (levels : Levels) (sets : SetOrder) :
    Valued (read s levels sets) := by
  refine (tokensValued s).bind fun ts known => ?_
  refine (Reader.documentTells (by decide) known levels).bind fun outermost _ => ?_
  split
  · trivial
  · refine (Making.meetValued _ _).bind fun m _ => ?_
    exact (Making.fillAllValued _ m).bind fun _ _ => trivial

end ClientGen.Yaml
