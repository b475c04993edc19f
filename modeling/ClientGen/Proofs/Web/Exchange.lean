import ClientGen.Web.Exchange
import ClientGen.Proofs.Fault.Ending

/-! What may end an exchange without being part of it. -/
namespace ClientGen.Web

def exchangeCauses : List Fault :=
  [.invalidAddress, .invalidValue, .notAscii, .unmarkedUnits, .badName .malformed,
    .badName .letter, .badName .context, .badName .direction]

def Stop.Among (table : Table) : Stop → Prop
  | .failed _ => True
  | .fault cause => cause ∈ exchangeCauses ∨ ∃ address, table.lookup address = some (.fault cause)

variable (table : Table)

abbrev Exchanged {α : Type} (r : Exchanging α) : Prop := Tells (Stop.Among table) r

variable {table}

theorem failsExchanged {α : Type} {cause : Fault} (known : cause ∈ exchangeCauses) :
    Exchanged table (.error (.fault cause) : Exchanging α) := .inl known

theorem regularExchanged (r : Reading Url) : Exchanged table (regular r) := by
  cases r with
  | error flaw => exact failsExchanged (by decide)
  | ok u => trivial

theorem hostExchanged (u : Url) : Exchanged table (hostOf u) := by
  unfold hostOf
  split
  · trivial
  next flaw _ => cases flaw <;> exact failsExchanged (by decide)

theorem joinedExchanged (base u : Url) : Exchanged table (joined base u) := by
  unfold joined
  split
  · exact regularExchanged _
  · exact failsExchanged (by decide)

theorem redirectedExchanged (base : Url) (location : List Char) :
    Exchanged table (redirected base location) := by
  unfold redirected
  dsimp only
  split
  case h_2 => trivial
  refine (Ends.tellsPure _).bind fun u _ => ?_
  refine .branch (fun _ => (Ends.tellsPure u).bind fun u _ => ?_) fun _ =>
    (hostExchanged u).bind fun host _ => ?_
  case' refine_2 =>
    refine .branch (fun _ => (hostExchanged base).bind fun _ _ =>
      (regularExchanged _).bind fun u _ => ?_) fun _ => (Ends.tellsPure u).bind fun u _ => ?_
  -- whatever address has been taken, it is made absolute and keeps the fragment
  all_goals
    refine .jump (.branch (fun _ => Ends.tellsPure _) fun _ => joinedExchanged _ _) fun u _ => ?_
    refine .jump (.branch (fun _ => regularExchanged _) fun _ => Ends.tellsPure _) fun u _ => ?_
    exact (hostExchanged _).bind fun _ _ => trivial

theorem contentExchanged (r : Response) (bytes : List UInt8) (address : String) :
    Exchanged table (content r bytes address) := by
  refine .branch (fun _ => ?_) fun _ => trivial
  split
  · trivial
  · exact failsExchanged (by decide)

theorem answerExchanged (u : Url) : Exchanged table (answer table u) := by
  unfold answer
  split
  · trivial
  · trivial
  next cause found => exact .inr ⟨_, found⟩
  · refine .branch (fun _ => failsExchanged (by decide)) fun _ => ?_
    split
    · trivial
    · exact .branch (fun _ => failsExchanged (by decide)) fun _ => trivial

theorem fetchFromExchanged (redirects : Nat) (u : Url) :
    Exchanged table (fetchFrom table redirects u).2 := by
  induction redirects generalizing u with
  | zero => trivial
  | succ redirects ih =>
    simp only [fetchFrom]
    split
    next stop ended => exact (answerExchanged u).ofError ended
    next r bytes ended =>
      split
      · exact contentExchanged _ _ _
      · split
        next stop ended => exact (redirectedExchanged _ _).ofError ended
        · exact ih _

theorem fetchExchanged (address : String) : Exchanged table (fetch table address).2 := by
  have asked : Exchanged table (first address) :=
    (regularExchanged _).bind fun _ _ => (hostExchanged _).bind fun _ _ => trivial
  unfold fetch
  split
  next stop ended => exact asked.ofError ended
  · exact fetchFromExchanged _ _

end ClientGen.Web
