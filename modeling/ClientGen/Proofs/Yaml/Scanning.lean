import ClientGen.Yaml.Token
import ClientGen.Proofs.Fault.Ending

/-! What scanning fails for. A text that has no tokens breaks the grammar; whatever else a scanner
meets becomes its last token, and no other token is broken. -/
namespace ClientGen.Yaml

def Failure.Among (causes : List Fault) : Failure → Prop
  | .fault cause => cause ∈ causes
  | _ => True

theorem Failure.Among.imp {causes more : List Fault} {f : Failure} (known : f.Among causes)
    (among : causes ⊆ more) : f.Among more := by
  cases f with
  | fault cause => exact among known
  | malformed => trivial
  | valueless detail => trivial

def scanCauses : List Fault := [.tooLarge]

abbrev Lexed {α : Type} (r : Result α) : Prop := Tells (Failure.Among scanCauses) r

theorem codeCharLexed (n : Nat) : Lexed (codeChar n) := by
  refine .branch (fun _ => List.mem_singleton_self _) fun _ => ?_
  exact .branch (fun _ => trivial) fun _ => trivial

theorem quotedBreaksLexed (fuel : Nat) (c : Cursor) (done : List Char) :
    Lexed (quotedBreaks fuel c done) := by
  induction fuel generalizing c done with
  | zero => trivial
  | succ fuel ih =>
    simp only [quotedBreaks]
    refine .branch (fun _ => trivial) fun _ => ?_
    split
    · trivial
    · exact ih _ _

theorem quotedGapLexed (c : Cursor) : Lexed (quotedGap c) := by
  unfold quotedGap
  dsimp only
  split
  · trivial
  · split
    · trivial
    · exact (quotedBreaksLexed _ _ _).bind fun _ _ => trivial

theorem quotedEscapeLexed (c : Cursor) : Lexed (quotedEscape c) := by
  unfold quotedEscape
  split
  · trivial
  · split
    · trivial
    · refine .branch (fun _ => trivial) fun _ => ?_
      split
      · trivial
      · exact (codeCharLexed _).bind fun _ _ => trivial
    · split
      · trivial
      · exact quotedBreaksLexed _ _ _

theorem quotedFromLexed (double : Bool) (fuel : Nat) (c : Cursor) (done : List Char) :
    Lexed (quotedFrom double fuel c done) := by
  induction fuel generalizing c done with
  | zero => trivial
  | succ fuel ih =>
    simp only [quotedFrom]
    split
    · trivial
    · refine .branch (fun _ => ih _ _) fun _ => ?_
      refine .branch (fun _ => trivial) fun _ => ?_
      refine .branch (fun _ => (quotedEscapeLexed _).bind fun _ _ => ih _ _) fun _ => ?_
      exact .branch (fun _ => (quotedGapLexed _).bind fun _ _ => ih _ _) fun _ => ih _ _

theorem ignoredLineLexed (c : Cursor) : Lexed (ignoredLine c) := by
  unfold ignoredLine
  refine .branch (fun _ => ?_) fun _ => trivial
  split <;> trivial

theorem blockIndicatorsLexed (c : Cursor) : Lexed (blockIndicators c) := by
  unfold blockIndicators
  split
  dsimp only
  split
  · trivial
  · exact .branch (fun _ => trivial) fun _ => trivial

theorem blockScalarLexed (folded : Bool) (indent : Int) (c : Cursor) :
    Lexed (blockScalar folded indent c) := by
  refine (blockIndicatorsLexed _).bind fun _ _ => ?_
  exact (ignoredLineLexed _).bind fun _ _ => trivial

theorem anchorNameLexed (c : Cursor) : Lexed (anchorName c) := by
  exact .branch (fun _ => trivial) fun _ => trivial

theorem addressEscapesLexed (fuel : Nat) (c : Cursor) (done : List UInt8) :
    Lexed (addressEscapes fuel c done) := by
  induction fuel generalizing c done with
  | zero => trivial
  | succ fuel ih =>
    unfold addressEscapes
    split
    · split
      · exact ih _ _
      · trivial
    · trivial
    · trivial

theorem addressFromLexed (fuel : Nat) (c : Cursor) (done : List Char) :
    Lexed (addressFrom fuel c done) := by
  induction fuel generalizing c done with
  | zero => trivial
  | succ fuel ih =>
    unfold addressFrom
    split
    · refine (addressEscapesLexed _ _ _).bind fun _ _ => ?_
      dsimp only
      split
      · exact ih _ _
      · trivial
    · exact .branch (fun _ => ih _ _) fun _ => trivial
    · trivial

theorem tagAddressLexed (c : Cursor) : Lexed (tagAddress c) :=
  (addressFromLexed _ _ _).bind fun _ _ => .branch (fun _ => trivial) fun _ => trivial

theorem tagHandleLexed (c : Cursor) : Lexed (tagHandle c) := by
  unfold tagHandle
  split
  · trivial
  · dsimp only
    split <;> trivial
  · trivial

theorem tagTextLexed (c : Cursor) : Lexed (tagText c) := by
  have closed (t : TagText) (c : Cursor) : Lexed
      (if endsEntry c.head then Pure.pure (t, c) else reject) :=
    .branch (fun _ => trivial) fun _ => trivial
  unfold tagText
  split
  · refine (tagAddressLexed _).bind fun _ _ => ?_
    exact .branch (fun _ => closed ⟨none, _⟩ _) fun _ => trivial
  · refine .branch (fun _ => closed ⟨none, "!"⟩ _) fun _ => .branch (fun _ => ?_) fun _ => ?_
    · refine (tagHandleLexed _).bind fun handle _ => ?_
      exact (tagAddressLexed _).bind fun address _ => closed ⟨some handle.1, address.1⟩ address.2
    · exact (tagAddressLexed _).bind fun address _ => closed ⟨some "!", address.1⟩ address.2

theorem versionNumberLexed (c : Cursor) : Lexed (versionNumber c) := by
  refine .branch (fun _ => trivial) fun _ => ?_
  exact .branch (fun _ => trivial) fun _ => trivial

theorem directiveLexed (c : Cursor) : Lexed (directive c) := by
  have closed (p : Directive × Cursor) :
      Lexed (do let c ← ignoredLine p.2; return (p.1, c)) :=
    (ignoredLineLexed _).bind fun _ _ => trivial
  unfold directive
  dsimp only
  refine .branch (fun _ => trivial) fun _ => ?_
  refine .branch (fun _ => ?_) fun _ => .branch (fun _ => ?_) fun _ => closed (.other, _)
  · refine (versionNumberLexed _).bind fun _ _ => .branch (fun _ => trivial) fun _ => ?_
    exact (versionNumberLexed _).bind fun _ _ =>
      .branch (fun _ => trivial) fun _ => closed (.version _, _)
  · refine (tagHandleLexed _).bind fun _ _ => .branch (fun _ => trivial) fun _ => ?_
    exact (tagAddressLexed _).bind fun _ _ =>
      .branch (fun _ => trivial) fun _ => closed (.tagLead _ _, _)

/-- No token but the last of a text marks a value that cannot be. -/
def Unbroken (tokens : Array Token) : Prop := ∀ f, .broken f ∉ tokens

namespace Scanner

variable {s : Scanner}

@[simp] theorem pushUnbroken (t : Token) :
    Unbroken (s.push t).tokens ↔ Unbroken s.tokens ∧ ∀ f, t ≠ .broken f := by
  simp only [Unbroken, push, Array.mem_push]
  grind

theorem insertUnbroken {tokens : Array Token} {t : Token} (position : Nat)
    (unbroken : Unbroken tokens) (plain : ∀ f, t ≠ .broken f) :
    Unbroken (tokens.insertIdx! position t) := by
  intro f held
  unfold Array.insertIdx! at held
  split at held
  · rcases Array.mem_insertIdx.mp held with same | before
    · exact plain f same.symm
    · exact unbroken f before
  · exact Array.not_mem_empty _ held

abbrev Scanned (r : Result Scanner) : Prop :=
  Ends (Failure.Among scanCauses) (fun s => Unbroken s.tokens) r

theorem skipToTokenTokens (fuel : Nat) (s : Scanner) : (s.skipToToken fuel).tokens = s.tokens := by
  induction fuel generalizing s with
  | zero => rfl
  | succ fuel ih =>
    simp only [skipToToken]
    split
    · exact ih _
    · rfl

theorem skipMarkTokens (s : Scanner) : s.skipByteOrderMark.tokens = s.tokens := by
  unfold skipByteOrderMark
  split <;> rfl

theorem dropStaleScanned (unbroken : Unbroken s.tokens) : Scanned s.dropStaleKeys :=
  .branch (fun _ => trivial) fun _ => unbroken

theorem forgetScanned (unbroken : Unbroken s.tokens) : Scanned s.forgetKey :=
  .branch (fun _ => trivial) fun _ => unbroken

theorem allowForgetScanned {allowed : Bool} (unbroken : Unbroken s.tokens) :
    Scanned (s.allowKey allowed).forgetKey :=
  forgetScanned unbroken

theorem rememberScanned (unbroken : Unbroken s.tokens) : Scanned s.rememberKey :=
  .branch (fun _ => (forgetScanned unbroken).bind fun _ kept => kept) fun _ => unbroken

theorem closeIndentsUnbroken (column : Int) (fuel : Nat) (unbroken : Unbroken s.tokens) :
    Unbroken (s.closeIndents column fuel).tokens := by
  induction fuel generalizing s with
  | zero => exact unbroken
  | succ fuel ih =>
    simp only [closeIndents]
    split
    · exact ih ((pushUnbroken _).mpr ⟨unbroken, by simp⟩)
    · exact unbroken

theorem unwindUnbroken (column : Int) (unbroken : Unbroken s.tokens) :
    Unbroken (s.unwind column).tokens := by
  unfold unwind
  split
  · exact unbroken
  · exact closeIndentsUnbroken _ _ unbroken

theorem openUnbroken {t : Token} (column position : Nat) (unbroken : Unbroken s.tokens)
    (plain : ∀ f, t ≠ .broken f) : Unbroken (s.openAt column t position).tokens := by
  unfold openAt
  split
  · exact insertUnbroken _ unbroken plain
  · exact unbroken

theorem unwoundForgetScanned (column : Int) (unbroken : Unbroken s.tokens) :
    Scanned (s.unwind column).forgetKey :=
  forgetScanned (unwindUnbroken column unbroken)

variable (unbroken : Unbroken s.tokens)
include unbroken

theorem pushed {t : Token} (plain : ∀ f, t ≠ .broken f) : Unbroken (s.push t).tokens :=
  (pushUnbroken t).mpr ⟨unbroken, plain⟩

theorem scanMarkerScanned {t : Token} (plain : ∀ f, t ≠ .broken f) : Scanned (s.scanMarker t) :=
  (unwoundForgetScanned _ unbroken).bind fun _ kept => pushed kept plain

theorem openFlowScanned {t : Token} (plain : ∀ f, t ≠ .broken f) : Scanned (s.openFlow t) :=
  (rememberScanned unbroken).bind fun _ kept => pushed kept plain

theorem closeFlowScanned {t : Token} (plain : ∀ f, t ≠ .broken f) : Scanned (s.closeFlow t) :=
  (forgetScanned unbroken).bind fun _ kept => pushed kept plain

theorem scanDirectiveScanned : Scanned s.scanDirective :=
  (unwoundForgetScanned _ unbroken).bind fun _ kept =>
    (directiveLexed _).bind fun _ _ => pushed kept (by simp)

theorem openedScanned {t : Token} (opened : ∀ f, t ≠ .broken f) :
    Unbroken (if s.inFlow then s else s.openAt s.cursor.column t s.tokens.size).tokens := by
  split
  · exact unbroken
  · exact openUnbroken _ _ unbroken opened

theorem scanBlockEntryScanned : Scanned s.scanBlockEntry := by
  have opened := openedScanned unbroken (t := .blockSequenceStart) (by simp)
  refine .branch (fun _ => trivial) fun _ => ?_
  exact (allowForgetScanned opened).bind fun _ kept => pushed kept (by simp)

theorem scanKeyScanned : Scanned s.scanKey := by
  have opened := openedScanned unbroken (t := .blockMappingStart) (by simp)
  refine .branch (fun _ => trivial) fun _ => ?_
  exact (allowForgetScanned opened).bind fun _ kept => pushed kept (by simp)

theorem scanValueScanned : Scanned s.scanValue := by
  unfold scanValue
  split
  next place _ =>
    have keyed : Unbroken (s.tokens.insertIdx! place.position .key) :=
      insertUnbroken _ unbroken (by simp)
    refine pushed (s := allowKey _ false) ?_ (by simp)
    dsimp only [allowKey]
    split
    · exact keyed
    · exact openUnbroken _ _ keyed (by simp)
  next =>
    have opened := openedScanned unbroken (t := .blockMappingStart) (by simp)
    refine .branch (fun _ => trivial) fun _ => ?_
    exact (allowForgetScanned opened).bind fun _ kept => pushed kept (by simp)

theorem scanAliasScanned : Scanned s.scanAlias :=
  (rememberScanned unbroken).bind fun _ kept =>
    (anchorNameLexed _).bind fun _ _ => pushed kept (by simp)

theorem scanAnchorScanned : Scanned s.scanAnchor :=
  (rememberScanned unbroken).bind fun _ kept =>
    (anchorNameLexed _).bind fun _ _ => pushed kept (by simp)

theorem scanTagScanned : Scanned s.scanTag :=
  (rememberScanned unbroken).bind fun _ kept =>
    (tagTextLexed _).bind fun _ _ => pushed kept (by simp)

theorem scanBlockScanned (folded : Bool) : Scanned (s.scanBlock folded) :=
  (allowForgetScanned unbroken).bind fun _ kept =>
    (blockScalarLexed _ _ _).bind fun _ _ => pushed kept (by simp)

theorem scanQuotedScanned (double : Bool) : Scanned (s.scanQuoted double) :=
  (rememberScanned unbroken).bind fun _ kept =>
    (quotedFromLexed _ _ _ _).bind fun _ _ => pushed kept (by simp)

theorem scanPlainScanned : Scanned s.scanPlain :=
  (rememberScanned unbroken).bind fun _ kept => pushed kept (by simp)

theorem scanOtherScanned (x : Char) : Scanned (s.scanOther x) := by
  refine .branch (fun _ => scanBlockEntryScanned unbroken) fun _ => ?_
  refine .branch (fun _ => scanKeyScanned unbroken) fun _ => ?_
  refine .branch (fun _ => scanValueScanned unbroken) fun _ => ?_
  split
  · exact scanAliasScanned unbroken
  · exact scanAnchorScanned unbroken
  · exact scanTagScanned unbroken
  · exact scanQuotedScanned unbroken false
  · exact scanQuotedScanned unbroken true
  · refine .branch (fun _ => scanBlockScanned unbroken false) fun _ => ?_
    refine .branch (fun _ => scanBlockScanned unbroken true) fun _ => ?_
    exact .branch (fun _ => scanPlainScanned unbroken) fun _ => trivial

theorem nextScanned : Scanned s.next := by
  have skipped : Unbroken
      ((s.skipByteOrderMark).skipToToken (s.cursor.rest.length + 1)).tokens := by
    rw [skipToTokenTokens, skipMarkTokens]
    exact unbroken
  refine (dropStaleScanned skipped).bind fun s unbroken => ?_
  have unwound := unwindUnbroken s.cursor.column unbroken
  dsimp only
  split
  · exact (unwoundForgetScanned _ unwound).bind fun _ kept => kept
  · refine .branch (fun _ => scanDirectiveScanned unwound) fun _ => ?_
    refine .branch (fun _ => scanMarkerScanned unwound (by simp)) fun _ => ?_
    refine .branch (fun _ => scanMarkerScanned unwound (by simp)) fun _ => ?_
    split
    · exact openFlowScanned unwound (by simp)
    · exact openFlowScanned unwound (by simp)
    · exact closeFlowScanned unwound (by simp)
    · exact closeFlowScanned unwound (by simp)
    · exact (allowForgetScanned unwound).bind fun _ kept => pushed kept (by simp)
    · exact scanOtherScanned unwound _

end Scanner

def BrokenAmong (causes : List Fault) (tokens : List Token) : Prop :=
  ∀ f, .broken f ∈ tokens → f.Among causes

theorem runBroken (fuel : Nat) (s : Scanner) (unbroken : Unbroken s.tokens) :
    Ends (· = .malformed) (BrokenAmong scanCauses) (s.run fuel) := by
  induction fuel generalizing s with
  | zero => rfl
  | succ fuel ih =>
    have scanned := Scanner.nextScanned unbroken
    simp only [Scanner.run]
    split
    next => rfl
    next failure _ ended =>
      intro f held
      rcases List.mem_append.mp held with before | last
      · exact absurd (Array.mem_toList_iff.mp (List.mem_of_mem_take before)) (unbroken f)
      · obtain rfl : f = failure := by simpa using last
        exact scanned.ofError ended
    next s' ended =>
      rw [ended] at scanned
      refine .branch (fun _ => ?_) fun _ => ih s' scanned
      exact fun f held => absurd (Array.mem_toList_iff.mp held) (scanned f)

theorem tokensBroken (s : List Char) :
    Ends (· = .malformed) (BrokenAmong scanCauses) (tokens s) :=
  .branch (fun _ => runBroken _ _ fun _ => Array.not_mem_empty _) fun _ => rfl

end ClientGen.Yaml
