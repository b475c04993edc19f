import ClientGen.Proofs.Text.Wrapping
import ClientGen.Template.Filter

/-! What the filters that lay a text out make of it. A width is counted up to a bound, and wrapping
returns exactly for the widths below. -/
namespace ClientGen.Template.Filter
open Text (splitAt joinWith Relaid Overhangs Begins)

theorem digitsCounted (width : Nat) :
    (Nat.toDigits 10 width).foldl (fun n d => n * 10 + (d.toNat - 48)) 0 = width := by
  have each : (fun (n : Nat) (d : Char) => n * 10 + (d.toNat - 48)) =
      fun n d => 10 * n + (d.toNat - '0'.toNat) := by
    funext n d
    rw [Nat.mul_comm]
    rfl
  rw [each]
  exact Nat.ofDigitChars_toDigits (by decide) (by decide)

theorem digitCount {n k : Nat} (positive : 0 < k) :
    (Nat.toDigits 10 n).length ≤ k ↔ n < Nat.pow 10 k :=
  Nat.length_toDigits_le_iff (by decide) positive

theorem longDigits (n : Nat) :
    Node.isLong n = true ↔ 4300 < (Nat.toDigits 10 n).length := by
  have more {k : Nat} (positive : 0 < k) :
      decide (Nat.pow 10 k ≤ (n : Int).natAbs) = true ↔ k < (Nat.toDigits 10 n).length := by
    rw [decide_eq_true_iff, Int.natAbs_natCast, ← Nat.not_lt, ← digitCount positive, Nat.not_le]
  unfold Node.isLong
  apply more
  decide

theorem widthRead {width : Nat} (positive : 0 < width) (short : Node.isLong width = false) :
    widthOf (toString (width : Int)).toList =
      if width < widthBound then .ok (.given width) else .error .tooLarge := by
  have digits : (toString (width : Int)).toList = Nat.toDigits 10 width := Nat.toList_repr
  have some : (Nat.toDigits 10 width).isEmpty = false := by
    rw [List.isEmpty_eq_false_iff]
    exact List.ne_nil_of_length_pos Nat.length_toDigits_pos
  have all : (Nat.toDigits 10 width).all Text.isAsciiDigit = true := by
    rw [List.all_eq_true]
    intro c member
    have digit := Nat.isDigit_of_mem_toDigits (by decide) (by decide) member
    simpa [Char.isDigit, Text.isAsciiDigit, Char.le_def] using digit
  have count : ¬4300 < (Nat.toDigits 10 width).length := by
    rw [← longDigits, short]
    exact Bool.false_ne_true
  unfold widthOf
  simp only [digits, some, all, count, digitsCounted, Nat.ne_of_gt positive, if_true, if_false,
    Bool.false_eq_true]
  by_cases bound : width < widthBound
  · rw [if_neg (Nat.not_le.mpr bound), if_pos bound]
    rfl
  · rw [if_pos (Nat.not_lt.mp bound), if_neg bound]

theorem intPlain (n : Int) : (Node.int n).plainText = toString n := String.ofList_toList

theorem shortShown {n : Int} (short : Node.isLong n = false) :
    shownText (.int n) = .ok (toString n) := by
  rw [shownText, if_pos (by simp [Node.writable, short]), intPlain]

theorem wrapShown {width : Nat} (positive : 0 < width) (short : Node.isLong width = false)
    (n : Node) : wrap n (.int width) =
      (do
        let s ← shownText n
        if width < widthBound then return String.ofList (Text.wrap width s.toList)
        else .error .tooLarge) := by
  unfold wrap
  rw [shortShown short]
  cases shownText n with
  | error fault => rfl
  | ok s =>
    simp only [bind, Except.bind, wrapText, widthRead positive short]
    by_cases bound : width < widthBound
    · simp only [if_pos bound, pure, Except.pure]
    · simp only [if_neg bound]

theorem wrapBounded {width : Nat} (positive : 0 < width) (bound : width < widthBound) (n : Node) :
    wrap n (.int width) =
      (do
        let s ← shownText n
        return String.ofList (Text.wrap width s.toList)) := by
  have digits : (Nat.toDigits 10 width).length ≤ 10 :=
    (digitCount (by decide)).mpr (Nat.lt_trans bound (by decide))
  have short : Node.isLong width = false := by
    rw [Bool.eq_false_iff, ne_eq, longDigits, Nat.not_lt]
    exact digits.trans (by decide)
  simp only [wrapShown positive short, if_pos bound]

theorem wrapUnbounded {width : Nat} (beyond : widthBound ≤ width) (n : Node) (wrapped : String) :
    wrap n (.int width) ≠ .ok wrapped := by
  have positive : 0 < width := Nat.lt_of_lt_of_le (by decide) beyond
  cases short : Node.isLong width with
  | true => simp [wrap, shownText, Node.writable, short, bind, Except.bind]
  | false =>
    rw [wrapShown positive short]
    cases shownText n <;> simp [Nat.not_lt.mpr beyond, bind, Except.bind]

theorem wrapReturns {width : Nat} (positive : 0 < width) {text wrapped : String} :
    wrap (.str text) (.int width) = .ok wrapped ↔
      width < widthBound ∧ wrapped = String.ofList (Text.wrap width text.toList) := by
  by_cases bound : width < widthBound
  · have shows : shownText (.str text) = .ok text := rfl
    simp [wrapBounded positive bound, shows, bound, bind, Except.bind, pure, Except.pure, eq_comm]
  · simp [wrapUnbounded (Nat.not_lt.mp bound), bound]

theorem wrapYields {width : Nat} (positive : 0 < width) {text : String} {Laid : String → Prop} :
    (∃ wrapped, wrap (.str text) (.int width) = .ok wrapped ∧ Laid wrapped) ↔
      width < widthBound ∧ Laid (String.ofList (Text.wrap width text.toList)) := by
  simp only [wrapReturns positive, and_assoc, exists_and_left, exists_eq_left]

theorem marginWhole (s : List Char) (lead : String) : marginText s (.ok lead) (.int 0) =
    .ok (String.ofList (Text.withMargin lead.toList 0 s)) := by
  simp only [marginText, firstLine?, bind, Except.bind,
    if_neg (Int.not_lt.mpr (Int.natCast_nonneg (s.count '\n')))]
  rfl

theorem marginReturns {s lead : String} : margin (.str s) (.str lead) (.int 0) =
    .ok (String.ofList (Text.withMargin lead.toList 0 s.toList)) :=
  marginWhole s.toList lead

variable {width : Nat}

-- With words that fit, a line is within the width, or a blank that begins the text or stands behind
-- another begins the line, and one word fills the width behind it.
theorem linesWithin (positive : 0 < width) {text : String}
    (fit : ∀ word ∈ Text.words text.toList, word.length ≤ width) :
    (∃ wrapped, wrap (.str text) (.int width) = .ok wrapped ∧
      ∀ line ∈ splitAt '\n' wrapped.toList,
        line.length ≤ width ∨ Overhangs width line ∧ Begins text.toList line) ↔
    width < widthBound := by
  rw [wrapYields positive]
  refine and_iff_left ?_
  rw [String.toList_ofList]
  exact Text.wrapLines positive fit

theorem wordsBehindBlanks :
    (∀ word ∈ Text.words "bb aaa  c  aaa".toList, word.length ≤ 3) ∧
    ∃ wrapped, wrap (.str "bb aaa  c  aaa") (.int 3) = .ok wrapped ∧
      ∀ line ∈ splitAt '\n' wrapped.toList,
        line.length ≤ 3 ∨ Overhangs 3 line ∧ Begins "bb aaa  c  aaa".toList line := by
  have fit : ∀ word ∈ Text.words "bb aaa  c  aaa".toList, word.length ≤ 3 := by decide
  exact ⟨fit, (linesWithin (by decide) fit).mpr (by decide)⟩

-- No line is broken at the blank that begins it.
theorem leadingBlankOverhangs :
    (∀ word ∈ Text.words " aaa".toList, word.length ≤ 3) ∧
    wrap (.str " aaa") (.int 3) = .ok " aaa" ∧
    ¬∀ line ∈ splitAt '\n' " aaa".toList, line.length ≤ 3 :=
  ⟨by decide, (wrapReturns (by decide)).mpr ⟨by decide, by decide⟩, by decide⟩

-- A wrapped text is not wrapped further, and short lines are left as they are.
theorem wrappingSettles (positive : 0 < width) (text : String) :
    (∃ wrapped, wrap (.str text) (.int width) = .ok wrapped ∧
      wrap (.str wrapped) (.int width) = .ok wrapped ∧
      ((∀ line ∈ splitAt '\n' text.toList, line.length ≤ width) → wrapped = text)) ↔
    width < widthBound := by
  rw [wrapYields positive]
  refine and_iff_left_of_imp fun bound => ⟨?_, fun short => ?_⟩
  · rw [wrapReturns positive, String.toList_ofList, Text.wrapAgain]
    exact ⟨bound, rfl⟩
  · rw [Text.wrapShort short, String.ofList_toList]

theorem longWordSettles : ∃ wrapped, wrap (.str "a bbbbbb\n c d ") (.int 3) = .ok wrapped ∧
    wrap (.str wrapped) (.int 3) = .ok wrapped ∧
    ((∀ line ∈ splitAt '\n' "a bbbbbb\n c d ".toList, line.length ≤ 3) →
      wrapped = "a bbbbbb\n c d ") :=
  (wrappingSettles (by decide) _).mpr (by decide)

-- A width that cannot be counted up to lays out no text, however short.
theorem widestRefused :
    (∀ line ∈ splitAt '\n' "a".toList, line.length ≤ 4294967295) ∧
    ¬wrap (.str "a") (.int (4294967295 : Nat)) = .ok "a" := by
  refine ⟨by decide, fun returns => ?_⟩
  exact absurd ((wrapReturns (by decide)).mp returns).1 (by decide)

-- A text that is laid out with a margin is the text itself, with line ends in the place of blanks.
theorem layoutLossless (positive : 0 < width) (text : String) {lead : String}
    (single : '\n' ∉ lead.toList) :
    (∃ wrapped emitted, wrap (.str text) (.int width) = .ok wrapped ∧
      margin (.str wrapped) (.str lead) (.int 0) = .ok emitted ∧
      (∀ line ∈ splitAt '\n' emitted.toList, lead.toList <+: line) ∧
      List.Forall₂ Relaid text.toList
        (joinWith ['\n'] ((splitAt '\n' emitted.toList).map (·.drop lead.toList.length)))) ↔
    width < widthBound := by
  simp only [exists_and_left]
  rw [wrapYields positive]
  refine and_iff_left ⟨_, marginReturns, ?_⟩
  rw [String.toList_ofList, String.toList_ofList, Text.withMarginCut single, Text.marginDropped,
    Text.joinSplitAt]
  refine ⟨fun line member => ?_, Text.wrapRelaid width text.toList⟩
  obtain ⟨own, _, rfl⟩ := List.mem_map.mp member
  exact List.prefix_append lead.toList own

theorem remarkLossless : '\n' ∉ "# ".toList ∧
    ∃ wrapped emitted, wrap (.str "one  two\r\nthree\n") (.int 4) = .ok wrapped ∧
      margin (.str wrapped) (.str "# ") (.int 0) = .ok emitted ∧
      (∀ line ∈ splitAt '\n' emitted.toList, "# ".toList <+: line) ∧
      List.Forall₂ Relaid "one  two\r\nthree\n".toList
        (joinWith ['\n'] ((splitAt '\n' emitted.toList).map (·.drop 2))) :=
  ⟨by decide, (layoutLossless (by decide) _ (by decide)).mpr (by decide)⟩

theorem widestRemarkRefused :
    ¬∃ wrapped emitted, wrap (.str "a") (.int (4294967295 : Nat)) = .ok wrapped ∧
      margin (.str wrapped) (.str "# ") (.int 0) = .ok emitted := by
  rintro ⟨wrapped, _, returns, _⟩
  exact absurd ((wrapReturns (by decide)).mp returns).1 (by decide)

end ClientGen.Template.Filter
