import ClientGen.Proofs.Text.Closing
import ClientGen.Proofs.View.Complete

/-! Whether what the document says stays inside the comments of a source file. A comment between
marks ends where its template ends it exactly if no text in it holds the mark that ends it. A
comment with a mark on every line keeps its text exactly if no carriage return leads out of it. -/
namespace ClientGen
open Template (Wording)
open Text (Blankwise blockEnd? quotedEnd?)

namespace Passage

variable {language : Language}

def bodyText (body : List (Wording × Char)) : List Char := body.flatMap fun e => e.1.text ++ [e.2]

def Confined : Passage → Prop
  | .code _ => True
  | .comment .block body => ∀ rest,
    blockEnd? (bodyText body ++ CommentKind.block.closing.toList ++ rest) = some rest
  | .comment .docstring body => ∀ rest,
    quotedEnd? (bodyText body ++ CommentKind.docstring.closing.toList ++ rest) = some rest
  | .comment .marked body => ∀ line ∈ Text.physicalLines (bodyText body), Text.isMarked line = true

def Tame (kind : CommentKind) (w : Wording) (n : Node) : Prop :=
  match kind, w with
  | .block, _ => blockEnd? n.plainText.toList = none
  | .docstring, _ => quotedEnd? n.plainText.toList = none
  | .marked, .laidOut width _ _ =>
    ∀ line ∈ Text.splitAt '\n' (Text.wrap width n.plainText.toList), Text.returnsMarked line = true
  | .marked, _ => True

def Harmless : Passage → Prop
  | .code _ => True
  | .comment kind body => ∀ e ∈ body, ∀ n, e.1.value? = some n → Tame kind e.1 n

section Between

variable {f : List Char → Option (List Char)}

theorem bodyOpen (blankwise : Blankwise f) {body : List (Wording × Char)}
    (blanks : ∀ e ∈ body, Text.isSpace e.2 = true) (t : List Char) :
    (∀ e ∈ body, f e.1.text = none) ∧ f (bodyText body ++ t) = f t ∨
      (∃ e ∈ body, f e.1.text ≠ none) ∧ ∃ c r, f (bodyText body ++ t) = some (c :: r ++ t) := by
  induction body with
  | nil => exact .inl ⟨fun _ => nofun, rfl⟩
  | cons e rest ih =>
    obtain ⟨blank, blanks⟩ := List.forall_mem_cons.mp blanks
    have first : f (bodyText (e :: rest) ++ t) =
        (f e.1.text).elim (f (bodyText rest ++ t))
          fun r => some (r ++ e.2 :: (bodyText rest ++ t)) := by
      rw [← blankwise.2 _ _ _ blank]
      simp [bodyText]
    cases own : f e.1.text with
    | none =>
      rw [first, own]
      rcases ih blanks with ⟨closed, same⟩ | ⟨⟨e', member, ends⟩, found⟩
      · exact .inl ⟨List.forall_mem_cons.mpr ⟨own, closed⟩, same⟩
      · exact .inr ⟨⟨e', List.mem_cons_of_mem e member, ends⟩, found⟩
    | some r =>
      rw [first, own]
      refine .inr ⟨⟨e, List.mem_cons_self, by simp [own]⟩, ?_⟩
      cases r with
      | nil => exact ⟨e.2, bodyText rest, by simp⟩
      | cons c r => exact ⟨c, r ++ e.2 :: bodyText rest, by simp⟩

theorem betweenConfined (blankwise : Blankwise f) {closing : List Char}
    (ends : ∀ rest, f (closing ++ rest) = some rest) {body : List (Wording × Char)}
    (blanks : ∀ e ∈ body, Text.isSpace e.2 = true) :
    (∀ rest, f (bodyText body ++ closing ++ rest) = some rest) ↔
      ∀ e ∈ body, f e.1.text = none := by
  simp only [List.append_assoc]
  constructor
  · intro confined
    rcases bodyOpen blankwise blanks (closing ++ []) with ⟨closed, _⟩ | ⟨_, c, r, found⟩
    · exact closed
    · have given := confined []
      rw [found] at given
      simp at given
  · intro closed rest
    rcases bodyOpen blankwise blanks (closing ++ rest) with ⟨_, same⟩ | ⟨⟨e, member, ends⟩, _⟩
    · rw [same, ends]
    · exact absurd (closed e member) ends

def Spaced (f : List Char → Option (List Char)) (e : Wording × Char) : Prop :=
  Text.isSpace e.2 = true ∧ match e.1 with
    | .own s => f s.toList = none
    | .value _ => True
    | .laidOut _ margin _ => ∃ m, margin.toList = m ++ [' '] ∧ f m = none

theorem spacedOpen (blankwise : Blankwise f) {e : Wording × Char} (spaced : Spaced f e) :
    f e.1.text = none ↔ ∀ n, e.1.value? = some n → f n.plainText.toList = none := by
  obtain ⟨w, gap⟩ := e
  obtain ⟨_, free⟩ := spaced
  cases w with
  | own s => simpa [Wording.text, Wording.value?] using free
  | value n => simp [Wording.text, Wording.value?]
  | laidOut width margin n =>
    obtain ⟨m, ends, free⟩ := free
    simp [Wording.text, Wording.value?, ends, Text.openLaidOut blankwise width free]

end Between

def Marking (margin : List Char) : Prop :=
  (∀ s, Text.isMarked (margin ++ s) = true) ∧ '\r' ∉ margin ∧ '\n' ∉ margin

def Even : Passage → Prop
  | .code _ => True
  | .comment .block body => ∀ e ∈ body, Spaced blockEnd? e
  | .comment .docstring body => ∀ e ∈ body, Spaced quotedEnd? e
  | .comment .marked body => ∃ width margin n,
    body = [(.laidOut width margin n, '\n')] ∧ Marking margin.toList

theorem evenConfined {p : Passage} (even : p.Even) : p.Confined ↔ p.Harmless := by
  cases p with
  | code ws => exact Iff.rfl
  | comment kind body =>
    cases kind with
    | block =>
      rw [Confined, betweenConfined Text.blockBlankwise (by simp [CommentKind.closing, blockEnd?])
        fun e member => (even e member).1]
      exact forall₂_congr fun e member => spacedOpen Text.blockBlankwise (even e member)
    | docstring =>
      rw [Confined, betweenConfined Text.quotedBlankwise
        (by simp [CommentKind.closing, quotedEnd?]) fun e member => (even e member).1]
      exact forall₂_congr fun e member => spacedOpen Text.quotedBlankwise (even e member)
    | marked =>
      obtain ⟨width, margin, n, rfl, marks, plain⟩ := even
      have text : bodyText [(.laidOut width margin n, '\n')] =
          Text.withMargin margin.toList 0 (Text.wrap width n.plainText.toList) ++ ['\n'] := by
        simp [bodyText, Wording.text]
      rw [Confined, text, Text.laidOutMarked marks plain]
      simp [Harmless, Tame, Wording.value?]

section Written

variable {f : List Char → Option (List Char)} {gap : Char}

theorem spacedOwn (blank : Text.isSpace gap = true) (s : String) (free : f s.toList = none) :
    Spaced f (.own s, gap) := ⟨blank, free⟩

theorem spacedValue (blank : Text.isSpace gap = true) (n : Node) :
    Spaced f (.value n, gap) := ⟨blank, trivial⟩

theorem spacedLaidOut (blank : Text.isSpace gap = true) (width : Nat) {margin : String}
    (m : List Char) (ends : margin.toList = m ++ [' ']) (free : f m = none) (n : Node) :
    Spaced f (.laidOut width margin n, gap) := ⟨blank, m, ends, free⟩

theorem spacedPair {a b : Wording × Char} (first : Spaced f a) (second : Spaced f b) :
    ∀ e ∈ [a, b], Spaced f e :=
  List.forall_mem_cons.mpr ⟨first, List.forall_mem_singleton.mpr second⟩

theorem spacedIf {c : Prop} [Decidable c] {body : List (Wording × Char)}
    (spaced : ∀ e ∈ body, Spaced f e) : ∀ e ∈ if c then body else [], Spaced f e := by
  split
  · exact spaced
  · exact fun _ => nofun

end Written

theorem fieldRemarkEven (f : FieldView) : (f.remark language).Even := by
  cases language with
  | typescript =>
    exact List.forall_mem_cons.mpr ⟨spacedOwn rfl _ rfl, spacedPair
      (spacedLaidOut rfl 116 "   *".toList (by simp) (by decide) _) (spacedOwn rfl _ (by decide))⟩
  | python =>
    refine ⟨84, "    # ", f.comment, rfl, fun s => ?_, by decide, by decide⟩
    simp [Text.isMarked, List.dropWhile, Text.isIndentation]

theorem operationRemarkEven (o : OperationView) : (o.remark language).Even := by
  cases language with
  | typescript =>
    have described : ∀ e ∈ if o.description.holds then
        [(Wording.laidOut 116 "   * " o.description, '\n'), (.own "   *", '\n')] else [],
        Spaced blockEnd? e :=
      spacedIf (spacedPair (spacedLaidOut rfl 116 "   *".toList (by simp) (by decide) _)
        (spacedOwn rfl _ (by decide)))
    have parameters : ∀ e ∈ o.parameters.flatMap ParameterView.remarks, Spaced blockEnd? e :=
      List.forall_mem_flatMap.mpr fun p _ => List.forall_mem_cons.mpr
        ⟨spacedOwn rfl _ (by decide), spacedPair (spacedValue rfl _) (spacedValue rfl _)⟩
    refine List.forall_mem_append.mpr ⟨List.forall_mem_append.mpr
      ⟨List.forall_mem_cons.mpr ⟨spacedOwn rfl _ rfl, described⟩, parameters⟩, ?_⟩
    exact spacedPair (spacedOwn rfl _ (by decide)) (spacedOwn rfl _ (by decide))
  | python =>
    have described : ∀ e ∈ if o.description.holds then
        [(Wording.own "", '\n'), (.laidOut 80 "        " o.description, '\n')] else [],
        Spaced quotedEnd? e :=
      spacedIf (spacedPair (spacedOwn rfl _ rfl)
        (spacedLaidOut rfl 80 "       ".toList (by simp) (by decide) _))
    refine List.forall_mem_append.mpr
      ⟨List.forall_mem_cons.mpr ⟨spacedValue rfl _, described⟩, ?_⟩
    exact List.forall_mem_singleton.mpr (spacedOwn rfl _ (by decide))

@[simp] theorem codeEven (ws : List Wording) : (code ws).Even := trivial

theorem fieldEven (f : FieldView) : ∀ p ∈ f.passages language, p.Even := by
  have remark : (f.remark language).Even := fieldRemarkEven f
  cases language <;> unfold FieldView.passages <;> cases f.comment.holds <;> simp [remark]

theorem typeEven (t : TypeView) : ∀ p ∈ t.passages language, p.Even := by
  have fields : ∀ p ∈ t.fields.flatMap (FieldView.passages language), p.Even :=
    List.forall_mem_flatMap.mpr fun f _ => fieldEven f
  cases language <;> simpa [TypeView.passages, or_imp, forall_and] using fields

theorem operationEven (o : OperationView) (first : Bool) :
    ∀ p ∈ o.passages language first, p.Even := by
  have remark : (o.remark language).Even := operationRemarkEven o
  cases language <;> simpa [OperationView.passages] using remark

theorem resourceEven (v : ResourceView) : ∀ p ∈ v.passages language, p.Even := by
  have types : ∀ p ∈ v.types.flatMap (TypeView.passages language), p.Even :=
    List.forall_mem_flatMap.mpr fun t _ => typeEven t
  have operations : ∀ p ∈ operationPassages language v.operations, p.Even :=
    List.forall_mem_flatMap.mpr fun e _ => operationEven e.1 _
  have both := And.intro types operations
  cases language <;> simpa [ResourceView.passages, or_imp, forall_and] using both

theorem fieldRemarked {v : ResourceView} {t : TypeView} {f : FieldView} (member : t ∈ v.types)
    (inside : f ∈ t.fields) (held : f.comment.holds = true) :
    f.remark language ∈ v.passages language := by
  have own : f.remark language ∈ f.passages language := by
    cases language <;> simp [FieldView.passages, held]
  have type : f.remark language ∈ t.passages language := by
    have among := List.mem_flatMap.mpr ⟨f, inside, own⟩
    cases language <;> simp [TypeView.passages, -List.mem_flatMap, among]
  have all := List.mem_flatMap.mpr ⟨t, member, type⟩
  cases language <;> simp [ResourceView.passages, -List.mem_flatMap, all]

theorem operationRemarked {v : ResourceView} {o : OperationView} (member : o ∈ v.operations) :
    o.remark language ∈ v.passages language := by
  rw [← List.zipIdx_map_fst 0 v.operations] at member
  obtain ⟨e, inside, rfl⟩ := List.mem_map.mp member
  have own : e.1.remark language ∈ e.1.passages language (e.2 == 0) := by
    cases language <;> simp [OperationView.passages]
  have all : e.1.remark language ∈ operationPassages language v.operations :=
    List.mem_flatMap.mpr ⟨e, inside, own⟩
  cases language <;> simp [ResourceView.passages, all]

end Passage

namespace View

variable {parts : Parts} {language : Language} {strict : Bool} {r : Resource}
  {className file : String} {v : ResourceView}

-- Comments keep their texts exactly if no text in them is what ends them.
theorem commentsConfined (ok : (resource parts language strict r className).result = .ok v)
    (rendered : Template.render (Template.resourceTemplate language) v.scope = .ok file) :
    file.toList = (v.passages language).flatMap Passage.text ∧
    (∀ t ∈ v.types, ∀ f ∈ t.fields, f.comment.holds = true →
      f.remark language ∈ v.passages language) ∧
    (∀ o ∈ v.operations, o.remark language ∈ v.passages language) ∧
    ∀ p ∈ v.passages language, p.Confined ↔ p.Harmless := by
  have complete := resourceComplete ok
  refine ⟨?_, fun t there f inside held => Passage.fieldRemarked there inside held,
    fun o there => Passage.operationRemarked there,
    fun p there => Passage.evenConfined (Passage.resourceEven v p there)⟩
  rw [ResourceView.renders language v
    fun python t t' f f' => (complete.fields t t' f f').default python, Template.printed] at rendered
  split at rendered
  · cases rendered
    rw [String.toList_ofList, List.flatMap_assoc]
    rfl
  · cases rendered

structure Spoken (language : Language) (said : String) (v : ResourceView) : Prop where
  compiled : (resource [] language true (pet (.str said)) "PetContext").result = .ok v
  rendered : Template.render (Template.resourceTemplate language) v.scope =
    .ok (String.ofList ((v.passages language).flatMap Passage.text))
  field : ∃ t ∈ v.types, ∃ f ∈ t.fields, f.comment = .str said
  operation : ∃ o ∈ v.operations, o.description = .str said

theorem Spoken.of {said : String}
    (compiled : (resource [] language true (pet (.str said)) "PetContext").result = .ok v)
    (titled : v.title = .str "Pet") (short : ∀ d ∈ v.documented language, d.writable = true)
    (field : ∃ t ∈ v.types, ∃ f ∈ t.fields, f.comment = .str said)
    (operation : ∃ o ∈ v.operations, o.description = .str said) : Spoken language said v :=
  ⟨compiled, ResourceView.rendered (resourceComplete compiled) ⟨_, titled⟩ short, field, operation⟩

theorem petConfined : ∃ v, Spoken .typescript "Of * and /." v ∧ ∃ t ∈ v.types, ∃ f ∈ t.fields,
    f.comment = .str "Of * and /." ∧ f.remark .typescript ∈ v.passages .typescript ∧
      (f.remark .typescript).Confined := by
  have spoken : ∃ v, Spoken .typescript "Of * and /." v := ⟨_, .of rfl rfl (by decide +kernel)
    ⟨_, List.mem_cons_self, _, List.mem_cons_self, rfl⟩ ⟨_, List.mem_cons_self, rfl⟩⟩
  obtain ⟨v, spoken⟩ := spoken
  obtain ⟨t, there, f, inside, comment⟩ := spoken.field
  obtain ⟨_, fields, _, all⟩ := commentsConfined spoken.compiled spoken.rendered
  have remarked := fields t there f inside (by rw [comment]; rfl)
  refine ⟨v, spoken, t, there, f, inside, comment, remarked, (all _ remarked).mpr ?_⟩
  simp [FieldView.remark, Passage.Harmless, Passage.Tame, Wording.value?, comment, blockEnd?,
    Node.plainText]

-- A text ends the comment that it stands in.
theorem petLeaves :
    (∃ v, Spoken .typescript "a */ b" v ∧ ∃ t ∈ v.types, ∃ f ∈ t.fields,
      f.remark .typescript ∈ v.passages .typescript ∧ ¬(f.remark .typescript).Confined) ∧
    (∃ v, Spoken .python "a\rb" v ∧ ∃ t ∈ v.types, ∃ f ∈ t.fields,
      f.remark .python ∈ v.passages .python ∧ ¬(f.remark .python).Confined) ∧
    ∃ v, Spoken .python "a \"\"\" b" v ∧ ∃ o ∈ v.operations,
      o.remark .python ∈ v.passages .python ∧ ¬(o.remark .python).Confined := by
  refine ⟨?_, ?_, ?_⟩
  · have spoken : ∃ v, Spoken .typescript "a */ b" v := ⟨_, .of rfl rfl (by decide +kernel)
      ⟨_, List.mem_cons_self, _, List.mem_cons_self, rfl⟩ ⟨_, List.mem_cons_self, rfl⟩⟩
    obtain ⟨v, spoken⟩ := spoken
    obtain ⟨t, there, f, inside, comment⟩ := spoken.field
    have remarked : f.remark .typescript ∈ v.passages .typescript :=
      Passage.fieldRemarked there inside (by rw [comment]; rfl)
    refine ⟨v, spoken, t, there, f, inside, remarked, ?_⟩
    rw [Passage.evenConfined (Passage.fieldRemarkEven f)]
    simp [FieldView.remark, Passage.Harmless, Passage.Tame, Wording.value?, comment, blockEnd?,
      Node.plainText]
  · have spoken : ∃ v, Spoken .python "a\rb" v := ⟨_, .of rfl rfl (by decide +kernel)
      ⟨_, List.mem_cons_self, _, List.mem_cons_self, rfl⟩ ⟨_, List.mem_cons_self, rfl⟩⟩
    obtain ⟨v, spoken⟩ := spoken
    obtain ⟨t, there, f, inside, comment⟩ := spoken.field
    have remarked : f.remark .python ∈ v.passages .python :=
      Passage.fieldRemarked there inside (by rw [comment]; rfl)
    refine ⟨v, spoken, t, there, f, inside, remarked, ?_⟩
    rw [Passage.evenConfined (Passage.fieldRemarkEven f)]
    intro harmless
    have line := harmless (.laidOut 84 "    # " f.comment, '\n') List.mem_cons_self f.comment rfl
    rw [comment] at line
    exact absurd (line "a\rb".toList (by decide)) (by decide)
  · have spoken : ∃ v, Spoken .python "a \"\"\" b" v := ⟨_, .of rfl rfl (by decide +kernel)
      ⟨_, List.mem_cons_self, _, List.mem_cons_self, rfl⟩ ⟨_, List.mem_cons_self, rfl⟩⟩
    obtain ⟨v, spoken⟩ := spoken
    obtain ⟨o, there, description⟩ := spoken.operation
    refine ⟨v, spoken, o, there, Passage.operationRemarked there, ?_⟩
    rw [Passage.evenConfined (Passage.operationRemarkEven o)]
    simp [OperationView.remark, Passage.Harmless, Passage.Tame, Wording.value?, description,
      quotedEnd?, Node.plainText, Node.holds]

end View
end ClientGen
