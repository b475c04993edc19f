import ClientGen.Proofs.Template.Printing
import ClientGen.View.Basic

/-! A source file as a row of passages: code, and comments that hold texts of the document. What the
template of a language renders to is what these passages say. -/
namespace ClientGen
open Template

/-- A comment stands between two marks, opens the body of a method, or has a mark on every line. -/
inductive CommentKind
  | block
  | docstring
  | marked
  deriving DecidableEq, Repr

namespace CommentKind

def opening : CommentKind → String
  | .block => "/**"
  | .docstring => "\"\"\""
  | .marked => ""

def closing : CommentKind → String
  | .block => "*/"
  | .docstring => "\"\"\""
  | .marked => ""

end CommentKind

inductive Passage
  | code (ws : List Wording)
  | comment (kind : CommentKind) (body : List (Wording × Char))

namespace Passage

def bodyWordings (body : List (Wording × Char)) : List Wording :=
  body.flatMap fun e => [e.1, .own (String.singleton e.2)]

def wordings : Passage → List Wording
  | .code ws => ws
  | .comment kind body => .own kind.opening :: bodyWordings body ++ [.own kind.closing]

def text (p : Passage) : List Char := p.wordings.flatMap Wording.text

end Passage

def FieldView.remark (language : Language) (f : FieldView) : Passage :=
  match language with
  | .typescript =>
    .comment .block [(.own "", '\n'), (.laidOut 116 "   * " f.comment, '\n'), (.own "  ", ' ')]
  | .python => .comment .marked [(.laidOut 84 "    # " f.comment, '\n')]

def FieldView.passages (language : Language) (f : FieldView) : List Passage :=
  match language with
  | .typescript =>
    (if f.comment.holds then [.code [.own "  "], f.remark .typescript, .code [.own "\n"]]
      else []) ++
    [.code ([.own "  ", .value (.str (if f.readonly then "readonly " else "")), .value f.name] ++
      (if f.isOptional then [.own "?"] else []) ++ [.own ": ", .value (.str f.type), .own "\n"])]
  | .python =>
    (if f.comment.holds then [f.remark .python] else []) ++
    [.code [.own "    ", .value f.name, .own ": ", .value (.str f.type),
      .value (.str (f.default.getD "")), .own "\n"]]

def TypeView.passages (language : Language) (t : TypeView) : List Passage :=
  match language with
  | .typescript =>
    .code [.own "\nexport interface ", .value (.str t.name), .own " \x7b\n"] ::
      t.fields.flatMap (FieldView.passages .typescript) ++ [.code [.own "\x7d\n"]]
  | .python =>
    .code ([.lines ["", "", "@dataclasses.dataclass(frozen=True)"], .own "class ",
      .value (.str t.name), .own ":\n"] ++
        if t.fields.isEmpty then [.lines ["    pass"]] else []) ::
      t.fields.flatMap (FieldView.passages .python)

def ParameterView.remarks (p : ParameterView) : List (Wording × Char) :=
  [(.own "   * @param", ' '), (.value p.name, ' '),
    (.value (if p.description.holds then p.description else .str ""), '\n')]

def OperationView.remark (language : Language) (o : OperationView) : Passage :=
  match language with
  | .typescript =>
    .comment .block ((.own "", '\n') ::
      (if o.description.holds then
        [(.laidOut 116 "   * " o.description, '\n'), (.own "   *", '\n')] else []) ++
      o.parameters.flatMap ParameterView.remarks ++
      [(.own "   * @param options Options to apply to this specific request", '\n'),
        (.own "  ", ' ')])
  | .python =>
    .comment .docstring ((.value (if o.summary.holds then o.summary else o.id), '\n') ::
      (if o.description.holds then
        [(.own "", '\n'), (.laidOut 80 "        " o.description, '\n')] else []) ++
      [(.own "       ", ' ')])

def ParameterView.declared (language : Language) (p : ParameterView) : List Wording :=
  match language with
  | .typescript =>
    .value p.name :: (if p.isOptional then [.own "?"] else []) ++
      [.own ": ", .value (.str p.type), .own ", "]
  | .python =>
    [.own ", ", .value p.name, .own ": ", .value (.str p.type)] ++
      if p.isOptional then [.own " | None = None"] else []

def quotedWording (s : String) : Wording :=
  .value (.str (String.ofList (Text.jsonQuoted false s.toList)))

def OperationView.passages (language : Language) (first : Bool) (o : OperationView) :
    List Passage :=
  match language with
  | .typescript =>
    [.code ((if !first then [.own "\n"] else []) ++ [.own "  "]), o.remark .typescript,
      .code ([.own "\n", .own "  public async ", .value (.str o.methodName), .own "("] ++
        o.parameters.flatMap (ParameterView.declared .typescript) ++
        [.own "options?: RequestOptions): Promise<", .value (.str o.returnType),
          .own "> \x7b\n    return this.client.request(", quotedWording o.method, .own ", `",
          .value (.str o.templatizedPath), .own "`, \x7b\n"] ++
        (if o.hasParams then [.lines ["      params,"]] else []) ++
        [.lines ["      options,", "    \x7d)", "  \x7d"]])]
  | .python =>
    [.code ([.own "\n    def ", .value (.str o.methodName), .own "(self"] ++
        o.parameters.flatMap (ParameterView.declared .python) ++
        [.own ") -> ", .value (.str o.returnType), .own ":\n        "]), o.remark .python,
      .code ([.own "\n", .lines ["        return self.client.request("], .own "            ",
          quotedWording o.method, .own ",\n            f", quotedWording o.templatizedPath,
          .own ",\n"] ++
        (if o.hasParams then [.lines ["            params=params,"]] else []) ++
        [.lines ["        )"]])]

def operationPassages (language : Language) (os : List OperationView) : List Passage :=
  os.zipIdx.flatMap fun e => e.1.passages language (e.2 == 0)

def ResourceView.passages (language : Language) (v : ResourceView) : List Passage :=
  match language with
  | .typescript =>
    .code (.lines ["// This file is generated. Do not edit it by hand.",
        "import \x7b BaseContext \x7d from '../BaseContext'",
        "import type \x7b RequestOptions \x7d from '../BaseContext'"] ::
      if v.usesImported then [.lines ["", "type ImportedType = unknown"]] else []) ::
    v.types.flatMap (TypeView.passages .typescript) ++
    .code [.own "\nexport class ", .value (.str v.className),
      .own " extends BaseContext \x7b\n"] ::
    operationPassages .typescript v.operations ++ [.code [.own "\x7d\n"]]
  | .python =>
    .code ([.own "\"\"\"", .value v.title,
      .lines [" resource. This file is generated; do not edit it by hand.\"\"\"", "",
        "from __future__ import annotations", "", "import dataclasses",
        "from typing import Any"]] ++
      if v.usesImported then [.lines ["", "ImportedType = Any"]] else []) ::
    v.types.flatMap (TypeView.passages .python) ++
    .code [.own "\n\nclass ", .value (.str v.className),
      .lines [":", "    def __init__(self, client: Any) -> None:",
        "        self.client = client"]] ::
    operationPassages .python v.operations

namespace Namespace

def imported (language : Language) (n : Namespace) : List Wording :=
  match language with
  | .typescript => [.own "import \x7b ", .value (.str n.className), .own " \x7d from './",
      .value (.str n.module), .own "'\n"]
  | .python => [.own "from .", .value (.str n.module), .own " import ", .value (.str n.className),
      .own "\n"]

def entered (language : Language) (n : Namespace) : List Wording :=
  match language with
  | .typescript => [.own "  ", .value (.str n.key), .own ": ", .value (.str n.className),
      .own ",\n"]
  | .python => [.own "    ", quotedWording n.key, .own ": ", .value (.str n.className), .own ",\n"]

def exported (language : Language) (n : Namespace) : List Wording :=
  match language with
  | .typescript => [.own "export \x7b ", .value (.str n.className), .own " \x7d\n"]
  | .python => [.own "    ", quotedWording n.className, .own ",\n"]

end Namespace

def indexWordings (language : Language) (ns : List Namespace) : List Wording :=
  match language with
  | .typescript =>
    .lines ["// This file is generated. Do not edit it by hand.",
      "import type \x7b Client \x7d from '../Client'", ""] ::
    ns.flatMap (Namespace.imported .typescript) ++
    .lines ["", "export const allResources = \x7b"] ::
    ns.flatMap (Namespace.entered .typescript) ++
    .lines ["\x7d", "", "type ResourceTypes = typeof allResources",
      "export type ResourceRoot = \x7b",
      "  [K in keyof ResourceTypes]: ResourceTypes[K] extends new (client: Client) => infer R ? " ++
        "R : never",
      "\x7d", ""] ::
    ns.flatMap (Namespace.exported .typescript)
  | .python =>
    .lines ["\"\"\"Generated resources. This file is generated; do not edit it by hand.\"\"\"", ""] ::
    ns.flatMap (Namespace.imported .python) ++
    .lines ["", "ALL_RESOURCES = \x7b"] ::
    ns.flatMap (Namespace.entered .python) ++
    .lines ["\x7d", "", "__all__ = [", "    \"ALL_RESOURCES\","] ::
    ns.flatMap (Namespace.exported .python) ++ [.lines ["]"]]

namespace Template.Prints

def Says (frame : Frame) (ps : List Piece) (passages : List Passage) : Prop :=
  Prints frame ps (passages.flatMap Passage.wordings)

variable {frame : Frame} {first : Bool}

theorem blockOpens : "  /**".toList = "  ".toList ++ "/**".toList := by simp

theorem blockCloses : "   */".toList = "  ".toList ++ ' ' :: "*/".toList := by simp

theorem docstringOpens : ":\n        \"\"\"".toList = ":\n        ".toList ++ "\"\"\"".toList := by
  simp

theorem docstringCloses :
    "        \"\"\"".toList = "       ".toList ++ ' ' :: "\"\"\"".toList := by simp

theorem parameterOpens : "   * @param ".toList = "   * @param".toList ++ [' '] := by simp

theorem blankText : " ".toList = [' '] := by simp

theorem lineEndText : "\n".toList = ['\n'] := by simp

theorem boolHolds (b : Bool) : (Node.bool b).holds = b := rfl

attribute [local simp] Alike Passage.wordings Passage.bodyWordings CommentKind.opening
  CommentKind.closing List.flatMap_assoc

theorem typescriptFieldSays (f : FieldView) :
    Says (("field", .known f.toNode) :: frame) typescriptField (f.passages .typescript) := by
  refine alike
    (.branch (givesEntry rfl rfl)
      (.lines _ <| .comment 116 (givesEntry rfl rfl) (by decide) (by decide) <|
        .lines _ .nil) <|
    .text _ <|
    .shown (givesChoice (givesEntry rfl rfl) rfl rfl) <|
    .shown (givesEntry rfl rfl) <|
    .flag (givesEntry rfl rfl) (.text _ .nil) <|
    .text _ <|
    .shown (givesEntry rfl rfl) <|
    .text _ .nil) ?_
  unfold FieldView.passages FieldView.remark
  cases f.comment.holds <;> cases f.readonly <;> simp [Node.holds]

theorem typescriptTypeSays (t : TypeView) :
    Says (("type", .known t.toNode) :: frame) typescriptType (t.passages .typescript) := by
  refine alike
    (.text _ <|
    .shown (givesEntry rfl rfl) <|
    .text _ <|
    .each (givesEntry rfl rfl) (fun f _ _ => typescriptFieldSays f) <|
    .text _ .nil) ?_
  simp [-String.reduceToList, TypeView.passages]

theorem typescriptOperationSays (o : OperationView) (run : LoopRun) :
    Says (("operation", .known o.toNode) :: ("loop", .loop run) :: frame) typescriptOperation
      (o.passages .typescript (run.index == 0)) := by
  refine alike
    (.flag (givesNegation (givesFirst rfl)) (.text _ .nil) <|
    .lines _ <|
    .branch (givesEntry rfl rfl)
      (.comment 116 (givesEntry rfl rfl) (by decide) (by decide) <| .lines _ .nil) <|
    .each (givesEntry rfl rfl) (fun p _ _ =>
      .text _ <|
      .shown (givesEntry rfl rfl) <|
      .text _ <|
      .shown (givesEither (givesEntry rfl rfl) rfl) <|
      .text _ .nil) <|
    .lines _ <|
    .text _ <|
    .shown (givesEntry rfl rfl) <|
    .text _ <|
    .each (givesEntry rfl rfl) (fun p _ _ =>
      .shown (givesEntry rfl rfl) <|
      .flag (givesEntry rfl rfl) (.text _ .nil) <|
      .text _ <|
      .shown (givesEntry rfl rfl) <|
      .text _ .nil) <|
    .text _ <|
    .shown (givesEntry rfl rfl) <|
    .text _ <|
    .shown (givesJson (givesEntry rfl rfl)) <|
    .text _ <|
    .shown (givesEntry rfl rfl) <|
    .text _ <|
    .flag (givesEntry rfl rfl) (.lines _ .nil) <|
    .lines _ .nil) ?_
  unfold OperationView.passages OperationView.remark
  cases o.description.holds <;>
    simp [-String.reduceToList, blockOpens, blockCloses, parameterOpens, blankText, lineEndText,
      ParameterView.remarks, ParameterView.declared, quotedWording, boolHolds]

theorem pythonFieldSays (f : FieldView) {default : String} (given : f.default = some default) :
    Says (("field", .known f.toNode) :: frame) pythonField (f.passages .python) := by
  have entry : Entries.at? "default" (([("name", f.name), ("type", Node.str f.type),
      ("optional", .bool f.isOptional), ("comment", f.comment), ("readonly", .bool f.readonly)] ++
      (f.default.map fun d => [("default", Node.str d)]).getD []).map
        fun e => (Node.str e.1, e.2)) = some (.str (f.default.getD "")) := by
    rw [given]
    rfl
  refine alike
    (.branch (givesEntry rfl rfl)
      (.comment 84 (givesEntry rfl rfl) (by decide) (by decide) <| .text _ .nil) <|
    .text _ <|
    .shown (givesEntry rfl rfl) <|
    .text _ <|
    .shown (givesEntry rfl rfl) <|
    .shown (givesEntry rfl entry) <|
    .text _ .nil) ?_
  unfold FieldView.passages FieldView.remark
  cases f.comment.holds <;> simp

theorem pythonTypeSays (t : TypeView) (given : ∀ f ∈ t.fields, ∃ d, f.default = some d) :
    Says (("type", .known t.toNode) :: frame) pythonType (t.passages .python) := by
  refine alike
    (.lines _ <|
    .text _ <|
    .shown (givesEntry rfl rfl) <|
    .text _ <|
    .flag (givesNegation (givesEntry rfl rfl)) (.lines _ .nil) <|
    .each (givesEntry rfl rfl) (fun f member _ => by
      obtain ⟨_, given⟩ := given f member
      exact pythonFieldSays f given)
    .nil) ?_
  unfold TypeView.passages
  cases t.fields <;> simp [-String.reduceToList, Node.holds]

theorem pythonOperationSays (o : OperationView) :
    Says (("operation", .known o.toNode) :: frame) pythonOperation
      (o.passages .python first) := by
  refine alike
    (.text _ <|
    .shown (givesEntry rfl rfl) <|
    .text _ <|
    .each (givesEntry rfl rfl) (fun p _ _ =>
      .text _ <|
      .shown (givesEntry rfl rfl) <|
      .text _ <|
      .shown (givesEntry rfl rfl) <|
      .flag (givesEntry rfl rfl) (.text _ .nil) .nil) <|
    .text _ <|
    .shown (givesEntry rfl rfl) <|
    .text _ <|
    .shown (givesEither (givesEntry rfl rfl) (givesEntry rfl rfl)) <|
    .text _ <|
    .branch (givesEntry rfl rfl)
      (.text _ <|
      .comment 80 (givesEntry rfl rfl) (by decide) (by decide) <|
      .text _ .nil) <|
    .lines _ <|
    .text _ <|
    .shown (givesJson (givesEntry rfl rfl)) <|
    .text _ <|
    .shown (givesJson (givesEntry rfl rfl)) <|
    .text _ <|
    .flag (givesEntry rfl rfl) (.lines _ .nil) <|
    .lines _ .nil) ?_
  unfold OperationView.passages OperationView.remark
  cases o.description.holds <;>
    simp [-String.reduceToList, docstringOpens, docstringCloses, blankText, lineEndText,
      ParameterView.declared, quotedWording]

theorem typescriptResourceSays (v : ResourceView) :
    Says (v.scope.map fun e => (e.1, .known e.2)) typescriptResource (v.passages .typescript) := by
  refine alike
    (.lines _ <|
    .flag (givesName rfl) (.lines _ .nil) <|
    .each (givesName rfl) (fun t _ _ => typescriptTypeSays t) <|
    .text _ <|
    .shown (givesName rfl) <|
    .text _ <|
    .numbered (fun i (o : OperationView) =>
        (o.passages .typescript (i == 0)).flatMap Passage.wordings)
      (givesName rfl) (fun o _ run => typescriptOperationSays o run) <|
    .text _ .nil) ?_
  simp [-String.reduceToList, ResourceView.passages, operationPassages]

theorem pythonResourceSays (v : ResourceView)
    (given : ∀ t ∈ v.types, ∀ f ∈ t.fields, ∃ d, f.default = some d) :
    Says (v.scope.map fun e => (e.1, .known e.2)) pythonResource (v.passages .python) := by
  refine alike
    (.text _ <|
    .shown (givesName rfl) <|
    .lines _ <|
    .flag (givesName rfl) (.lines _ .nil) <|
    .each (givesName rfl) (fun t member _ => pythonTypeSays t (given t member)) <|
    .text _ <|
    .shown (givesName rfl) <|
    .lines _ <|
    .numbered (fun i (o : OperationView) =>
        (o.passages .python (i == 0)).flatMap Passage.wordings)
      (givesName rfl) (fun o _ _ => pythonOperationSays o) <|
    .nil) ?_
  simp [-String.reduceToList, ResourceView.passages, operationPassages]

theorem renders {template : List Piece} {scope : Scope} {ws : List Wording}
    (free : (scope.lookup "self").isSome = false)
    (prints : Prints (scope.map fun e => (e.1, .known e.2)) template ws) :
    render template scope = String.ofList <$> printed ws := by
  unfold render
  rw [free, show Piece.renderList _ template = _ from prints]
  rfl

theorem indexSays (language : Language) (ns : List Namespace) :
    Prints ((indexVariables ns).map fun e => (e.1, .known e.2)) (indexTemplate language)
      (indexWordings language ns) := by
  cases language with
  | typescript =>
    refine alike
      (.lines _ <|
      .each (givesName rfl) (fun n _ _ =>
        .text _ <| .shown (givesEntry rfl rfl) <|
        .text _ <| .shown (givesEntry rfl rfl) <| .text _ .nil) <|
      .lines _ <|
      .each (givesName rfl) (fun n _ _ =>
        .text _ <| .shown (givesEntry rfl rfl) <|
        .text _ <| .shown (givesEntry rfl rfl) <| .text _ .nil) <|
      .lines _ <|
      .each (givesName rfl) (fun n _ _ =>
        .text _ <| .shown (givesEntry rfl rfl) <| .text _ .nil)
      .nil) ?_
    simp [-String.reduceToList, indexWordings, Namespace.imported, Namespace.entered,
      Namespace.exported]
  | python =>
    refine alike
      (.lines _ <|
      .each (givesName rfl) (fun n _ _ =>
        .text _ <| .shown (givesEntry rfl rfl) <|
        .text _ <| .shown (givesEntry rfl rfl) <| .text _ .nil) <|
      .lines _ <|
      .each (givesName rfl) (fun n _ _ =>
        .text _ <| .shown (givesJson (givesEntry rfl rfl)) <|
        .text _ <| .shown (givesEntry rfl rfl) <| .text _ .nil) <|
      .lines _ <|
      .each (givesName rfl) (fun n _ _ =>
        .text _ <| .shown (givesJson (givesEntry rfl rfl)) <| .text _ .nil) <|
      .lines _ .nil) ?_
    simp [-String.reduceToList, indexWordings, Namespace.imported, Namespace.entered,
      Namespace.exported, quotedWording]

theorem indexWritable (language : Language) (ns : List Namespace) :
    (indexWordings language ns).all Wording.writable = true := by
  cases language <;> simp [indexWordings, Namespace.imported, Namespace.entered,
    Namespace.exported, quotedWording]

theorem indexRendered (language : Language) (ns : List Namespace) :
    render (indexTemplate language) (indexVariables ns) =
      .ok (String.ofList ((indexWordings language ns).flatMap Wording.text)) := by
  rw [renders rfl (indexSays language ns), printed, indexWritable]
  rfl

theorem indexRenders (language : Language) (ns : List Namespace) :
    ∃ text, render (indexTemplate language) (indexVariables ns) = .ok text :=
  ⟨_, indexRendered language ns⟩

end Template.Prints

theorem ResourceView.renders (language : Language) (v : ResourceView)
    (given : language = .python → ∀ t ∈ v.types, ∀ f ∈ t.fields, ∃ d, f.default = some d) :
    render (resourceTemplate language) v.scope =
      String.ofList <$> printed ((v.passages language).flatMap Passage.wordings) := by
  cases language with
  | typescript => exact Prints.renders rfl (Prints.typescriptResourceSays v)
  | python => exact Prints.renders rfl (Prints.pythonResourceSays v (given rfl))

end ClientGen
