import ClientGen.Template.Render
import ClientGen.Language

/-! The templates that come with the program: for each language one for the file of a resource and
one for the index of all resources. -/
namespace ClientGen.Template

def lines (ls : List String) : Piece := .text (String.join (ls.map (· ++ "\n")))

def of (item key : String) : Expr := .attribute (.name item) key

def show_ (item key : String) : Piece := .shown (of item key)

def showJson (item key : String) : Piece := .shown (.filtered (of item key) "json" [] [])

def showComment (item key : String) (width : Int) (margin : String) : Piece :=
  .shown (.filtered (.filtered (of item key) "wrap" [.constant (.int width)] []) "prefix"
    [.constant (.str margin)] [])

def when_ (test : Expr) (body : List Piece) : Piece := .branch test body []

def each (item : String) (range : Expr) (body : List Piece) : Piece := .loop item range body []

def typescriptField : List Piece := [
  when_ (of "field" "comment") [
    lines ["  /**"],
    showComment "field" "comment" 116 "   * ",
    lines ["", "   */"]],
  .text "  ",
  .shown (.choice (of "field" "readonly") (.constant (.str "readonly ")) (.constant (.str ""))),
  show_ "field" "name",
  when_ (of "field" "optional") [.text "?"],
  .text ": ",
  show_ "field" "type",
  .text "\n"]

def typescriptType : List Piece := [
  .text "\nexport interface ",
  show_ "type" "name",
  .text " \x7b\n",
  each "field" (of "type" "fields") typescriptField,
  .text "\x7d\n"]

def typescriptOperation : List Piece := [
  when_ (.negation (of "loop" "first")) [.text "\n"],
  lines ["  /**"],
  when_ (of "operation" "description") [
    showComment "operation" "description" 116 "   * ",
    lines ["", "   *"]],
  each "parameter" (of "operation" "parameters") [
    .text "   * @param ",
    show_ "parameter" "name",
    .text " ",
    .shown (.either (of "parameter" "description") (.constant (.str ""))),
    .text "\n"],
  lines ["   * @param options Options to apply to this specific request", "   */"],
  .text "  public async ",
  show_ "operation" "method_name",
  .text "(",
  each "parameter" (of "operation" "parameters") [
    show_ "parameter" "name",
    when_ (of "parameter" "optional") [.text "?"],
    .text ": ",
    show_ "parameter" "type",
    .text ", "],
  .text "options?: RequestOptions): Promise<",
  show_ "operation" "return_type",
  .text "> \x7b\n    return this.client.request(",
  showJson "operation" "method",
  .text ", `",
  show_ "operation" "templatized_path",
  .text "`, \x7b\n",
  when_ (of "operation" "has_params") [lines ["      params,"]],
  lines ["      options,", "    \x7d)", "  \x7d"]]

def typescriptResource : List Piece := [
  lines ["// This file is generated. Do not edit it by hand.",
    "import \x7b BaseContext \x7d from '../BaseContext'",
    "import type \x7b RequestOptions \x7d from '../BaseContext'"],
  when_ (.name "uses_imported") [lines ["", "type ImportedType = unknown"]],
  each "type" (.name "types") typescriptType,
  .text "\nexport class ",
  .shown (.name "class_name"),
  .text " extends BaseContext \x7b\n",
  each "operation" (.name "operations") typescriptOperation,
  .text "\x7d\n"]

def typescriptIndex : List Piece := [
  lines ["// This file is generated. Do not edit it by hand.",
    "import type \x7b Client \x7d from '../Client'", ""],
  each "namespace" (.name "namespaces") [
    .text "import \x7b ",
    show_ "namespace" "class_name",
    .text " \x7d from './",
    show_ "namespace" "module",
    .text "'\n"],
  lines ["", "export const allResources = \x7b"],
  each "namespace" (.name "namespaces") [
    .text "  ",
    show_ "namespace" "key",
    .text ": ",
    show_ "namespace" "class_name",
    .text ",\n"],
  lines ["\x7d", "", "type ResourceTypes = typeof allResources",
    "export type ResourceRoot = \x7b",
    "  [K in keyof ResourceTypes]: ResourceTypes[K] extends new (client: Client) => infer R ? " ++
      "R : never",
    "\x7d", ""],
  each "namespace" (.name "namespaces") [
    .text "export \x7b ",
    show_ "namespace" "class_name",
    .text " \x7d\n"]]

def pythonField : List Piece := [
  when_ (of "field" "comment") [
    showComment "field" "comment" 84 "    # ",
    .text "\n"],
  .text "    ",
  show_ "field" "name",
  .text ": ",
  show_ "field" "type",
  show_ "field" "default",
  .text "\n"]

def pythonType : List Piece := [
  lines ["", "", "@dataclasses.dataclass(frozen=True)"],
  .text "class ",
  show_ "type" "name",
  .text ":\n",
  when_ (.negation (of "type" "fields")) [lines ["    pass"]],
  each "field" (of "type" "fields") pythonField]

def pythonOperation : List Piece := [
  .text "\n    def ",
  show_ "operation" "method_name",
  .text "(self",
  each "parameter" (of "operation" "parameters") [
    .text ", ",
    show_ "parameter" "name",
    .text ": ",
    show_ "parameter" "type",
    when_ (of "parameter" "optional") [.text " | None = None"]],
  .text ") -> ",
  show_ "operation" "return_type",
  .text ":\n        \"\"\"",
  .shown (.either (of "operation" "summary") (of "operation" "id")),
  .text "\n",
  when_ (of "operation" "description") [
    .text "\n",
    showComment "operation" "description" 80 "        ",
    .text "\n"],
  lines ["        \"\"\"", "        return self.client.request("],
  .text "            ",
  showJson "operation" "method",
  .text ",\n            f",
  showJson "operation" "templatized_path",
  .text ",\n",
  when_ (of "operation" "has_params") [lines ["            params=params,"]],
  lines ["        )"]]

def pythonResource : List Piece := [
  .text "\"\"\"",
  .shown (.name "title"),
  lines [" resource. This file is generated; do not edit it by hand.\"\"\"", "",
    "from __future__ import annotations", "", "import dataclasses", "from typing import Any"],
  when_ (.name "uses_imported") [lines ["", "ImportedType = Any"]],
  each "type" (.name "types") pythonType,
  .text "\n\nclass ",
  .shown (.name "class_name"),
  lines [":", "    def __init__(self, client: Any) -> None:", "        self.client = client"],
  each "operation" (.name "operations") pythonOperation]

def pythonIndex : List Piece := [
  lines ["\"\"\"Generated resources. This file is generated; do not edit it by hand.\"\"\"", ""],
  each "namespace" (.name "namespaces") [
    .text "from .",
    show_ "namespace" "module",
    .text " import ",
    show_ "namespace" "class_name",
    .text "\n"],
  lines ["", "ALL_RESOURCES = \x7b"],
  each "namespace" (.name "namespaces") [
    .text "    ",
    showJson "namespace" "key",
    .text ": ",
    show_ "namespace" "class_name",
    .text ",\n"],
  lines ["\x7d", "", "__all__ = [", "    \"ALL_RESOURCES\","],
  each "namespace" (.name "namespaces") [
    .text "    ",
    showJson "namespace" "class_name",
    .text ",\n"],
  lines ["]"]]

def resourceTemplate : Language → List Piece
  | .typescript => typescriptResource
  | .python => pythonResource

def indexTemplate : Language → List Piece
  | .typescript => typescriptIndex
  | .python => pythonIndex

end ClientGen.Template
