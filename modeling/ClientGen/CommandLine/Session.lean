import ClientGen.CommandLine.Arguments
import ClientGen.Generate

/-! A whole session: what a command line does to the files, and what it writes to the two
streams. -/
namespace ClientGen.CommandLine

def program : String := "sdkgen"

def usage : String := "\n".intercalate [
  "usage: " ++ program ++ " [-h] [-l LANGUAGE] [-o OUTPUT] [--templates TEMPLATES]",
  "              [--strict-types] [-v]",
  "              specification",
  ""]

def helpText : String := "\n".intercalate [
  usage,
  "Generate resource SDK files from an OpenAPI 3 document",
  "",
  "positional arguments:",
  "  specification         Path or URL of the OpenAPI document",
  "",
  "options:",
  "  -h, --help            show this help message and exit",
  "  -l LANGUAGE, --language LANGUAGE",
  "                        One of: " ++ ", ".intercalate Language.available,
  "  -o OUTPUT, --output OUTPUT",
  "                        Output directory",
  "  --templates TEMPLATES",
  "                        Override the template directory",
  "  --strict-types        Fail when two different types resolve to the same name",
  "  -v, --verbose         Log debug output",
  ""]

structure Ending where
  exit : Nat
  out : String
  err : String
  files : Files
  deriving Inhabited

def templateSource (directory : Option String) : TemplateSource :=
  match directory with
  | none | some "" => .bundled
  | some name => .directory (Path.parse name)

def Arguments.options (a : Arguments) : Options :=
  { specification := .source a.specification
    language := a.language
    outputDirectory := a.output
    templates := templateSource a.templates
    strict := a.strictTypes }

def Arguments.inputs (a : Arguments) : List Path :=
  let templates := Path.parse (a.templates.getD "")
  let named := [Language.typescript, .python].flatMap fun language =>
    [language.resourceTemplate, language.indexTemplate]
  let output := Path.parse (a.output.getD "")
  Path.parse a.specification :: named.map (fun name => templates.append (Path.parse name)) ++
    (List.range output.steps.length).map fun n => ⟨output.anchor, output.steps.take (n + 1)⟩

def inputs (words : List String) : List Path :=
  match Arguments.parse words with
  | .ok a => a.inputs
  | .error _ => []

def Arguments.level (a : Arguments) : Level := if a.verbose then .debug else .info

def logText (level : Level) (events : List Event) : String :=
  String.join ((events.filter fun e => level.rank ≤ e.level.rank).map fun e => e.line ++ "\n")

def told? : Fault → Option String
  | .undefinedName _ | .undefinedAttribute .. | .undefinedElement .. => none
  | fault => fault.message?

def runWith (w : World) (a : Arguments) : Except Fault Ending :=
  let step := Generate.run w a.options
  let log := logText a.level step.events
  let files := step.output.files
  match step.result with
  | .ok () =>
    let count := toString step.output.written.length
    let directory := a.output.getD ""
    .ok ⟨0, "Generated " ++ count ++ " file(s) in " ++ directory ++ "\n", log, files⟩
  | .error fault =>
    match told? fault with
    | some message => .ok ⟨1, "", log ++ "error: " ++ message ++ "\n", files⟩
    | none => .error fault

def run (w : World) (words : List String) : Except Fault Ending :=
  match Arguments.parse words with
  | .ok a => runWith w a
  | .error .help => .ok ⟨0, helpText, "", w.files⟩
  | .error (.refused refusal) =>
    .ok ⟨2, "", usage ++ program ++ ": error: " ++ refusal.message ++ "\n", w.files⟩

def failureText (f : Fault) : String :=
  match f with
  | .file cause path => cause.message path
  | f => f.message?.getD "malformed document"

end ClientGen.CommandLine
