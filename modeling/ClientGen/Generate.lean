import ClientGen.Source
import ClientGen.Grouping
import ClientGen.View.Resource
import ClientGen.Template.Reading
import ClientGen.Template.Bundled

/-! A whole run: load a document, inline its references, group its operations, and write one file
for every resource and one for the index. The view of a resource is complete before its file is
written, and what has been written before a fault remains. -/
namespace ClientGen

inductive TemplateSource
  | bundled
  | directory (path : Path)
  deriving Repr, Inhabited

/-- The objects that stand at several places of a document, each with a number of its own. -/
abbrev Sharing := List (List Nat × Nat)

def Sharing.same (sharing : Sharing) (p q : List Nat) : Bool :=
  p == q || ((sharing.lookup p).isSome && sharing.lookup p == sharing.lookup q)

inductive Specification
  | value (n : Node) (sharing : Sharing := [])
  | source (s : String)
  deriving Repr, Inhabited

structure Options where
  specification : Specification
  language : Option String
  outputDirectory : Option String
  templates : TemplateSource
  strict : Bool
  deriving Repr, Inhabited

structure Output where
  files : Files
  written : List Path
  deriving Inhabited

/-- How a step of a run ends: what it reported, each event with the state that it was reported in,
the state it leaves, and its result. -/
structure Step (α : Type) where
  log : List (Event × Output)
  output : Output
  result : Except Fault α

namespace Step

def events {α : Type} (s : Step α) : List Event := s.log.map (·.1)

def done {α : Type} (o : Output) (a : α) : Step α := ⟨[], o, .ok a⟩

def fail {α : Type} (o : Output) (fault : Fault) : Step α := ⟨[], o, .error fault⟩

def andThen {α β : Type} (s : Step α) (f : Output → α → Step β) : Step β :=
  match s.result with
  | .ok a =>
    let next := f s.output a
    ⟨s.log ++ next.log, next.output, next.result⟩
  | .error fault => ⟨s.log, s.output, .error fault⟩

def ofReport {α : Type} (o : Output) (r : Report α) : Step α := ⟨r.given.map (·, o), o, r.result⟩

end Step

namespace Generate

def stampedWith (name : Node) (entries : Entries) : Entries :=
  if Entries.has "$ref" entries then entries
  else Node.insertKey (.str originKey) name entries

mutual
def stampAt (names : List Nat → Option Node) (way : List Nat) : Node → Node
  | .pair a b => .pair (stampAt names (way ++ [0]) a) (stampAt names (way ++ [1]) b)
  | .list items => .list (stampItems names way 0 items)
  | .map entries => .map (match names way with
    | some name => stampedWith name (stampEntries names way 0 entries)
    | none => stampEntries names way 0 entries)
  | n => n
termination_by structural n => n
def stampItems (names : List Nat → Option Node) (way : List Nat) (i : Nat) :
    List Node → List Node
  | [] => []
  | n :: rest => stampAt names (way ++ [i]) n :: stampItems names way (i + 1) rest
termination_by structural ns => ns
def stampEntries (names : List Nat → Option Node) (way : List Nat) (i : Nat) :
    List (Node × Node) → List (Node × Node)
  | [] => []
  | (k, v) :: rest => (k, stampAt names (way ++ [i]) v) :: stampEntries names way (i + 1) rest
termination_by structural es => es
end

def lastKey (selected : Nat → Bool) (i : Nat) : Entries → Option Node
  | [] => none
  | (k, _) :: rest => (lastKey selected (i + 1) rest).or (if selected i then some k else none)

def keyPlace (key : String) : Node → Nat
  | .map entries => (Reference.indexOfKey? key entries).getD 0
  | _ => 0

def schemasWay (spec : Node) : List Nat :=
  let i := keyPlace "components" spec
  [i, keyPlace "schemas" ((Reference.childAt? spec i).getD .null)]

/-- The component schemas are stamped in their order, so that one object under several names keeps
the last of them, wherever it stands. -/
def stamped (spec : Node) (sharing : Sharing := []) : Except Fault Node := do
  let schemas ← Grouping.schemas [] spec
  let entries ← Parts.entries [] schemas
  return stampAt (fun way => lastKey (fun l => sharing.same way (schemasWay spec ++ [l])) 0 entries)
    [] spec

structure Parsed where
  raw : Node
  document : Document
  schemas : Node
  deriving Inhabited

def loadSpecification (w : World) : Specification → List Event × Except Fault Node
  | .value (.map entries) _ => ([], .ok (.map entries))
  | .value n _ => Source.load w n.plainText
  | .source s => Source.load w s

def sharingOf : Specification → Sharing
  | .value (.map _) sharing => sharing
  | _ => []

def inlined (raw : Node) (sharing : Sharing := []) : Report Parsed := do
  let document ← Document.dereference (← stamped raw sharing)
  let paths ← document.parts.size (← Grouping.paths document.parts document.root)
  let schemas ← Grouping.schemas [] raw
  let count ← Parts.size [] schemas
  Trail.give (.loaded paths count)
  return ⟨raw, document, schemas⟩

def parse (w : World) (s : Specification) : Report Parsed :=
  let (events, raw) := loadSpecification w s
  Trail.andThen ⟨events, raw⟩ (inlined · (sharingOf s))

def template (source : TemplateSource) (bundled : List Template.Piece) (name : String)
    (files : Files) : Except Fault (List Template.Piece) :=
  match source with
  | .bundled => .ok bundled
  | .directory base => do
    let text ← files.readText (base.append (Path.parse name))
    (Template.parse text).mapError .template

def write (directory : Path) (source : TemplateSource) (bundled : List Template.Piece)
    (name destination : String) (scope : Template.Scope) (o : Output) : Step Unit :=
  match (do Template.render (← template source bundled name o.files) scope) with
  | .error fault => Step.fail o fault
  | .ok text =>
    let path := directory.append (Path.parse destination)
    match o.files.writeText path text with
    | (files, .error fault) => Step.fail { o with files := files } fault
    | (files, .ok ()) =>
      let o : Output := ⟨files, o.written ++ [path]⟩
      ⟨[(.generated path.text, o)], o, .ok ()⟩

def writeResource (parts : Parts) (language : Language) (strict : Bool) (directory : Path)
    (source : TemplateSource) (r : Resource) (n : Namespace) (o : Output) : Step Unit :=
  (Step.ofReport o (View.resource parts language strict r n.className)).andThen fun o view =>
    write directory source (Template.resourceTemplate language) language.resourceTemplate
      n.filename view.scope o

def writeResources (parts : Parts) (language : Language) (strict : Bool) (directory : Path)
    (source : TemplateSource) : List (Resource × Namespace) → Output → Step Unit
  | [], o => Step.done o ()
  | (r, n) :: rest, o =>
    (writeResource parts language strict directory source r n o).andThen fun o _ =>
      writeResources parts language strict directory source rest o

def emit (parts : Parts) (language : Language) (strict : Bool) (directory : Path)
    (source : TemplateSource) (rs : List Resource) (o : Output) : Step Unit :=
  match View.namespaces parts language rs with
  | .error fault => Step.fail o fault
  | .ok ns =>
    (writeResources parts language strict directory source (rs.zip ns) o).andThen fun o _ =>
      write directory source (Template.indexTemplate language) language.indexTemplate
        language.indexFile (indexVariables ns) o

def runIn (w : World) (options : Options) (language : Language) (o : Output) : Step Unit :=
  (Step.ofReport o (parse w options.specification)).andThen fun o parsed =>
    (Step.ofReport o (Grouping.build parsed.document (some parsed.schemas))).andThen fun o rs =>
      match options.outputDirectory with
      | none => Step.fail o .wrongKind
      | some directory =>
        (emit parsed.document.parts language options.strict (Path.parse directory)
          options.templates rs o).andThen fun o _ =>
            ⟨[(.wrote o.written.length directory, o)], o, .ok ()⟩

def languageOf (options : Options) : Except Fault Language :=
  match options.language with
  | none => .error .wrongKind
  | some name => Language.ofName name

def run (w : World) (options : Options) : Step Unit :=
  let o : Output := ⟨w.files, []⟩
  match languageOf options with
  | .error fault => Step.fail o fault
  | .ok language => runIn w options language o

end Generate
end ClientGen
