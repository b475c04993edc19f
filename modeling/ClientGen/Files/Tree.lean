import ClientGen.Files.Folder
import ClientGen.Fault

/-! A tree of files. Reading a text unifies its line ends, writing changes nothing, and a file is
replaced in one step, after the directories on its way have been made. -/
namespace ClientGen

inductive Origin
  | here
  | above (levels : Nat)
  | top
  deriving DecidableEq, Repr, Inhabited

def Origin.up : Origin → Origin
  | .here => .above 1
  | .above levels => .above (levels + 1)
  | .top => .top

structure Location where
  origin : Origin
  names : List String
  deriving DecidableEq, Repr, Inhabited

def Location.up (l : Location) : Location :=
  if l.names.isEmpty then ⟨l.origin.up, []⟩ else ⟨l.origin, l.names.dropLast⟩

def Location.below (l : Location) (step : String) : Location :=
  if step = ".." then l.up else ⟨l.origin, l.names ++ [step]⟩

def Location.text (l : Location) : String :=
  let lead := match l.origin with
    | .here => ""
    | .above levels => String.join (List.replicate levels "../")
    | .top => "/"
  lead ++ "/".intercalate l.names

structure Files where
  roots : List (Origin × Folder)
  /-- Where writing a text breaks off: what stands there by then, and why. -/
  breaks : List (Origin × Folder) → Location → String → Option (FileContent × FileFault) :=
    fun _ _ _ => none
  deriving Inhabited

structure Spot where
  origin : Origin
  names : List String
  folders : List Folder
  entry : Option Entry
  deriving Inhabited

def Spot.location (s : Spot) : Location := ⟨s.origin, s.names.reverse⟩

namespace Files

def empty : Files := { roots := [] }

def root (f : Files) (o : Origin) : Folder := (f.roots.lookup o).getD []

def setRoot (o : Origin) (folder : Folder) : List (Origin × Folder) → List (Origin × Folder)
  | [] => [(o, folder)]
  | (o', old) :: rest => if o' = o then (o, folder) :: rest else (o', old) :: setRoot o folder rest

def entryAt? (f : Files) (l : Location) : Option Entry := (f.root l.origin).at? l.names

def contentAt? (f : Files) (l : Location) : Option FileContent :=
  match f.entryAt? l with
  | some (.file c) => some c
  | _ => none

def place (f : Files) (l : Location) (e : Entry) : Files :=
  { f with roots := setRoot l.origin ((f.root l.origin).place e l.names) f.roots }

def remove (f : Files) (l : Location) : Files :=
  { f with roots := setRoot l.origin ((f.root l.origin).remove l.names) f.roots }

def spotAt (f : Files) (o : Origin) : Spot := ⟨o, [], [], some (.folder (f.root o))⟩

def above (f : Files) (s : Spot) : Spot :=
  match s.names, s.folders with
  | _ :: names, folder :: folders => ⟨s.origin, names, folders, some (.folder folder)⟩
  | _, _ => f.spotAt s.origin.up

def nameLimit : Nat := 255

def pathLimit : Nat := 4095

def follow (f : Files) (s : Spot) : List String → Except FileFault Spot
  | [] => .ok s
  | step :: rest =>
    match s.entry with
    | none => .error .missing
    | some (.file _) => .error .notADirectory
    | some (.folder entries) =>
      if nameLimit < step.utf8ByteSize then .error .nameTooLong
      else if step = ".." then f.follow (f.above s) rest
      else f.follow ⟨s.origin, step :: s.names, entries :: s.folders, entries.lookup step⟩ rest

def originOf (p : Path) : Origin := if p.anchor.isEmpty then .here else .top

def locate (f : Files) (p : Path) : Except FileFault Spot :=
  if pathLimit < p.text.utf8ByteSize then .error .nameTooLong
  else f.follow (f.spotAt (originOf p)) p.steps

def isForbidden (p : Path) : Bool := p.steps.any fun s => s.toList.contains '\x00'

def isDirectory (f : Files) (p : Path) : Except FileFault Bool :=
  match f.locate p with
  | .ok s =>
    match s.entry with
    | some (.folder _) => .ok true
    | _ => .ok false
  | .error .missing | .error .notADirectory => .ok false
  | .error fault => .error fault

def content (f : Files) (p : Path) : Except FileFault FileContent := do
  match (← f.locate p).entry with
  | none => .error .missing
  | some (.folder _) => .error .isADirectory
  | some (.file c) => .ok c

def makeDirectory (f : Files) (p : Path) : Except FileFault Files := do
  let s ← f.locate p
  match s.entry with
  | some _ => .error .exists
  | none => .ok (f.place s.location (.folder []))

def keepDirectory (f : Files) (p : Path) (fault : FileFault) : Except FileFault Files := do
  if ← f.isDirectory p then .ok f else .error fault

def keep (f : Files) (p : Path) (fault : FileFault) : Files × Except FileFault Unit :=
  match f.keepDirectory p fault with
  | .ok f => (f, .ok ())
  | .error fault => (f, .error fault)

/-- Make a directory and those on its way; `fuel` bounds the length of the way. The files are
returned also where it fails, because directories made before stay. -/
def makeDirectories : Nat → Path → Files → Files × Except FileFault Unit
  | 0, _, f => (f, .error .missing)
  | fuel + 1, p, f =>
    match f.makeDirectory p with
    | .ok f => (f, .ok ())
    | .error .missing =>
      if p.parent = p then (f, .error .missing)
      else match makeDirectories fuel p.parent f with
        | (f, .error fault) => (f, .error fault)
        | (f, .ok ()) =>
          match f.makeDirectory p with
          | .ok f => (f, .ok ())
          | .error .missing => (f, .error .missing)
          | .error fault => f.keep p fault
    | .error fault => f.keep p fault

def readText (f : Files) (p : Path) : Except Fault String :=
  if isForbidden p then .error .invalidValue
  else match f.content p with
    | .error fault => .error (.file fault p.text)
    | .ok (.raw _) => .error .undecodable
    | .ok (.text s) => .ok (String.ofList (Text.unifyLineEnds s.toList))

/-- Characters that the name of a temporary file gains, and characters that its path gains in
front, since the file is then named from the top on. -/
def transientLength : Nat := 14

def transientLead : Nat := 17

def transientAlphabet : List Char := "abcdefghijklmnopqrstuvwxyz0123456789_".toList

def transientLetters (k : Nat) : String :=
  String.ofList ((List.range 8).map fun i =>
    transientAlphabet.getD (k / Nat.pow transientAlphabet.length i % transientAlphabet.length) 'a')

def transientPath (p : Path) (letters : String) : Path :=
  p.parent.append ⟨"", ["." ++ p.name ++ "." ++ letters ++ ".tmp"]⟩

def transientTries : Nat := 238328

def createFile (f : Files) (p : Path) : Except FileFault (Location × Files) := do
  let s ← f.locate p
  match s.entry with
  | some _ => .error .exists
  | none => .ok (s.location, f.place s.location (.file (.text "")))

def createTransient (letters : Nat → String) (f : Files) (p : Path) :
    Nat → Nat → Except FileFault (Location × Files)
  | 0, _ => .error .exists
  | tries + 1, k =>
    match f.createFile (transientPath p (letters k)) with
    | .error .exists => createTransient letters f p tries (k + 1)
    | r => r

def fill (f : Files) (l : Location) (s : String) : Files × Except FileFault Unit :=
  match f.breaks f.roots l s with
  | some (part, fault) => (f.place l (.file part), .error fault)
  | none => (f.place l (.file (.text s)), .ok ())

def rename (f : Files) (source : Location) (p : Path) : Except FileFault Files := do
  if p.steps.isEmpty || p.name = ".." then .error .busy
  else
    let spot ← f.locate p
    match spot.entry, f.entryAt? source with
    | some (.folder _), _ => .error .isADirectory
    | _, some (.file c) => .ok ((f.remove source).place spot.location (.file c))
    | _, _ => .error .missing

/-- Fill a temporary file and let it take the place of the file that a path leads to. Where either
fails the temporary file is removed. -/
def install (f : Files) (temporary : Location) (p : Path) (s : String) :
    Files × Except FileFault Unit :=
  match f.fill temporary s with
  | (f, .error fault) => (f.remove temporary, .error fault)
  | (f, .ok ()) =>
    match f.rename temporary p with
    | .error fault => (f.remove temporary, .error fault)
    | .ok f => (f, .ok ())

def writeVia (letters : Nat → String) (f : Files) (p : Path) (s : String) :
    Files × Except Fault Unit :=
  if isForbidden p.parent then (f, .error .invalidValue)
  else match f.makeDirectories (p.steps.length + 1) p.parent with
    | (f, .error fault) => (f, .error (.file fault p.parent.text))
    | (f, .ok ()) =>
      if isForbidden p then (f, .error .invalidValue)
      else if pathLimit < p.text.utf8ByteSize + transientLength + transientLead then
        (f, .error (.file .nameTooLong p.text))
      else match f.createTransient letters p transientTries 0 with
        | .error fault => (f, .error (.file fault p.text))
        | .ok (temporary, f) =>
          match f.install temporary p s with
          | (f, .error fault) => (f, .error (.file fault p.text))
          | (f, .ok ()) => (f, .ok ())

def writeText (f : Files) (p : Path) (s : String) : Files × Except Fault Unit :=
  f.writeVia transientLetters p s

def written (p : Path) : Location := p.steps.foldl Location.below ⟨originOf p, []⟩

def add (f : Files) (p : Path) (c : FileContent) : Files := f.place (written p) (.file c)

def addDirectory (f : Files) (p : Path) : Files :=
  match f.entryAt? (written p) with
  | some _ => f
  | none => f.place (written p) (.folder [])

def contents (f : Files) : List (Location × FileContent) :=
  f.roots.flatMap fun (o, folder) =>
    (Entry.contentsOf [] folder).map fun (names, c) => (⟨o, names.reverse⟩, c)

def changes (f before : Files) : List (Location × FileContent) :=
  f.contents.filter fun (l, c) => before.contentAt? l ≠ some c

def changesSince (f before : Files) : List (String × FileContent) :=
  (f.changes before).filterMap fun (l, c) =>
    if l.origin = .here then some (l.text, c) else none

end Files
end ClientGen
