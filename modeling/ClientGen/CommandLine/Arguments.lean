import ClientGen.Language
import ClientGen.Text.Quoted

/-! The words of a command line. A word is a switch, a plain argument or an unknown switch, whatever
stands around it; behind `--` every word is plain. Long switches may be shortened as long as one
switch is meant, and short ones may be written together. The first plain word that no switch takes
is the specification. -/
namespace ClientGen.CommandLine

inductive Switch
  | help
  | language
  | output
  | templates
  | strictTypes
  | verbose
  deriving DecidableEq, Repr, Inhabited

namespace Switch

def all : List Switch := [.help, .language, .output, .templates, .strictTypes, .verbose]

def short? : Switch → Option Char
  | .help => some 'h'
  | .language => some 'l'
  | .output => some 'o'
  | .verbose => some 'v'
  | _ => none

def long : Switch → String
  | .help => "--help"
  | .language => "--language"
  | .output => "--output"
  | .templates => "--templates"
  | .strictTypes => "--strict-types"
  | .verbose => "--verbose"

def takesArgument : Switch → Bool
  | .language | .output | .templates => true
  | _ => false

def spellings (s : Switch) : String :=
  (s.short?.map fun c => "-" ++ String.singleton c ++ "/").getD "" ++ s.long

def ofShort? (c : Char) : Option Switch := all.find? fun s => s.short? = some c

end Switch

inductive Refusal
  | ambiguous (word : String) (candidates : List Switch)
  | noArgument (s : Switch)
  | unwantedArgument (s : Switch) (argument : List Char)
  | noSpecification
  | unrecognized (words : List String)
  deriving DecidableEq, Repr, Inhabited

def Refusal.message : Refusal → String
  | .ambiguous word candidates =>
    "ambiguous option: " ++ word ++ " could match " ++
      ", ".intercalate (candidates.map Switch.long)
  | .noArgument s => "argument " ++ s.spellings ++ ": expected one argument"
  | .unwantedArgument s argument =>
    "argument " ++ s.spellings ++ ": ignored explicit argument " ++
      String.ofList (Text.display argument)
  | .noSpecification => "the following arguments are required: specification"
  | .unrecognized words => "unrecognized arguments: " ++ " ".intercalate words

inductive Word
  | plain
  | switch (s : Switch) (isLong : Bool) (attached : Option (List Char))
  | unknown
  deriving DecidableEq, Repr, Inhabited

namespace Word

def isDigits (s : List Char) : Bool :=
  let digits := s.takeWhile Text.isDecimal
  !digits.isEmpty && (s.drop digits.length == [] || s.drop digits.length == ['\n'])

def isNumber (s : List Char) : Bool :=
  isDigits s || match s.dropWhile Text.isDecimal with
    | '.' :: rest => isDigits rest
    | _ => false

def undetermined (word : List Char) : Word :=
  if isNumber word.tail || word.contains ' ' then .plain else .unknown

def ofShort (c : Char) (rest : List Char) : Word :=
  match Switch.ofShort? c, rest with
  | none, _ => undetermined ('-' :: c :: rest)
  | some s, [] => .switch s false none
  | some s, '=' :: argument => .switch s false (some argument)
  | some s, argument => .switch s false (some argument)

def candidates (name : List Char) : List Switch :=
  Switch.all.filter fun s => name.isPrefixOf s.long.toList

def ofLong (word : List Char) : Except Refusal Word :=
  let name := word.takeWhile (· ≠ '=')
  let attached := (word.drop name.length).tail?
  match candidates name with
  | [] => .ok (undetermined word)
  | [s] => .ok (.switch s true attached)
  | several => .error (.ambiguous (String.ofList word) several)

def ofText (word : List Char) : Except Refusal Word :=
  match word with
  | '-' :: '-' :: _ => ofLong word
  | '-' :: c :: rest => .ok (ofShort c rest)
  | _ => .ok .plain

end Word

/-- A setting that a word makes: a switch that is set, or one that is given an argument. An argument
of two dashes and nothing else counts for nothing. -/
structure Setting where
  switch : Switch
  argument : Option String
  deriving DecidableEq, Repr, Inhabited

namespace Setting

def given (s : Switch) (argument : List Char) : Setting :=
  ⟨s, if argument = ['-', '-'] then none else some (String.ofList argument)⟩

end Setting

structure Cluster where
  settings : List Setting
  pending : Option Switch
  deriving Repr, Inhabited

namespace Cluster

def ofSwitch (s : Switch) : Cluster :=
  if s.takesArgument then ⟨[], some s⟩ else ⟨[⟨s, none⟩], none⟩

def addFirst (s : Switch) (c : Cluster) : Cluster := { c with settings := ⟨s, none⟩ :: c.settings }

def ofLetters (s : Switch) (letters : List Char) : Except Refusal Cluster :=
  if s.takesArgument then .ok ⟨[.given s letters], none⟩
  else match letters with
    | [] => .error (.unwantedArgument s [])
    | c :: rest =>
      match Switch.ofShort? c, rest with
      | none, _ => .error (.unwantedArgument s (c :: rest))
      | some next, [] => .ok ((ofSwitch next).addFirst s)
      | some next, more => (ofLetters next more).map (addFirst s)
termination_by letters.length

def ofAttached (s : Switch) (isLong : Bool) : Option (List Char) → Except Refusal Cluster
  | none => .ok (ofSwitch s)
  | some argument =>
    if isLong && !s.takesArgument then .error (.unwantedArgument s argument)
    else ofLetters s argument

end Cluster

structure Arguments where
  specification : String
  language : Option String
  output : Option String
  templates : Option String
  strictTypes : Bool
  verbose : Bool
  deriving DecidableEq, Repr, Inhabited

inductive Stop
  | help
  | refused (r : Refusal)
  deriving DecidableEq, Repr, Inhabited

structure Reading where
  arguments : Arguments
  hasSpecification : Bool
  isFresh : Bool
  extras : List String
  deriving Repr, Inhabited

namespace Reading

def start : Reading :=
  { arguments :=
      { specification := "", language := some Language.typescript.name,
        output := some "generated", templates := none, strictTypes := false, verbose := false }
    hasSpecification := false, isFresh := false, extras := [] }

def set (r : Reading) (x : Setting) : Except Stop Reading :=
  let a := r.arguments
  match x.switch with
  | .help => .error .help
  | .language => .ok { r with arguments := { a with language := x.argument } }
  | .output => .ok { r with arguments := { a with output := x.argument } }
  | .templates => .ok { r with arguments := { a with templates := x.argument } }
  | .strictTypes => .ok { r with arguments := { a with strictTypes := true } }
  | .verbose => .ok { r with arguments := { a with verbose := true } }

def setAll (r : Reading) : List Setting → Except Stop Reading
  | [] => .ok r
  | x :: rest => do (← r.set x).setAll rest

def addExtras (r : Reading) (words : List String) : Reading :=
  { r with extras := r.extras ++ words, isFresh := false }

def addPlain (r : Reading) (word : String) : Reading :=
  if r.hasSpecification then r.addExtras [word]
  else { r with
    arguments := { r.arguments with specification := word }
    hasSpecification := true
    isFresh := true }

def cluster? : Word → Option (Except Refusal Cluster)
  | .switch s isLong attached => some (Cluster.ofAttached s isLong attached)
  | _ => none

def isPlain : Word → Bool
  | .plain => true
  | _ => false

def addWords (r : Reading) : List (String × Word) → Except Stop Reading
  | [] => .ok r
  | (text, word) :: rest =>
    match cluster? word with
    | none => (if isPlain word then r.addPlain text else r.addExtras [text]).addWords rest
    | some (.error refusal) => .error (.refused refusal)
    | some (.ok c) =>
      match c.pending, rest with
      | none, rest => do
        let r ← (r.addExtras []).setAll c.settings
        r.addWords rest
      | some s, (value, .plain) :: rest => do
        let r ← (r.addExtras []).setAll (c.settings ++ [⟨s, some value⟩])
        r.addWords rest
      | some s, _ => .error (.refused (.noArgument s))

/-- Read the words behind `--`. The mark itself goes with the specification on either side of it
and is left over otherwise. -/
def addRest (r : Reading) (words : List String) : Reading :=
  if r.hasSpecification then r.addExtras (if r.isFresh then words else "--" :: words)
  else match words with
    | [] => r
    | word :: more => (r.addPlain word).addExtras more

def finish (r : Reading) : Except Stop Arguments :=
  if !r.hasSpecification then .error (.refused .noSpecification)
  else if !r.extras.isEmpty then .error (.refused (.unrecognized r.extras))
  else .ok r.arguments

end Reading

def divided (words : List String) : List String × Option (List String) :=
  let front := words.takeWhile (· ≠ "--")
  (front, (words.drop front.length).tail?)

def classified : List String → Except Refusal (List (String × Word))
  | [] => .ok []
  | word :: rest => do
    let first ← Word.ofText word.toList
    return (word, first) :: (← classified rest)

def Arguments.parse (words : List String) : Except Stop Arguments :=
  let (front, back) := divided words
  match classified front with
  | .error refusal => .error (.refused refusal)
  | .ok front => do
    let r ← Reading.start.addWords front
    (match back with
      | some back => r.addRest back
      | none => r).finish

end ClientGen.CommandLine
