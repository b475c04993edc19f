import ClientGen.Text.Base64
import ClientGen.Text.Quoted

/-! Why a run stops. Each cause is a constructor of its own; `message` words those that are told to
the user. -/
namespace ClientGen

inductive FileFault
  | missing
  | notADirectory
  | isADirectory
  | exists
  | nameTooLong
  | busy
  deriving DecidableEq, Repr, Inhabited

def FileFault.message (f : FileFault) (path : String) : String :=
  let reason := match f with
    | .missing => "[Errno 2] No such file or directory"
    | .notADirectory => "[Errno 20] Not a directory"
    | .isADirectory => "[Errno 21] Is a directory"
    | .exists => "[Errno 17] File exists"
    | .nameTooLong => "[Errno 36] File name too long"
    | .busy => "[Errno 16] Device or resource busy"
  reason ++ ": " ++ String.ofList (Text.display path.toList)

inductive LoadFault
  | unreadable (path : String) (fault : FileFault)
  | unfetchable (source reason : String)
  | malformed (source : String) (detail : Option String)
  | notADocument (source : String)
  deriving DecidableEq, Repr, Inhabited

def LoadFault.message : LoadFault → String
  | .unreadable path fault => "Unable to read " ++ path ++ ": " ++ fault.message path
  | .unfetchable source reason => "Unable to fetch " ++ source ++ ": " ++ reason
  | .malformed source detail =>
    "Unable to parse " ++ source ++ ((detail.map (": " ++ ·)).getD "")
  | .notADocument source => source ++ " does not hold an OpenAPI document"

inductive ReferenceFault
  | unresolvable (shownPointer : String)
  | selfReference
  | foreignDocument (shownAddress : String)
  | foreignScheme (scheme : String)
  | noHost
  | unmarkedContent
  | badSextets (flaw : Text.SextetFlaw)
  | undecodable (place : Text.Undecodable)
  | malformed (detail : String)
  | hugeInteger (detail : String)
  deriving DecidableEq, Repr, Inhabited

def ReferenceFault.message : ReferenceFault → String
  | .unresolvable pointer => "Unresolvable JSON pointer: " ++ pointer
  | .selfReference => "Reference refers directly to itself."
  | .foreignDocument address => "ValueError: unknown url type: " ++ address
  | .foreignScheme scheme => "URLError: <urlopen error unknown url type: " ++ scheme ++ ">"
  | .noHost => "URLError: <urlopen error ftp error: no host given>"
  | .unmarkedContent => "ValueError: not enough values to unpack (expected 2, got 1)"
  | .badSextets flaw => "Error: " ++ flaw.message
  | .undecodable place => "UnicodeDecodeError: " ++ place.message
  | .malformed detail => "JSONDecodeError: " ++ detail
  | .hugeInteger detail => "ValueError: " ++ detail

inductive NameFlaw
  | malformed
  | letter
  | context
  | direction
  deriving DecidableEq, Repr, Inhabited

inductive TemplateFault
  | grammar
  | unknownFilter
  | reservedName
  | missingFilter
  deriving DecidableEq, Repr, Inhabited

inductive Fault
  | unexpectedReference (target : String)
  | noMediaType
  | noResponse (operation : String)
  | emptyValue (key : String)
  | unsupportedType (shown : String)
  | unknownPlatform (name : String)
  | unresolved (reference : String) (reason : ReferenceFault)
  | typeCollision (name : String)
  | load (fault : LoadFault)
  | undefinedName (name : String)
  | undefinedAttribute (owner name : String)
  | undefinedElement (owner shownIndex : String)
  | undefinedValue (reason : String)
  | template (fault : TemplateFault)
  | notAnObject
  | wrongKind
  | missingKey
  | outOfRange
  | invalidValue
  | endless
  | undecodable
  | file (fault : FileFault) (path : String)
  | zeroWidth
  | tooLarge
  | longInteger
  | outOfMemory
  | badAddress (kind : String)
  | invalidAddress
  | badName (flaw : NameFlaw)
  | notAscii
  | unmarkedUnits
  deriving DecidableEq, Repr, Inhabited

/-- The text shown to the user; causes that only a malformed document brings about have none. -/
def Fault.message? : Fault → Option String
  | .unexpectedReference target =>
    some ("Unexpected reference was found" ++ if target.isEmpty then "" else ": " ++ target)
  | .noMediaType => some "Content declares no media types"
  | .noResponse operation => some ("Operation " ++ operation ++ " declares no responses")
  | .emptyValue key => some ("Value was required for key " ++ key)
  | .unsupportedType shown => some ("Unable to convert type " ++ shown)
  | .unknownPlatform name => some ("No known platform \"" ++ name ++ "\"")
  | .unresolved reference reason =>
    some ("Unable to dereference document: Error while resolving `" ++ reference ++ "`: " ++
      reason.message)
  | .typeCollision name => some ("Type " ++ name ++ " was defined twice with different fields")
  | .load fault => some fault.message
  | .undefinedName name => some ("'" ++ name ++ "' is undefined")
  | .undefinedValue reason => some reason
  | .undefinedElement owner index => some (owner ++ " has no element " ++ index)
  | .undefinedAttribute owner name =>
    some ("'" ++ owner ++ "' has no attribute " ++ String.ofList (Text.display name.toList))
  | _ => none

theorem Fault.bindOk {ε α β : Type} {r : Except ε α} {f : α → Except ε β} {b : β}
    (ok : (r >>= f) = .ok b) : ∃ a, r = .ok a ∧ f a = .ok b := by
  cases r with
  | error fault => cases ok
  | ok a => exact ⟨a, rfl, ok⟩

theorem Fault.bindKnown {ε α β : Type} {r : Except ε α} {f : α → Except ε β} {a : α} {b : β}
    (ok : (r >>= f) = .ok b) (known : r = .ok a) : f a = .ok b := by
  rw [known] at ok
  exact ok

end ClientGen
