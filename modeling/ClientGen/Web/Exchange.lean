import ClientGen.Event
import ClientGen.Web.Response
import ClientGen.Web.Url

/-! Fetching a text by its address from a table of answers. Redirections are followed up to a limit,
and the final status decides. -/
namespace ClientGen.Web

inductive Answer
  | response (r : Response)
  | failure (message : String)
  | fault (cause : Fault)
  deriving Repr, Inhabited

abbrev Table := List (String × Answer)

def redirectLimit : Nat := 20

/-- Why an exchange ends without a text: it failed for a reason to be told, or something stands in
the way that is not part of it. -/
inductive Stop
  | failed (reason : String)
  | fault (cause : Fault)
  deriving Repr, Inhabited

abbrev Exchanging := Except Stop

def regular (r : Reading Url) : Exchanging Url :=
  match r with
  | .ok u => .ok u
  | .error _ => .error (.fault .invalidAddress)

def hostOf (u : Url) : Exchanging (List Char) :=
  match u.shownHost with
  | .ok host => .ok host
  | .error flaw => .error (.fault (.badName flaw))

def joined (base u : Url) : Exchanging Url :=
  match Address.joined? base.text u.text with
  | some s => regular (Url.parse s)
  | none => .error (.fault .invalidValue)

def redirected (base : Url) (location : List Char) : Exchanging Url := do
  let u ← match Url.parse location with
    | .ok u => pure u
    | .error flaw =>
      .error (.failed ("Invalid URL in location header: " ++ flaw.message ++ "."))
  let u ←
    if u.scheme.isEmpty then pure u
    else do
      let host ← hostOf u
      if host.isEmpty then regular (u.withHost (← hostOf base)) else pure u
  let u ← if u.isAbsolute then pure u else joined base u
  let u ←
    if !base.plainFragment.isEmpty && u.plainFragment.isEmpty then
      regular (u.withFragment base.plainFragment)
    else pure u
  let _ ← hostOf u
  return u

def documentationHost : String := "developer.mozilla.org"

def refusal (r : Response) (address : String) : String :=
  statusKind r.status ++ " '" ++ toString r.status ++ " " ++ reasonPhrase r.status ++
    "' for url '" ++ address ++ "'\nFor more information check: " ++
    "https://" ++ documentationHost ++ "/en-US/docs/Web/HTTP/Status/" ++ toString r.status

def content (r : Response) (bytes : List UInt8) (address : String) : Exchanging String :=
  if isSuccess r.status then
    match r.charset.decode? bytes with
    | some s => .ok (String.ofList s)
    | none => .error (.fault .unmarkedUnits)
  else .error (.failed (refusal r address))

def answer (table : Table) (u : Url) : Exchanging (Response × List UInt8) :=
  match table.lookup (String.ofList u.text) with
  | none => .error (.failed "connection refused")
  | some (.failure message) => .error (.failed message)
  | some (.fault cause) => .error (.fault cause)
  | some (.response r) =>
    if !r.hasPlainHeaders then .error (.fault .notAscii)
    else match r.unpacked with
      | .error reason => .error (.failed reason)
      | .ok bytes =>
        if u.scheme.isEmpty then .error (.fault .invalidValue) else .ok (r, bytes)

def fetchFrom (table : Table) : Nat → Url → List Event × Exchanging String
  | 0, _ => ([], .error (.failed "Exceeded maximum allowed redirects."))
  | redirects + 1, u =>
    match answer table u with
    | .error stop => ([], .error stop)
    | .ok (r, bytes) =>
      let address := String.ofList u.text
      let event := Event.answered address r.status (reasonPhrase r.status)
      match r.redirection? with
      | none => ([event], content r bytes address)
      | some location =>
        match redirected u location with
        | .error stop => ([event], .error stop)
        | .ok next =>
          let (events, outcome) := fetchFrom table redirects next
          (event :: events, outcome)

def first (address : String) : Exchanging Url := do
  let u ← regular (Url.parse address.toList)
  let u := if u.isAbsolute then u else u.rooted
  let _ ← hostOf u
  return u

def fetch (table : Table) (address : String) : List Event × Exchanging String :=
  match first address with
  | .error stop => ([], .error stop)
  | .ok u => fetchFrom table (redirectLimit + 1) u

end ClientGen.Web
