import ClientGen.Address.Basic
import ClientGen.Address.Name
import ClientGen.Text.Integer

/-! Addresses of the web in their regular form: the scheme and the host in small letters, a host of
any script in ASCII, no port where the scheme has it anyway, no dots as steps of a path behind a
scheme or host, and percent escapes for all that may not stand in its part. An address that has no
regular form is refused with a reason. -/
namespace ClientGen.Web

structure Url where
  scheme : List Char
  user : List Char
  host : List Char
  port : Option Int
  path : List Char
  query : Option (List Char)
  fragment : Option (List Char)
  deriving DecidableEq, Repr, Inhabited

inductive UrlFlaw
  | tooLong
  | control (c : Char) (position : Nat)
  | pointedHost (host : List Char)
  | groupedHost (host : List Char)
  | hostName (host : List Char)
  | port (text : List Char)
  | stepBehindHost
  | doubleSlash
  | leadingColon
  deriving DecidableEq, Repr, Inhabited

def quotedText (s : List Char) : String := String.ofList (Text.display s)

def UrlFlaw.message : UrlFlaw → String
  | .tooLong => "URL too long"
  | .control c position => "Invalid non-printable ASCII character in URL, " ++ quotedText [c] ++
      " at position " ++ toString position ++ "."
  | .pointedHost host => "Invalid IPv4 address: " ++ quotedText host
  | .groupedHost host => "Invalid IPv6 address: " ++ quotedText host
  | .hostName host => "Invalid IDNA hostname: " ++ quotedText host
  | .port text => "Invalid port: " ++ quotedText text
  | .stepBehindHost => "For absolute URLs, path must be empty or begin with '/'"
  | .doubleSlash => "Relative URLs cannot have a path starting with '//'"
  | .leadingColon => "Relative URLs cannot have a path starting with ':'"

abbrev Reading := Except UrlFlaw

namespace Url

def isPlain (c : Char) : Bool := decide (0x20 ≤ c.toNat ∧ c.toNat < 0x7f)

def mayStandIn (excluded : String) (c : Char) : Bool := isPlain c && !excluded.toList.contains c

def isFragmentChar : Char → Bool := mayStandIn " \"<>\x60"

def isQueryChar : Char → Bool := mayStandIn " \"#<>"

def isPathChar : Char → Bool := mayStandIn " \"#<>?\x60\x7b\x7d"

def isUserChar : Char → Bool := mayStandIn " \"#<>?\x60\x7b\x7d/;=@[\\]^|"

def isHostChar (c : Char) : Bool :=
  Text.isAsciiAlnum c || "-._~!$&'()*+,;=\"\x60\x7b\x7d%|\\".toList.contains c

def lengthLimit : Nat := 65536

def isControl (c : Char) : Bool := decide (c.toNat < 0x20 ∨ c.toNat = 0x7f)

def checkText (s : List Char) : Reading Unit :=
  if lengthLimit < s.length then .error .tooLong
  else match s.findIdx? isControl with
    | some i => .error (.control (s[i]?.getD ' ') i)
    | none => .ok ()

def pointedStep (states : List Nat) (c : Char) : List Nat :=
  (states.flatMap fun s =>
    (if Text.isAsciiDigit c then [if s % 2 = 0 then s + 1 else s] else []) ++
      (if s % 2 = 1 ∧ s < 7 then [s + 1] else [])).eraseDups

def isPointedShape (host : List Char) : Bool := (host.foldl pointedStep [0]).contains 7

def regularHost (host : List Char) : Reading (List Char) :=
  if host.isEmpty then .ok []
  else if isPointedShape host then
    if Address.isPointed host then .ok host else .error (.pointedHost host)
  else if host.head? = some '[' && host.getLast? = some ']' then
    let inner := (host.drop 1).dropLast
    if Address.isGrouped inner then .ok inner else .error (.groupedHost host)
  else if host.all (·.toNat < 128) then .ok (Text.escaped isHostChar (Text.lower host))
  else match Address.codedName (Text.lower host) with
    | .ok name => .ok name
    | .error _ => .error (.hostName host)

def schemePort? (scheme : List Char) : Option Int :=
  match String.ofList scheme with
  | "ftp" => some 21
  | "http" | "ws" => some 80
  | "https" | "wss" => some 443
  | _ => none

def digitLimit : Nat := 4300

def regularPort (scheme text : List Char) : Reading (Option Int) :=
  if text.isEmpty then .ok none
  else match Text.integer? 10 text with
    | none => .error (.port text)
    | some n =>
      if digitLimit < (text.filter fun c => (Text.decimalValue? c).isSome).length then
        .error (.port text)
      else if some n = schemePort? scheme then .ok none
      else .ok (some n)

def cutAuthority (authority : List Char) : List Char × List Char × List Char :=
  let hostAndPort := (authority.reverse.takeWhile (· ≠ '@')).reverse
  let user := (authority.take (authority.length - hostAndPort.length)).dropLast
  let bracketed := (hostAndPort.reverse.dropWhile (· ≠ ']')).reverse
  let host :=
    if hostAndPort.head? = some '[' && !bracketed.isEmpty then bracketed
    else hostAndPort.takeWhile (· ≠ ':')
  let rest := hostAndPort.drop host.length
  (user, host, if rest.head? = some ':' then rest.drop 1 else rest)

def checkPath (hasScheme hasAuthority : Bool) (path : List Char) : Reading Unit :=
  if hasAuthority && !path.isEmpty && path.head? ≠ some '/' then .error .stepBehindHost
  else if !hasScheme && !hasAuthority then
    if ['/', '/'].isPrefixOf path then .error .doubleSlash
    else if path.head? = some ':' then .error .leadingColon
    else .ok ()
  else .ok ()

def withoutDots (done : List (List Char)) : List (List Char) → List (List Char)
  | [] => done.reverse
  | step :: rest =>
    if step = ['.'] then withoutDots done rest
    else if step = ['.', '.'] then withoutDots (if done = [[]] then done else done.tail) rest
    else withoutDots (step :: done) rest

def regularPath (path : List Char) : List Char :=
  Text.joinWith ['/'] (withoutDots [] (Text.splitAt '/' path))

def assemble (scheme user host port path : List Char) (query fragment : Option (List Char)) :
    Reading Url := do
  let user := Text.escaped isUserChar user
  let regular ← regularHost host
  let port ← regularPort scheme port
  let hasAuthority := !user.isEmpty || !regular.isEmpty || port.isSome
  checkPath (!scheme.isEmpty) hasAuthority path
  let path := if !scheme.isEmpty || hasAuthority then regularPath path else path
  return ⟨Text.lower scheme, user, regular, port, Text.escaped isPathChar path,
    query.map (Text.escaped isQueryChar), fragment.map (Text.escaped isFragmentChar)⟩

def cutScheme (s : List Char) : List Char × List Char :=
  let lead := s.takeWhile Address.isSchemeChar
  match s.drop lead.length with
  | ':' :: rest => if (lead.head?.map Address.isLetter).getD true then (lead, rest) else ([], s)
  | _ => ([], s)

def behind (mark : Char) (s : List Char) : Option (List Char) :=
  match s with
  | c :: rest => if c = mark then some rest else none
  | [] => none

def parse (s : List Char) : Reading Url := do
  checkText s
  let (scheme, s) := cutScheme s
  let authority := match s with
    | '/' :: '/' :: rest => rest.takeWhile (!Address.isDelimiter ·)
    | _ => []
  let s := if ['/', '/'].isPrefixOf s then s.drop (authority.length + 2) else s
  let path := s.takeWhile fun c => c ≠ '?' ∧ c ≠ '#'
  let s := s.drop path.length
  let query := (behind '?' s).map fun q => q.takeWhile (· ≠ '#')
  let fragment := behind '#' (s.dropWhile (· ≠ '#'))
  let (user, host, port) := cutAuthority authority
  assemble scheme user host port path query fragment

def authority (u : Url) : List Char :=
  (if u.user.isEmpty then [] else u.user ++ ['@']) ++
    (if u.host.contains ':' then '[' :: u.host ++ [']'] else u.host) ++
    match u.port with
    | some port => ':' :: (toString port).toList
    | none => []

def text (u : Url) : List Char :=
  (if u.scheme.isEmpty then [] else u.scheme ++ [':']) ++
    (if u.authority.isEmpty then [] else '/' :: '/' :: u.authority) ++ u.path ++
    (u.query.map ('?' :: ·)).getD [] ++ (u.fragment.map ('#' :: ·)).getD []

def isAbsolute (u : Url) : Bool := !u.scheme.isEmpty && !u.host.isEmpty

def shownHost (u : Url) : Except NameFlaw (List Char) :=
  if Address.codeLead.isPrefixOf u.host then Address.spelledName u.host else .ok u.host

def replaced (u : Url) (host : Option (List Char)) (fragment : Option (List Char)) :
    Reading Url := do
  let (user, written, port) := cutAuthority u.authority
  let host := match host with
    | some h => if h.contains ':' then '[' :: h ++ [']'] else h
    | none => written
  for part in [u.authority, host, u.path, u.query.getD [], fragment.getD []] do checkText part
  assemble u.scheme user host port u.path u.query fragment

def withHost (u : Url) (host : List Char) : Reading Url := u.replaced (some host) u.fragment

def withFragment (u : Url) (fragment : List Char) : Reading Url := u.replaced none (some fragment)

def plainFragment (u : Url) : List Char := Text.unescaped (u.fragment.getD [])

def rooted (u : Url) : Url :=
  ⟨[], [], [], none, '/' :: u.path.dropWhile (· = '/'), u.query, none⟩

end Url
end ClientGen.Web
