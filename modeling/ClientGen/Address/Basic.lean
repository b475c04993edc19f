import ClientGen.Address.Host
import ClientGen.Text.LetterCase

/-! Addresses and their parts, and the address that another one means seen from it. An empty part
counts as absent. -/
namespace ClientGen

structure Address where
  scheme : List Char
  authority : List Char
  path : List Char
  query : List Char
  fragment : List Char
  deriving DecidableEq, Repr, Inhabited

namespace Address

def cutAt (c : Char) (s : List Char) : List Char × List Char :=
  let lead := s.takeWhile (· ≠ c)
  (lead, s.drop (lead.length + 1))

def isSchemeChar (c : Char) : Bool :=
  Text.isAsciiAlnum c || c == '+' || c == '-' || c == '.'

def isLetter (c : Char) : Bool := Text.isAsciiUpper c || Text.isAsciiLower c

def cutScheme (s : List Char) : List Char × List Char :=
  let lead := s.takeWhile (· ≠ ':')
  match lead, s.drop lead.length with
  | c :: _, ':' :: rest =>
    if isLetter c && lead.all isSchemeChar then (Text.lower lead, rest) else ([], s)
  | _, _ => ([], s)

def isDisguised (c : Char) : Bool :=
  Text.inRanges [(0x2047, 0x2049), (0x2100, 0x2101), (0x2105, 0x2106), (0x2a74, 0x2a74),
    (0xfe13, 0xfe13), (0xfe16, 0xfe16), (0xfe55, 0xfe56), (0xfe5f, 0xfe5f), (0xfe6b, 0xfe6b),
    (0xff03, 0xff03), (0xff0f, 0xff0f), (0xff1a, 0xff1a), (0xff1f, 0xff20)] c.toNat

def isBracketed (s : List Char) : Bool :=
  match s with
  | 'v' :: rest =>
    let version := rest.takeWhile fun c => (Text.hexValue? c).isSome
    match rest.drop version.length with
    | '.' :: c :: more => !version.isEmpty && !(c :: more).contains '\n'
    | _ => false
  | s => isGrouped s

def isAuthority (s : List Char) : Bool :=
  let bracketed := (cutAt ']' (cutAt '[' s).2).1
  (s.contains '[' == s.contains ']') && (!s.contains '[' || isBracketed bracketed) &&
    !s.any isDisguised

def isDelimiter (c : Char) : Bool := c == '/' || c == '?' || c == '#'

def parse? (s : List Char) : Option Address :=
  let s := (s.dropWhile fun c => decide (c.toNat ≤ 32)).filter fun c =>
    c != '\n' && c != '\r' && c != '\t'
  let (scheme, s) := cutScheme s
  let (authority, s) := match s with
    | '/' :: '/' :: rest =>
      let authority := rest.takeWhile (!isDelimiter ·)
      (authority, rest.drop authority.length)
    | s => ([], s)
  let (s, fragment) := cutAt '#' s
  let (path, query) := cutAt '?' s
  if isAuthority authority then some ⟨scheme, authority, path, query, fragment⟩ else none

def isOneOf (names : List String) (scheme : List Char) : Bool :=
  names.any fun name => name.toList = scheme

def isRelative : List Char → Bool := isOneOf [
  "", "ftp", "http", "gopher", "nntp", "imap", "wais", "file", "https", "shttp", "mms",
  "prospero", "rtsp", "rtsps", "rtspu", "sftp", "svn", "svn+ssh", "ws", "wss"]

def hasAuthority : List Char → Bool := isOneOf [
  "", "ftp", "http", "gopher", "nntp", "telnet", "imap", "wais", "file", "mms", "https", "shttp",
  "snews", "prospero", "rtsp", "rtsps", "rtspu", "rsync", "svn", "svn+ssh", "sftp", "nfs", "git",
  "git+ssh", "ws", "wss"]

def hasParameters : List Char → Bool := isOneOf [
  "", "ftp", "hdl", "prospero", "http", "imap", "https", "shttp", "rtsp", "rtsps", "rtspu", "sip",
  "sips", "mms", "sftp", "tel"]

def text (a : Address) : List Char :=
  let marked := !a.authority.isEmpty ||
    (!a.scheme.isEmpty && hasAuthority a.scheme && !(['/', '/'].isPrefixOf a.path))
  let path := if marked && !a.path.isEmpty && a.path.head? ≠ some '/' then '/' :: a.path else a.path
  (if a.scheme.isEmpty then [] else a.scheme ++ [':']) ++
    (if marked then '/' :: '/' :: a.authority else []) ++ path ++
    (if a.query.isEmpty then [] else '?' :: a.query) ++
    (if a.fragment.isEmpty then [] else '#' :: a.fragment)

def cutParameters (scheme path : List Char) : List Char × List Char :=
  if hasParameters scheme then
    let last := (path.reverse.takeWhile (· ≠ '/')).reverse
    let (step, parameters) := cutAt ';' last
    (path.take (path.length - last.length) ++ step, parameters)
  else (path, [])

def withParameters (path parameters : List Char) : List Char :=
  if parameters.isEmpty then path else path ++ ';' :: parameters

def cutFragment? (s : List Char) : Option (List Char × List Char) :=
  if s.contains '#' then do
    let a ← parse? s
    let (path, parameters) := cutParameters a.scheme a.path
    return ({ a with path := withParameters path parameters, fragment := [] }.text, a.fragment)
  else some (s, [])

def resolvedSteps (done : List (List Char)) : List (List Char) → List (List Char)
  | [] => done.reverse
  | step :: rest =>
    if step = ['.', '.'] then resolvedSteps done.tail rest
    else if step = ['.'] then resolvedSteps done rest
    else resolvedSteps (step :: done) rest

def isDots (step : List Char) : Bool := step == ['.'] || step == ['.', '.']

def stepsFrom (base path : List Char) : List (List Char) :=
  if path.head? = some '/' then Text.splitAt '/' path
  else
    let around := Text.splitAt '/' base
    let kept := if around.getLast? = some [] then around else around.dropLast
    let all := kept ++ Text.splitAt '/' path
    match all with
    | [] => []
    | first :: rest =>
      first :: (rest.dropLast.filter (!·.isEmpty) ++ rest.getLast?.toList)

def pathFrom (base path : List Char) : List Char :=
  let steps := stepsFrom base path
  let resolved := resolvedSteps [] steps
  let ended := if isDots (steps.getLast?.getD []) then resolved ++ [[]] else resolved
  match Text.joinWith ['/'] ended with
  | [] => ['/']
  | path => path

/-- What an address means that is written inside the document at `base`. -/
def joined? (base s : List Char) : Option (List Char) :=
  if base.isEmpty then some s
  else if s.isEmpty then some base
  else do
    let b ← parse? base
    let a ← parse? s
    let scheme := if a.scheme.isEmpty then b.scheme else a.scheme
    if scheme ≠ b.scheme || !isRelative scheme then return s
    let a := { a with scheme := scheme }
    let (path, parameters) := cutParameters scheme a.path
    if hasAuthority scheme && !a.authority.isEmpty then
      return { a with path := withParameters path parameters }.text
    let authority := if hasAuthority scheme then b.authority else a.authority
    let (basePath, baseParameters) := cutParameters b.scheme b.path
    if path.isEmpty && parameters.isEmpty then
      let query := if a.query.isEmpty then b.query else a.query
      return { a with
        authority := authority
        path := withParameters basePath baseParameters
        query := query }.text
    return { a with
      authority := authority
      path := withParameters (pathFrom basePath path) parameters }.text

end Address
end ClientGen
