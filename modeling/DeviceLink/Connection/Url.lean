import DeviceLink.Connection.Host

/-!
# Addresses of brokers

A URL is taken apart into its scheme, credentials, host, port and query.  Path
and fragment mean nothing to a broker and are passed over.  Blanks around a URL
and line breaks within it are dropped before anything else.

With schemes of the web a URL has a host in any case, and a backslash is as good
as a slash.  A local file may be on another host but has no port.  With other
schemes a URL may do without a host.
-/

namespace DeviceLink

inductive UrlError
  | relative
  | host (error : HostError)
  | invalidPort
deriving DecidableEq, Repr

def UrlError.message : UrlError → String
  | relative => "relative URL without a base"
  | host error => error.message
  | invalidPort => "invalid port number"

/-- The parts of a URL; names and passwords as they are written. -/
structure Url where
  scheme : String
  username : String := ""
  password : Option String := none
  host : String := ""
  port : Option Nat := none
  query : String := ""
deriving DecidableEq, Repr

namespace Url

def isOuterBlank (c : Char) : Bool := c.toNat ≤ 0x20

def isLineBreak (c : Char) : Bool := c = '\t' || c = '\n' || c = '\r'

/-- Drops blanks around the text and line breaks within it. -/
def clean (cs : List Char) : List Char :=
  let trimmed := ((cs.dropWhile isOuterBlank).reverse.dropWhile isOuterBlank).reverse
  trimmed.filter fun c => !isLineBreak c

def takeScheme (cs : List Char) : Option (String × List Char) :=
  let inScheme (c : Char) : Bool := c.isAlphanum || c = '+' || c = '-' || c = '.'
  match cs with
  | [] => none
  | c :: _ =>
    if c.isAlpha then
      match cs.span inScheme with
      | (scheme, ':' :: rest) => some (String.ofList (scheme.map Char.toLower), rest)
      | _ => none
    else none

inductive SchemeKind
  | web
  | file
  | other
deriving DecidableEq, Repr

def SchemeKind.of (scheme : String) : SchemeKind :=
  if ["http", "https", "ws", "wss", "ftp"].contains scheme then .web
  else if scheme = "file" then .file
  else .other

def isSlash (c : Char) : Bool := c = '/' || c = '\\'

/-- The port after the host's colon, up to a backslash; nothing after it is no
port. -/
def port? (cs : List Char) : Except UrlError (Option Nat) :=
  let cs := cs.takeWhile (· ≠ '\\')
  if cs = [] then .ok none
  else if cs.all Char.isDigit then
    let n := cs.foldl (fun n c => n * 10 + (c.toNat - 48)) 0
    if n ≤ 65535 then .ok (some n) else .error .invalidPort
  else .error .invalidPort

/-- Splits at the colon before the port; colons between brackets are part of the
host. -/
def splitPort (inBrackets : Bool) : List Char → List Char × Option (List Char)
  | [] => ([], none)
  | c :: rest =>
    if c = ':' && !inBrackets then ([], some rest)
    else
      let inBrackets := if c = '[' then true else if c = ']' then false else inBrackets
      let (host, port) := splitPort inBrackets rest
      (c :: host, port)

def admitsInUserinfo (c : Char) : Bool :=
  0x20 < c.toNat && c.toNat ≤ 0x7e && !("\"#<>?\x60\x7b\x7d/:;=@[\\]^|".toList.contains c)

def readHost (kind : SchemeKind) (cs : List Char) : Except UrlError String :=
  (if kind = .other then Host.plain cs else Host.web cs).mapError .host

/-- Credentials, host and port of the part between the slashes and the path;
`isFollowed` says whether a path or anything else comes after that part.

Credentials and port need a host.  So does the sign that ends the credentials if
there are none before it, unless it is the end of the URL too. -/
def ofAuthority (kind : SchemeKind) (url : Url) (authority : List Char) (isFollowed : Bool) :
    Except UrlError Url := do
  let (userinfo, address) := match Text.splitLast (· = '@') authority with
    | some (userinfo, address) => (userinfo, address)
    | none => ([], authority)
  if authority = ['@'] && isFollowed then .error (.host .empty)
  let (name, password) := Text.splitFirst (· = ':') userinfo
  let encode (cs : List Char) : String := Text.percentEncode admitsInUserinfo (String.ofList cs)
  let (hostText, portText) := splitPort false address
  let needsHost := kind = .web || portText.isSome || name ≠ [] || password.any (· ≠ [])
  if hostText = [] && needsHost then .error (.host .empty)
  let host ← readHost kind hostText
  let port ← match portText with
    | some text => port? text
    | none => .ok none
  .ok { url with username := encode name, password := password.map encode, host, port }

/-- A URL of the web: however many slashes there are, the authority comes next. -/
def ofWeb (url : Url) (rest : List Char) (isFollowed : Bool) : Except UrlError Url :=
  let (authority, path) := Text.splitFirst isSlash (rest.dropWhile isSlash)
  ofAuthority .web url authority (isFollowed || path.isSome)

def isDrive (cs : List Char) : Bool :=
  match cs with
  | [letter, mark] => letter.isAlpha && (mark = ':' || mark = '|')
  | _ => false

/-- The URL of a file; a host needs two slashes before it. -/
def ofFile (url : Url) (rest : List Char) : Except UrlError Url :=
  match rest with
  | a :: b :: rest =>
    if isSlash a && isSlash b then
      let (text, _path) := Text.splitFirst isSlash rest
      if text = [] || isDrive text then .ok url
      else (readHost .file text).map fun host => { url with host }
    else .ok url
  | _ => .ok url

/-- A URL with another scheme; an authority needs two slashes before it. -/
def ofOther (url : Url) (rest : List Char) (isFollowed : Bool) : Except UrlError Url :=
  match rest with
  | '/' :: '/' :: rest =>
    let (authority, path) := Text.splitFirst (· = '/') rest
    ofAuthority .other url authority (isFollowed || path.isSome)
  | _ => .ok url

def ofText (s : String) : Except UrlError Url := do
  let some (scheme, rest) := takeScheme (clean s.toList) | .error .relative
  let (rest, fragment) := Text.splitFirst (· = '#') rest
  let (rest, query) := Text.splitFirst (· = '?') rest
  let url : Url := { scheme, query := String.ofList (query.getD []) }
  let isFollowed := query.isSome || fragment.isSome
  match SchemeKind.of scheme with
  | .web => ofWeb url rest isFollowed
  | .file => ofFile url rest
  | .other => ofOther url rest isFollowed

def queryPairs (url : Url) : List (String × String) :=
  let parts := (Text.splitAll (· = '&') url.query.toList).filter (· ≠ [])
  parts.map fun part =>
    let (name, value) := Text.splitFirst (· = '=') part
    (Text.formDecode (String.ofList name), Text.formDecode (String.ofList (value.getD [])))

end Url

end DeviceLink
