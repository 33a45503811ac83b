/-
  Addresses (URLs).

  `Url.parse` reads an absolute address.  Addresses of the web, that is of the schemes http and
  https, are kept in full and have one written form, `Web.render`: the host normalised, the
  scheme's own port left out, dot segments resolved, and what each part may not hold
  percent-encoded.  Of any other address only the scheme is kept, after the same checks of host
  and port.

  Spaces and control characters around the text and tabs and line breaks inside it do not count.
-/
import TxRelay.Url.Host

namespace TxRelay.Url

/-! ## Schemes -/

/-- Schemes whose addresses are `scheme://host…` and take a backslash for a slash, with the port
    that they leave unwritten. -/
def knownPort : String → Option Nat
  | "http" | "ws" => some 80
  | "https" | "wss" => some 443
  | "ftp" => some 21
  | _ => none

/-- A character of a scheme after the first. -/
def schemeChar (c : Char) : Bool := c.isAlphanum || c = '+' || c = '-' || c = '.'

/-- The scheme in lower case and what follows its colon. -/
def scheme? (cs : List Char) : Option (String × List Char) :=
  match cs with
  | c :: _ =>
    if c.isAlpha then
      match cs.dropWhile schemeChar with
      | ':' :: rest => some (String.ofList ((cs.takeWhile schemeChar).map Char.toLower), rest)
      | _ => none
    else none
  | [] => none

/-! ## Authority: user, host and port -/

/-- A slash; a backslash counts where the scheme is known. -/
def isSlash (known : Bool) (c : Char) : Bool := c = '/' || (known && c = '\\')

/-- Where an authority ends. -/
def endsAuthority (known : Bool) (c : Char) : Bool := isSlash known c || c = '?' || c = '#'

/-- User name and password, each in its written form. -/
structure Credentials where
  username : List Char
  password : Option (List Char)
deriving DecidableEq, Repr

/-- The text before the `@`: the password starts after the first colon, and an empty one is
    none. -/
def credentials (cs : List Char) : Credentials :=
  let enc := Percent.encode Percent.userinfo
  let password := (cs.dropWhile (· ≠ ':')).drop 1
  ⟨enc (cs.takeWhile (· ≠ ':')), if password.isEmpty then none else some (enc password)⟩

/-- Split at the last `@`. -/
def splitUser (cs : List Char) : Option (List Char × List Char) :=
  if '@' ∈ cs then
    let host := (cs.reverse.takeWhile (· ≠ '@')).reverse
    some (cs.take (cs.length - host.length - 1), host)
  else none

/-- The host's text: up to a colon outside brackets. -/
def hostText : (inBrackets : Bool) → List Char → List Char
  | _, [] => []
  | inBrackets, c :: cs =>
    if c = ':' ∧ !inBrackets then []
    else c :: hostText (if c = '[' then true else if c = ']' then false else inBrackets) cs

/-- A port after its colon; the digits must be followed by nothing or by the end of the
    authority, and no digits are no port. -/
def port? (cs : List Char) : Except Error (Option Nat) :=
  let digits := cs.takeWhile Char.isDigit
  match cs.dropWhile Char.isDigit with
  | [] | '\\' :: _ =>
    if digits.isEmpty then .ok none
    else
      let n := Text.decimal digits
      if n < 65536 then .ok (some n) else .error .invalidPort
  | _ => .error .invalidPort

/-- User, host and port. -/
structure Authority where
  user : Credentials
  host : Host
  port : Option Nat
deriving DecidableEq, Repr

/-- Host and port, `who` in front of them. -/
def hostAndPort (known : Bool) (who : Credentials) (cs : List Char) : Except Error Authority := do
  let text := hostText false cs
  let after := cs.drop text.length
  if known then
    if text.isEmpty then throw .emptyHost
  let host ← if known then Host.parse text else Host.parseOpaque text
  if host = .domain "" ∧ after.head? = some ':' then throw .emptyHost
  let port ← match after with
    | ':' :: digits => port? digits
    | _ => pure none
  if host = .domain "" ∧ (who.username ≠ [] ∨ who.password.isSome) then throw .emptyHost
  pure ⟨who, host, port⟩

/-- The authority that an address starts with after its slashes. -/
def authority (known : Bool) (cs : List Char) : Except Error Authority :=
  let part := cs.takeWhile (fun c => !endsAuthority known c)
  match splitUser part with
  | none => hostAndPort known ⟨[], none⟩ part
  | some (user, host) =>
    if user.isEmpty ∧ host.isEmpty ∧ cs.length ≠ part.length then .error .emptyHost
    else hostAndPort known (credentials user) host

/-! ## Path, query and fragment -/

/-- Two characters that name a drive, such as `C:`. -/
def isDrive : List Char → Bool
  | [a, b] => a.isAlpha && (b = ':' || b = '|')
  | _ => false

/-- Spellings of the segment `.`. -/
def isDot (segment : List Char) : Bool :=
  ["." , "%2e"].contains (String.ofList (segment.map Char.toLower))

/-- Spellings of the segment `..`. -/
def isDotDot (segment : List Char) : Bool :=
  ["..", "%2e%2e", "%2e.", ".%2e"].contains (String.ofList (segment.map Char.toLower))

/-- Put a segment behind the ones before it, which stand in reverse.  `.` names the place it is
    in; `..` steps back, but never past a drive. -/
def addSegment (before : List (List Char)) (segment : List Char) (last : Bool) :
    List (List Char) :=
  if isDotDot segment then
    let back := match before with
      | s :: more => if isDrive s then s :: more else more
      | [] => []
    if last then [] :: back else back
  else if isDot segment then
    if last then [] :: before else before
  else segment :: before

/-- The segments between slashes, dot segments resolved. -/
def segments (pieces : List (List Char)) : List (List Char) :=
  let rec go : List (List Char) → List (List Char) → List (List Char)
    | [], acc => acc.reverse
    | [s], acc => (addSegment acc s true).reverse
    | s :: t :: more, acc => go (t :: more) (addSegment acc s false)
  go pieces []

/-- The path of a web address, from the end of its authority on: it always starts with a
    slash. -/
def path (cs : List Char) : List Char :=
  let text := cs.takeWhile fun c => c ≠ '?' ∧ c ≠ '#'
  let text := match text with
    | c :: rest => if isSlash true c then rest else c :: rest
    | [] => []
  let pieces := text.splitOnP (isSlash true)
  (segments (pieces.map (Percent.encode Percent.path))).flatMap ('/' :: ·)

/-- The query, if a question mark stands before any hash. -/
def query (cs : List Char) : Option (List Char) :=
  match cs.dropWhile fun c => c ≠ '?' ∧ c ≠ '#' with
  | '?' :: rest => some (Percent.encode Percent.query (rest.takeWhile (· ≠ '#')))
  | _ => none

/-- The fragment, if a hash occurs. -/
def fragment (cs : List Char) : Option (List Char) :=
  match cs.dropWhile (· ≠ '#') with
  | '#' :: rest => some (Percent.encode Percent.fragment rest)
  | _ => none

/-! ## Addresses -/

/-- An address of the web in its written form, part by part. -/
structure Web where
  scheme : String
  user : Credentials
  host : Host
  /-- The port, unless it is the scheme's own. -/
  port : Option Nat
  path : List Char
  query : Option (List Char)
  fragment : Option (List Char)
deriving DecidableEq, Repr

namespace Web

/-- The user in front of the host, up to and with the `@`. -/
def renderUser (user : Credentials) : List Char :=
  match user.password with
  | none => if user.username.isEmpty then [] else user.username ++ ['@']
  | some password => user.username ++ ':' :: password ++ ['@']

/-- The written form. -/
def render (u : Web) : String :=
  u.scheme ++ "://" ++ String.ofList (renderUser u.user) ++ u.host.render ++
    (match u.port with | none => "" | some p => ":" ++ toString p) ++
    String.ofList u.path ++
    (match u.query with | none => "" | some q => "?" ++ String.ofList q) ++
    (match u.fragment with | none => "" | some f => "#" ++ String.ofList f)

end Web

/-- An absolute address: of the web, or of some other scheme. -/
inductive Location where
  | web (address : Web)
  | other (scheme : String)
deriving DecidableEq, Repr

/-- The scheme of an address. -/
def Location.scheme : Location → String
  | web address => address.scheme
  | other scheme => scheme

/-- Is `c` blank or a control character? -/
def isBlank (c : Char) : Bool := c.toNat ≤ 0x20

/-- The characters of a text that count. -/
def significant (s : String) : List Char :=
  let trimmed := ((s.toList.dropWhile isBlank).reverse.dropWhile isBlank).reverse
  trimmed.filter fun c => c ≠ '\t' ∧ c ≠ '\n' ∧ c ≠ '\x0d'

/-- The host of a file address, where it has one; a drive is none. -/
def fileHost (cs : List Char) : Except Error Unit :=
  match cs with
  | a :: b :: rest =>
    if isSlash true a ∧ isSlash true b then
      let text := rest.takeWhile fun c => !endsAuthority true c
      if text.isEmpty ∨ isDrive text then .ok ()
      else (Host.parse text).map fun _ => ()
    else .ok ()
  | _ => .ok ()

/-- A known scheme's address after its slashes. -/
def knownAddress (scheme : String) (ownPort : Nat) (cs : List Char) : Except Error Location := do
  let a ← authority true cs
  if scheme = "http" ∨ scheme = "https" then
    let rest := cs.dropWhile fun c => !endsAuthority true c
    pure (.web ⟨scheme, a.user, a.host, if a.port = some ownPort then none else a.port,
      path rest, query rest, fragment rest⟩)
  else
    pure (.other scheme)

/-- Read an absolute address. -/
def parse (s : String) : Except Error Location :=
  match scheme? (significant s) with
  | none => .error .noScheme
  | some (scheme, rest) =>
    match knownPort scheme with
    | some ownPort => knownAddress scheme ownPort (rest.dropWhile (isSlash true))
    | none =>
      if scheme = "file" then (fileHost rest).map fun _ => .other scheme
      else
        match rest with
        | '/' :: '/' :: cs => (authority false cs).map fun _ => .other scheme
        | _ => .ok (.other scheme)

end TxRelay.Url
