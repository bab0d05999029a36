import Csdl.Text.Blank
import Csdl.Text.Cut
import Csdl.Url.Path

/-!
Where a service is: the scheme, the host and the path of its url. The host has its port with it if
the port is told and is not the usual one of the scheme.
-/

namespace Csdl

/-- Where a service is. -/
structure Location where
  scheme : String
  host : String
  basePath : String
  deriving DecidableEq, Repr

namespace Url

/-- A text without controls and spaces at its ends. -/
def trimEdges (cs : List Char) : List Char :=
  let isEdge (c : Char) : Bool := c.toNat ≤ 0x20
  ((cs.dropWhile isEdge).reverse.dropWhile isEdge).reverse

/-- A character of a scheme behind its first one. -/
def isSchemeChar (c : Char) : Bool :=
  c.isAlphanum || c = '+' || c = '-' || c = '.'

/-- The scheme of a url and what follows its colon, as it is written. -/
def cutScheme? (cs : List Char) : Option (String × List Char) :=
  match Text.cutAtFirst? ':' cs with
  | none => none
  | some (written, rest) =>
    let name := withoutIgnored written
    if name.head?.any Char.isAlpha && name.all isSchemeChar then
      some (String.ofList (name.map Char.toLower), rest)
    else none

/-- Whether a character ends the part of a url that names the host. -/
def endsAuthority (kind : SchemeKind) (c : Char) : Bool :=
  isSeparator kind c || c = '?' || c = '#'

/-- The part of a url before its host, up to the last at sign, and what follows. -/
def cutUser? (kind : SchemeKind) (cs : List Char) : Option (List Char × List Char) :=
  let authority := cs.takeWhile fun c => !endsAuthority kind c
  (Text.cutAtLast? '@' authority).map fun (user, rest) =>
    (user, rest ++ cs.drop authority.length)

/-- What follows the user of a url, and whether a user or a password is told. -/
def skipUser (kind : SchemeKind) (cs : List Char) : Except UrlError (Bool × List Char) :=
  match cutUser? kind cs with
  | none => .ok (false, cs)
  | some ([], rest) =>
    if rest.head?.any (endsAuthority kind) then .error .emptyHost else .ok (false, rest)
  | some (user, rest) => .ok (user ≠ [':'], rest)

/-- The host as it is written, behind the characters `done`, which are held in reverse. A colon in
brackets belongs to the host. -/
def cutHost (kind : SchemeKind) (inBrackets : Bool) (done cs : List Char) :
    List Char × List Char :=
  match cs with
  | [] => (done.reverse, [])
  | c :: rest =>
    if endsAuthority kind c || (c = ':' && !inBrackets) then (done.reverse, c :: rest)
    else cutHost kind (c = '[' || (inBrackets && c ≠ ']')) (c :: done) rest

/-- The port behind a host and what follows it. There is none if it is the usual one. -/
def cutPort (scheme : String) (cs : List Char) : Except UrlError (Option Nat × List Char) :=
  match cs with
  | ':' :: cs =>
    let digits := cs.takeWhile (Text.isDigitIn 10)
    let rest := cs.drop digits.length
    let port := Text.ofDigits 10 digits
    if 65535 < port || rest.head?.any (fun c => !"/\\?#".toList.contains c) then
      .error .invalidPort
    else if digits.isEmpty || defaultPorts.lookup scheme = some port then .ok (none, rest)
    else .ok (some port, rest)
  | cs => .ok (none, cs)

/-- The location of a url behind the slashes of its scheme. -/
def locate (scheme : String) (kind : SchemeKind) (cs : List Char) : Except UrlError Location := do
  let (userTold, rest) ← skipUser kind cs
  let (written, rest) := cutHost kind false [] rest
  if written.isEmpty && (kind = .special || rest.head? = some ':' || userTold) then
    .error .emptyHost
  else do
    let host ← if kind = .special then domain written else opaqueHost written
    let (port, rest) ← cutPort scheme rest
    if written.isEmpty then .error .noHost
    else
      let host := match port with
        | none => host
        | some port => host ++ ":" ++ toString port
      .ok ⟨scheme, host, String.ofList ((pathOf kind rest).text kind)⟩

/-- What follows a separator at the start of a file's url. -/
def skipSeparator? (cs : List Char) : Option (List Char) :=
  match cs.dropWhile isIgnored with
  | [] => none
  | c :: rest => if isSeparator .file c then some rest else none

/-- The location of a file's url, as it is written behind its scheme. Two slashes and a host without
a port come first. -/
def locateFile (cs : List Char) : Except UrlError Location :=
  match (skipSeparator? cs).bind skipSeparator? with
  | none => .error .noHost
  | some rest => do
    let isInHost (c : Char) : Bool := !endsAuthority .file c
    let written := withoutIgnored (rest.takeWhile isInHost)
    if written.isEmpty || isDriveLetter written then .error .noHost
    else do
      let host ← domain written
      let path := pathOf .file (rest.dropWhile isInHost)
      if host = "localhost" || path.hostDropped then .error .noHost
      else .ok ⟨"file", host, String.ofList (path.text .file)⟩

/-- The location of a url. -/
def location (cs : List Char) : Except UrlError Location :=
  match cutScheme? (trimEdges cs) with
  | none => .error .relative
  | some (scheme, written) =>
    let rest := withoutIgnored written
    match SchemeKind.ofName scheme with
    | .special => locate scheme .special (rest.dropWhile (isSeparator .special))
    | .file => locateFile written
    | .other =>
      match rest with
      | '/' :: '/' :: rest => locate scheme .other rest
      | _ => .error .noHost

end Url

/-- The location that a url tells. -/
def Location.parse (url : String) : Except Error Location :=
  (Url.location (Text.trimChars url.toList)).mapError (Error.serviceUrl url)

end Csdl
