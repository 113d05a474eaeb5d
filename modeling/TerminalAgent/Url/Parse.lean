import TerminalAgent.Url.Host

/-!
# URLs

`Url.parse` reads an absolute URL, and `Url.join` a reference from a base. Blanks around the text and
line breaks in it do not count. The special schemes have a host and a hierarchical path in which a
backslash is a slash; in the others the path may be opaque.
-/

namespace TerminalAgent

namespace Url

inductive Path where
  /-- Text without a hierarchy. -/
  | opaque_ (text : String)
  /-- The parts between slashes. -/
  | segments (parts : List String)
  deriving Repr, DecidableEq

end Url

structure Url where
  scheme : String
  username : String
  password : Option String
  host : Option Url.Host
  port : Option Nat
  path : Url.Path
  query : Option String
  fragment : Option String
  deriving Repr, DecidableEq

namespace Url

/-- How the text after a scheme is read. -/
inductive SchemeKind where
  | file
  | special
  | other
  deriving Repr, DecidableEq

def kindOf (scheme : String) : SchemeKind :=
  if scheme = "file" then .file
  else if ["http", "https", "ws", "wss", "ftp"].contains scheme then .special
  else .other

namespace SchemeKind

/-- Whether a backslash counts as a slash. -/
def isSpecial (kind : SchemeKind) : Bool :=
  kind ≠ .other

/-- Whether a character separates parts of a path. -/
def isSlash (kind : SchemeKind) (c : Char) : Bool :=
  c = '/' || (kind.isSpecial && c = '\\')

end SchemeKind

/-- The port that a scheme has without saying so. -/
def defaultPort? (scheme : String) : Option Nat :=
  if scheme = "http" || scheme = "ws" then some 80
  else if scheme = "https" || scheme = "wss" then some 443
  else if scheme = "ftp" then some 21
  else none

/-- A text without blanks at its ends and without tabs and line breaks. -/
def clean (s : String) : List Char :=
  let isEdge (c : Char) : Bool := c.toNat ≤ 0x20
  let trimmed := ((s.toList.dropWhile isEdge).reverse.dropWhile isEdge).reverse
  trimmed.filter fun c => c ≠ '\t' && c ≠ '\n' && c ≠ '\r'

/-- The scheme at the front of a text, in lower case, and the text after its colon. -/
def splitScheme? (s : List Char) : Option (String × List Char) :=
  let isSchemeChar (c : Char) : Bool := c.isAlphanum || c = '+' || c = '-' || c = '.'
  match s with
  | [] => none
  | first :: _ =>
      if first.isAlpha then
        match s.dropWhile isSchemeChar with
        | ':' :: rest => some (String.ofList ((s.takeWhile isSchemeChar).map Char.toLower), rest)
        | _ => none
      else none

/-! ## Paths -/

/-- Whether a part stands for the directory itself. -/
def isDot (part : List Char) : Bool :=
  [".", "%2e", "%2E"].contains (String.ofList part)

/-- Whether a part stands for the directory above. -/
def isDoubleDot (part : List Char) : Bool :=
  ["..", ".%2e", "%2e.", "%2e%2e"].contains (String.ofList (part.map Char.toLower))

/-- Whether a part is a letter and a colon. -/
def isDriveLetter (part : String) : Bool :=
  match part.toList with
  | [letter, mark] => letter.isAlpha && mark = ':'
  | _ => false

/-- The path without its last part; the drive letter of a file stays. -/
def shorten (kind : SchemeKind) (parts : List String) : List String :=
  match kind, parts with
  | .file, [drive] => if isDriveLetter drive then [drive] else []
  | _, parts => parts.dropLast

/-- Cuts a text at the first slash: the part before it, and the text after it if there was one. -/
def cutAtSlash (kind : SchemeKind) (s : List Char) : List Char × Option (List Char) :=
  let part := s.takeWhile (!kind.isSlash ·)
  match s.drop part.length with
  | [] => (part, none)
  | _ :: rest => (part, some rest)

/-- Adds the parts of a text behind those of a path. -/
def pathFrom (kind : SchemeKind) : (fuel : Nat) → List String → List Char → List String
  | 0, parts, _ => parts
  | fuel + 1, parts, s =>
      let (part, rest) := cutAtSlash kind s
      let parts :=
        if isDoubleDot part then
          let above := shorten kind parts
          if rest.isNone then above ++ [""] else above
        else if isDot part then
          if rest.isNone then parts ++ [""] else parts
        else
          let drive :=
            match kind, parts, part with
            | .file, [], [letter, '|'] => if letter.isAlpha then [letter, ':'] else part
            | _, _, part => part
          parts ++ [escape escapedInPath (String.ofList drive)]
      match rest with
      | none => parts
      | some rest => pathFrom kind fuel parts rest

/-- The path of a text behind the parts of a base. In a file path empty parts at the front do not
    count. -/
def parsePath (kind : SchemeKind) (base : List String) (s : List Char) : Path :=
  let parts := pathFrom kind (s.length + 1) base s
  match kind with
  | .file =>
      match parts.dropWhile (· = "") with
      | [] => .segments [""]
      | parts => .segments parts
  | _ => .segments parts

/-- The path that follows a host. -/
def pathAfterHost (kind : SchemeKind) (s : List Char) : Path :=
  match s with
  | [] => if kind.isSpecial then .segments [""] else .segments []
  | c :: rest => if kind.isSlash c then parsePath kind [] rest else parsePath kind [] s

/-! ## The parts of a text -/

/-- A text cut into what comes before the query, the query and the fragment. -/
structure Cut where
  front : List Char
  query : Option (List Char)
  fragment : Option (List Char)

def cut (s : List Char) : Cut :=
  let front := s.takeWhile fun c => c ≠ '?' && c ≠ '#'
  let query? (rest : List Char) : Cut :=
    let query := rest.takeWhile (· ≠ '#')
    match rest.drop query.length with
    | [] => ⟨front, some query, none⟩
    | _ :: fragment => ⟨front, some query, some fragment⟩
  match s.drop front.length with
  | [] => ⟨front, none, none⟩
  | '?' :: rest => query? rest
  | _ :: fragment => ⟨front, none, some fragment⟩

def encodeQuery (kind : SchemeKind) (query : List Char) : String :=
  escape (escapedInQuery kind.isSpecial) (String.ofList query)

def encodeFragment (fragment : List Char) : String :=
  escape escapedInFragment (String.ofList fragment)

/-- Puts query and fragment of a cut text behind a path. -/
def withTail (kind : SchemeKind) (url : Url) (c : Cut) : Url :=
  { url with
    query := c.query.map (encodeQuery kind)
    fragment := c.fragment.map encodeFragment }

/-! ## Authorities -/

/-- User name and password in front of the last at sign, and the text after it. A text that names
    no user but has the sign must name a host. -/
def splitUserInfo (kind : SchemeKind) (s : List Char) :
    Except Fault (String × Option String × List Char) :=
  let authority := s.takeWhile (!kind.isSlash ·)
  if !authority.contains '@' then pure ("", none, s)
  else
    let host := (authority.reverse.takeWhile (· ≠ '@')).reverse
    let info := authority.take (authority.length - host.length - 1)
    let rest := host ++ s.drop authority.length
    if info = [] then
      if host = [] && rest ≠ [] then throw .emptyHost else pure ("", none, rest)
    else
      let name := info.takeWhile (· ≠ ':')
      let encode (cs : List Char) : String := escape escapedInUserInfo (String.ofList cs)
      match info.drop name.length with
      | [] => pure (encode name, none, rest)
      | _ :: password =>
          pure (encode name, if password = [] then none else some (encode password), rest)

/-- The host at the front of a text as it stands there: a colon between brackets belongs to it. -/
def takeHost (kind : SchemeKind) : (inside : Bool) → List Char → List Char
  | _, [] => []
  | inside, c :: rest =>
      if (c = ':' && !inside) || kind.isSlash c then []
      else c :: takeHost kind (if c = '[' then true else if c = ']' then false else inside) rest

/-- The port at the front of a text, and the text after it. -/
def parsePort : (port : Option Nat) → (kind : SchemeKind) → List Char →
    Except Fault (Option Nat × List Char)
  | port, _, [] => pure (port, [])
  | port, kind, c :: rest =>
      if c.isDigit then
        let n := 10 * port.getD 0 + (c.toNat - 48)
        if 65535 < n then throw .invalidPort else parsePort (some n) kind rest
      else if c = '/' || c = '\\' then pure (port, c :: rest)
      else throw .invalidPort

/-- The URL with the host that begins a text. -/
def parseAuthority (scheme : String) (kind : SchemeKind) (c : Cut) : Except Fault Url := do
  let (username, password, rest) ← splitUserInfo kind c.front
  let name := takeHost kind false rest
  let after := rest.drop name.length
  if kind.isSpecial && name = [] then throw .emptyHost
  let host ← if kind.isSpecial then parseSpecialHost name else parseOtherHost name
  let isEmpty := host = .other ""
  let (port, after) ←
    match after with
    | ':' :: digits => if isEmpty then throw .emptyHost else parsePort none kind digits
    | after => pure (none, after)
  if isEmpty && (username ≠ "" || password.isSome) then throw .emptyHost
  pure (withTail kind {
    scheme, username, password
    host := some host
    port := if port = defaultPort? scheme then none else port
    path := pathAfterHost kind after
    query := none
    fragment := none } c)

/-- The URL without a host. -/
def bare (scheme : String) (path : Path) : Url :=
  { scheme, username := "", password := none, host := none, port := none, path, query := none,
    fragment := none }

/-- Whether a text begins with a drive letter that ends its part. -/
def startsWithDrive (s : List Char) : Bool :=
  match s with
  | letter :: mark :: rest =>
      letter.isAlpha && (mark = ':' || mark = '|')
        && (rest.head?.all fun c => ['/', '\\', '?', '#'].contains c)
  | _ => false

/-- The URL of a file, with the base it refers from if that is one too. -/
def parseFile (base : Option Url) (c : Cut) : Except Fault Url :=
  let kind := SchemeKind.file
  let host? : Option Host := base.bind Url.host
  let baseParts : List String :=
    match base.map Url.path with
    | some (.segments parts) => parts
    | _ => []
  match c.front with
  | first :: second :: rest =>
      if kind.isSlash first && kind.isSlash second then do
        let name := rest.takeWhile (!kind.isSlash ·)
        if startsWithDrive name && name.length = 2 then
          pure (withTail kind (bare "file" (parsePath kind [] rest)) c)
        else
          let path := pathAfterHost kind (rest.drop name.length)
          if name = [] then pure (withTail kind (bare "file" path) c)
          else
            let host ← parseSpecialHost name
            let host := if host = .domain "localhost" then none else some host
            pure (withTail kind { bare "file" path with host } c)
      else if kind.isSlash first then
        pure (withTail kind { bare "file" (parsePath kind [] (second :: rest)) with host := host? } c)
      else
        let dir := if startsWithDrive c.front then [] else shorten kind baseParts
        pure (withTail kind { bare "file" (parsePath kind dir c.front) with host := host? } c)
  | [first] =>
      let dir := if kind.isSlash first then [] else shorten kind baseParts
      let text := if kind.isSlash first then [] else [first]
      pure (withTail kind { bare "file" (parsePath kind dir text) with host := host? } c)
  | [] =>
      match base with
      | some base =>
          let url := withTail kind base c
          pure (if c.query.isSome then url else { url with query := base.query })
      | none => pure (withTail kind (bare "file" (.segments [""])) c)

/-- The URL that a text refers to from a base that is no file. -/
def parseRelative (base : Url) (parts : List String) (c : Cut) : Except Fault Url :=
  let kind := kindOf base.scheme
  match c.front with
  | [] =>
      let url := withTail kind base c
      pure (if c.query.isSome then url else { url with query := base.query })
  | first :: rest =>
      if kind.isSlash first then
        match rest with
        | second :: after =>
            if kind.isSlash second then
              let front := if kind.isSpecial then after.dropWhile kind.isSlash else after
              parseAuthority base.scheme kind { c with front }
            else pure (withTail kind { base with path := parsePath kind [] rest } c)
        | [] => pure (withTail kind { base with path := parsePath kind [] rest } c)
      else pure (withTail kind { base with path := parsePath kind (shorten kind parts) c.front } c)

/-- The URL behind a scheme that is neither a file nor special. -/
def parseOther (scheme : String) (c : Cut) : Except Fault Url :=
  let kind := SchemeKind.other
  match c.front with
  | '/' :: '/' :: rest => parseAuthority scheme kind { c with front := rest }
  | '/' :: rest => pure (withTail kind (bare scheme (parsePath kind [] rest)) c)
  | front => pure (withTail kind (bare scheme (.opaque_ (escape isControlOrForeign
      (String.ofList front)))) c)

/-- Reads a text that has a scheme. -/
def parseAbsolute (base : Option Url) (scheme : String) (rest : List Char) : Except Fault Url :=
  let c := cut rest
  let kind := kindOf scheme
  match kind with
  | .file => parseFile (base.filter (·.scheme = "file")) c
  | .other => parseOther scheme c
  | .special =>
      let slashes := c.front.takeWhile kind.isSlash
      match base with
      | some base =>
          match base.path with
          | .segments parts =>
              if slashes.length < 2 && base.scheme = scheme then parseRelative base parts c
              else parseAuthority scheme kind { c with front := c.front.drop slashes.length }
          | .opaque_ _ => parseAuthority scheme kind { c with front := c.front.drop slashes.length }
      | none => parseAuthority scheme kind { c with front := c.front.drop slashes.length }

/-- Reads an absolute URL. -/
def parse (s : String) : Except Fault Url :=
  match splitScheme? (clean s) with
  | some (scheme, rest) => parseAbsolute none scheme rest
  | none => throw .noBase

/-- Reads what a text refers to from a base. -/
def join (base : Url) (s : String) : Except Fault Url :=
  let text := clean s
  match splitScheme? text with
  | some (scheme, rest) => parseAbsolute (some base) scheme rest
  | none =>
      match text, base.path with
      | '#' :: fragment, _ => pure { base with fragment := some (encodeFragment fragment) }
      | _, .opaque_ _ => throw .opaqueBase
      | _, .segments parts =>
          if kindOf base.scheme = .file then parseFile (some base) (cut text)
          else parseRelative base parts (cut text)

/-- The parts of the path, if it has parts. -/
def segments? (url : Url) : Option (List String) :=
  match url.path with
  | .segments parts => some parts
  | .opaque_ _ => none

end Url

end TerminalAgent
