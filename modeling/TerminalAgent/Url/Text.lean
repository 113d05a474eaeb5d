import TerminalAgent.Url.Parse

/-!
# URLs as text

`Url.text` writes a URL in one form. What it writes reads back as the same URL, except that hosts in
other scripts are written in ASCII.
-/

namespace TerminalAgent.Url

/-! ## Hosts -/

/-- A label of a domain in ASCII. -/
def asciiLabel (label : List Char) : String :=
  if label.all (·.toNat < 0x80) then String.ofList label
  else "xn--" ++ String.ofList (Punycode.encode label)

def ipv4Text (address : Nat) : String :=
  ".".intercalate ([24, 16, 8, 0].map fun shift => toString (address >>> shift % 256))

/-- Where the first longest run of zeros begins and how long it is. -/
def longestZeros (words : List Nat) : Nat × Nat :=
  let runs := (List.range words.length).map fun i => (i, ((words.drop i).takeWhile (· = 0)).length)
  runs.foldl (fun best run => if best.2 < run.2 then run else best) (0, 0)

/-- The words in hexadecimal. A run of more than one zero is left out between two colons. -/
def ipv6Text (words : List Nat) : String :=
  let join (words : List Nat) : String :=
    ":".intercalate (words.map fun n => String.ofList (Nat.toDigits 16 n))
  let (start, count) := longestZeros words
  if count < 2 then join words
  else join (words.take start) ++ "::" ++ join (words.drop (start + count))

def Host.text : Host → String
  | domain name => ".".intercalate ((dottedParts name.toList).map asciiLabel)
  | ipv4 address => ipv4Text address
  | ipv6 words => "[" ++ ipv6Text words ++ "]"
  | other name => name

/-! ## Parts -/

/-- User, host and port with the slashes in front. The URL of a file has the slashes even without a
    host. -/
def authorityText (url : Url) : String :=
  match url.host with
  | some host =>
      let password := (url.password.map (":" ++ ·)).getD ""
      let user := url.username ++ password
      let user := if user.isEmpty then "" else user ++ "@"
      "//" ++ user ++ host.text ++ ((url.port.map fun port => s!":{port}").getD "")
  | none => if url.scheme = "file" then "//" else ""

/-- A path that begins with two slashes is marked when no host is in front of it. -/
def pathText (url : Url) : String :=
  match url.path with
  | .opaque_ text => text
  | .segments parts =>
      let text := String.join (parts.map ("/" ++ ·))
      if url.authorityText.isEmpty && text.startsWith "//" then "/." ++ text else text

/-- Path and query: what is asked of the host. -/
def targetText (url : Url) : String :=
  url.pathText ++ ((url.query.map ("?" ++ ·)).getD "")

def text (url : Url) : String :=
  url.scheme ++ ":" ++ url.authorityText ++ url.targetText
    ++ ((url.fragment.map ("#" ++ ·)).getD "")

end TerminalAgent.Url
