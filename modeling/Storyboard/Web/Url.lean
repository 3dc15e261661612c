import Storyboard.Web.Host

/-!
# Hosts of web addresses, from the whole address

`Url.host?` finds the host of an absolute address the way browsers read addresses:
surrounding controls and spaces are trimmed and tabs and line breaks dropped; the scheme
is letters, digits, `+`, `-` and `.` after a first letter, up to a colon. For the known
schemes (`http`, `https`, `ws`, `wss`, `ftp`, `file`) any run of slashes or backslashes
may lead to the authority; other schemes have one only after `//`. In the authority the
last `@` ends the user part, and a port must be decimal and below 65536. The answer is
`none` when the address is not absolute, is malformed, or has no host (also an empty
one, and `localhost` of a `file` address).
-/

namespace Storyboard

namespace Url

/-- The schemes whose addresses always have a host. -/
def knownSchemes : List String := ["http", "https", "ws", "wss", "ftp"]

/-- A scheme: a letter, then letters, digits, `+`, `-` and `.`, up to a colon. Returns
the lower-case scheme and the rest after the colon. -/
def scheme? (cs : List Char) : Option (String × List Char) :=
  match cs with
  | c :: _ =>
    if !c.isAlpha then none else
    let name := cs.takeWhile fun d => d.isAlphanum || d == '+' || d == '-' || d == '.'
    match cs.drop name.length with
    | ':' :: rest => some (String.ofList (name.map Char.toLower), rest)
    | _ => none
  | [] => none

/-- Whether a character ends the authority. -/
def endsAuthority (special : Bool) (c : Char) : Bool :=
  c == '/' || c == '?' || c == '#' || (special && c == '\\')

/-- Check a port: decimal digits below 65536, up to the end of the authority. -/
def portOk (special : Bool) (cs : List Char) : Bool :=
  let ds := cs.takeWhile Char.isDigit
  let value := ds.foldl (fun v c => v * 10 + (c.toNat - 0x30)) 0
  value < 65536 && match cs.drop ds.length with
    | [] => true
    | c :: _ => endsAuthority special c || c == '\\'

/-- The host text of an authority (user part removed) and what follows it: up to a
colon outside brackets or the end of the authority. -/
def splitHost (special : Bool) : List Char → Bool → List Char × List Char
  | [], _ => ([], [])
  | c :: rest, inside =>
    if (c == ':' && !inside) || endsAuthority special c then ([], c :: rest)
    else
      let (h, r) := splitHost special rest (if c == '[' then true else if c == ']' then false else inside)
      (c :: h, r)

/-- The host of an authority (the text after `//`), for a known scheme or not. -/
def authorityHost? (special : Bool) (cs : List Char) : Option String := do
  let auth := cs.takeWhile fun c => !endsAuthority special c
  let hostPart := match auth.reverse.span (· != '@') with
    | (_, []) => cs
    | (tail, _ :: _) => tail.reverse ++ cs.drop auth.length
  let (hostText, after) := splitHost special hostPart false
  let portFine := match after with
    | ':' :: port => !hostText.isEmpty && portOk special port
    | _ => true
  if !portFine then none
  if special then
    if hostText.isEmpty then none
    Host.parse? hostText
  else
    let h ← Host.parseOpaque? hostText
    if h.isEmpty then none else some h

/-- The host of a `file` address: after two slashes, up to the next slash, backslash,
`?` or `#`; a drive letter, an empty host and `localhost` give none. -/
def fileHost? (cs : List Char) : Option String :=
  match cs with
  | a :: b :: rest =>
    if (a == '/' || a == '\\') && (b == '/' || b == '\\') then
      let h := rest.takeWhile fun c => !(c == '/' || c == '\\' || c == '?' || c == '#')
      let isDrive := match h with
        | [l, c] => l.isAlpha && (c == ':' || c == '|')
        | _ => false
      if h.isEmpty || isDrive then none
      else match Host.parse? h with
        | some "localhost" => none
        | other => other
    else none
  | _ => none

/-- Trim controls and spaces at both ends, and drop tabs and line breaks. -/
def clean (text : String) : List Char :=
  let cs := text.toList.dropWhile (·.toNat ≤ 0x20)
  let cs := (cs.reverse.dropWhile (·.toNat ≤ 0x20)).reverse
  cs.filter fun c => c != '\t' && c != '\n' && c != '\r'

/-- The canonical host of an absolute address, or `none`. -/
def host? (text : String) : Option String := do
  let (scheme, rest) ← scheme? (clean text)
  if scheme == "file" then fileHost? rest
  else if knownSchemes.contains scheme then
    authorityHost? true (rest.dropWhile fun c => c == '/' || c == '\\')
  else match rest with
    | '/' :: '/' :: after => authorityHost? false after
    | _ => none

end Url

end Storyboard
