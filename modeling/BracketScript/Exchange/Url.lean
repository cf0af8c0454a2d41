import BracketScript.Text.Letter
import BracketScript.Text.Split
import BracketScript.Text.Utf8

/-!
# Addresses of resources

An address names a scheme, a host and a target at that host. Reading an address normalises it: the
scheme in lower case, the target without `.` and `..`, and characters that may not stand in a target
as the percent forms of their bytes.

## Main definitions

* `Url`: a scheme, a host and a target
* `UrlFault`: why a text is no address
* `Url.parse`: the address that a text is
* `Url.resolve`: the address that a text is from the place of another one
-/

namespace BracketScript

/-- Why a text is no address. -/
inductive UrlFault where
  /-- It does not start with a scheme. -/
  | noScheme
  /-- It names no host. -/
  | noHost
  deriving DecidableEq, Repr

/-- The wording of what is wrong with an address. -/
def UrlFault.message : UrlFault → String
  | noScheme => "RelativeUrlWithoutBase: relative URL without a base"
  | noHost => "EmptyHost: empty host"

/-- The address of a resource. -/
structure Url where
  /-- How the resource is reached. -/
  scheme : String
  /-- Where it is: the host, with the number after its colon if there is one. An address that does
  not name a place, such as that of a mailbox, has none. -/
  host : Option String
  /-- The path and the query. -/
  target : String
  deriving DecidableEq, Repr, Inhabited

namespace Url

/-- The text of an address. -/
def text (url : Url) : String :=
  url.scheme ++ ":" ++ (match url.host with
    | some host => "//" ++ host
    | none => "") ++ url.target

/-- The schemes whose addresses always name a host. -/
def hasAuthority (scheme : String) : Bool :=
  ["http", "https", "ws", "wss", "ftp"].contains scheme

/-- The text as the percent forms of its bytes, for the characters that must not stand as they
are. -/
def percentEncode (reserved : List Char) (cs : List Char) : List Char :=
  let hexDigit (n : Nat) : Char := Char.ofNat (if n < 10 then n + 48 else n + 55)
  cs.flatMap fun c =>
    if c.toNat < 0x21 ∨ 0x7e < c.toNat ∨ reserved.contains c then
      (Bytes.ofString c.toString).flatMap fun b =>
        ['%', hexDigit (b.toNat / 16), hexDigit (b.toNat % 16)]
    else [c]

/-- The segments of a path without `.` and `..`, each of which may be written in percent forms;
`kept` holds the segments so far, the last one first. -/
def normalise : List (List Char) → List (List Char) → List (List Char)
  | kept, [] => kept.reverse
  | kept, segment :: rest =>
    let plain := Text.Chars.splitOn "%2e".toList (segment.map Text.asciiLower)
    let dots := (plain.intersperse ['.']).flatten
    if dots = ['.'] then normalise (if rest.isEmpty then [] :: kept else kept) rest
    else if dots = ['.', '.'] then
      normalise (if rest.isEmpty then [] :: kept.tail else kept.tail) rest
    else normalise (segment :: kept) rest

/-- The target that the text after a host is: a path from the top, and a query if there is one. The
part after a number sign is left out. -/
def targetOf (cs : List Char) : String :=
  let cs := cs.takeWhile (· != '#')
  let path := (cs.takeWhile (· != '?')).map fun c => if c == '\\' then '/' else c
  let path := match path with
    | '/' :: rest => rest
    | rest => rest
  let segments := normalise [] (Text.Chars.splitOn ['/'] path)
  let encoded := segments.flatMap fun s =>
    '/' :: percentEncode ['"', '#', '<', '>', '?', '\x60', '\x7b', '\x7d'] s
  let query := match cs.dropWhile (· != '?') with
    | '?' :: rest => '?' :: percentEncode ['"', '#', '<', '>', '\x27'] rest
    | _ => []
  String.ofList (encoded ++ query)

/-- A text without the characters of control and the blanks at its ends, and without tabs and line
ends. -/
def tidy (cs : List Char) : List Char :=
  let low (c : Char) : Bool := c.toNat ≤ 0x20
  let trimmed := ((cs.dropWhile low).reverse.dropWhile low).reverse
  trimmed.filter fun c => c != '\t' && c != '\n' && c != '\r'

/-- The scheme at the front of a text, in lower case, and what follows its colon. -/
def splitScheme (cs : List Char) : Option (String × List Char) :=
  let isSchemeChar (c : Char) : Bool :=
    Text.isAsciiLetter c || Text.isAsciiDigit c || c == '+' || c == '-' || c == '.'
  match cs.takeWhile isSchemeChar, cs.dropWhile isSchemeChar with
  | c :: scheme, ':' :: rest =>
    if Text.isAsciiLetter c then some (String.ofList ((c :: scheme).map Text.asciiLower), rest)
    else none
  | _, _ => none

/-- The host at the front of a text, in lower case and without a user before it, and what follows
it. -/
def splitHost (cs : List Char) : String × List Char :=
  let isEnd (c : Char) : Bool := c == '/' || c == '\\' || c == '?' || c == '#'
  let authority := cs.takeWhile fun c => !isEnd c
  let host := (Text.Chars.splitOn ['@'] authority).getLast?.getD []
  (String.ofList (host.map Text.asciiLower), cs.dropWhile fun c => !isEnd c)

/-- The address that a text is. -/
def parse (s : String) : Except UrlFault Url :=
  match splitScheme (tidy s.toList) with
  | none => .error .noScheme
  | some (scheme, rest) =>
    if hasAuthority scheme then
      let (host, rest) := splitHost (rest.dropWhile fun c => c == '/' || c == '\\')
      if host.isEmpty || Text.hasStart host ":" then .error .noHost
      else .ok ⟨scheme, some host, targetOf rest⟩
    else match rest with
      | '/' :: '/' :: rest =>
        let (host, rest) := splitHost rest
        .ok ⟨scheme, some host, String.ofList rest⟩
      | rest => .ok ⟨scheme, none, String.ofList rest⟩

/-- The address that a text is from the place of another address. -/
def resolve (base : Url) (s : String) : Except UrlFault Url :=
  match parse s with
  | .error .noScheme =>
    match tidy s.toList with
    | '/' :: '/' :: _ => parse (base.scheme ++ ":" ++ s)
    | '/' :: rest => .ok { base with target := targetOf ('/' :: rest) }
    | rest =>
      let path := base.target.toList.takeWhile (· != '?')
      let directory := (path.reverse.dropWhile (· != '/')).reverse
      .ok { base with target := targetOf (directory ++ rest) }
  | result => result

end Url

end BracketScript
