import NodeLink.Address.Domain
import NodeLink.Address.Ipv6
/-!
# Relay URLs

The URLs by which relay servers are named: `http` or `https`, a host, and what
may follow it.  Reading is lenient the way browsers are (backslashes count as
slashes, host numbers may have bases, dot segments are resolved) and writing
gives one normal form.  A host name is made absolute by a dot at its end.
-/

namespace NodeLink.Address

open NodeLink.Text

inductive Scheme
  | http
  | https
  deriving DecidableEq, Repr

inductive UrlHost
  | domain (name : List Char)
  | v4 (ip : Ipv4)
  | v6 (words : List UInt16)
  deriving DecidableEq, Repr

structure RelayUrl where
  scheme : Scheme
  userInfo : List Char
  host : UrlHost
  port : Option UInt16
  path : List Char
  query : Option (List Char)
  fragment : Option (List Char)
  deriving DecidableEq, Repr

def Scheme.name : Scheme → List Char
  | .http => ['h', 't', 't', 'p']
  | .https => ['h', 't', 't', 'p', 's']

def Scheme.defaultPort : Scheme → UInt16
  | .http => 80
  | .https => 443

def Scheme.opening (scheme : Scheme) : List Char := scheme.name ++ [':', '/', '/']

namespace UrlHost

def render : UrlHost → List Char
  | .domain name => name
  | .v4 ip => ip.render
  | .v6 words => '[' :: (Ipv6.compressed words ++ [']'])

/-- A number as it may stand in a host: decimal, octal behind a zero, or
hexadecimal behind `0x`. -/
def number? (text : List Char) : Option Nat :=
  let hexadecimal (digits : List Char) := if digits.isEmpty then some 0 else Hex.number? digits
  match text with
  | [] => none
  | '0' :: 'x' :: digits => hexadecimal digits
  | '0' :: 'X' :: digits => hexadecimal digits
  | '0' :: digit :: digits =>
    if (digit :: digits).all (fun c => '0' ≤ c && c ≤ '7') then
      some ((digit :: digits).foldl (fun total c => total * 8 + (c.toNat - '0'.toNat)) 0)
    else none
  | digits => Numeral.value? digits

def endsInNumber (domain : List Char) : Bool :=
  match (splitAt '.' domain).reverse with
  | [] => false
  | [last] => isNumber last
  | [] :: last :: _ => isNumber last
  | last :: _ => isNumber last
where
  isNumber (label : List Char) : Bool :=
    (!label.isEmpty && label.all Numeral.isDigit) || (number? label).isSome

/-- The address of up to four numbers, of which the last one fills all places
that are left. -/
def ofNumbers? (numbers : List Nat) : Option Ipv4 :=
  match numbers.reverse with
  | [] => none
  | last :: before =>
    let places := before.reverse
    if 3 < places.length || places.any (255 < ·) || Nat.pow 256 (4 - places.length) ≤ last then none
    else
      let high := places.foldl (fun total n => total * 256 + n) 0
      some (Ipv4.ofNat (high * Nat.pow 256 (4 - places.length) + last))

def v4OfDomain? (domain : List Char) : Option Ipv4 :=
  let labels := splitAt '.' domain
  let labels := if labels.getLast? = some [] then labels.dropLast else labels
  (labels.mapM number?).bind ofNumbers?

def embeddedPart? (text : List Char) : Option Nat :=
  if 1 < text.length && text.head? = some '0' then none
  else (Numeral.digitsWithin? 255 text)

def embedded? (text : List Char) : Option (List UInt16) := do
  match ← (splitAt '.' text).mapM embeddedPart? with
  | [a, b, c, d] => some [UInt16.ofNat (a * 256 + b), UInt16.ofNat (c * 256 + d)]
  | _ => none

def wordOf? (text : List Char) : Option UInt16 :=
  if 4 < text.length then none else (Hex.number? text).map UInt16.ofNat

def wordsOf? (text : List Char) : Option (List UInt16) :=
  if text.isEmpty then some []
  else go (splitAt ':' text)
where
  go : List (List Char) → Option (List UInt16)
    | [] => some []
    | [last] =>
      if last.contains '.' then embedded? last else (wordOf? last).map fun word => [word]
    | part :: parts => do return (← wordOf? part) :: (← go parts)

def splitGap : List Char → Option (List Char × List Char)
  | [] => none
  | ':' :: ':' :: rest => some ([], rest)
  | c :: rest => (splitGap rest).map fun (front, back) => (c :: front, back)

def v6OfText? (text : List Char) : Option (List UInt16) := do
  match splitGap text with
  | none =>
    let words ← wordsOf? text
    if words.length = 8 && !text.isEmpty then some words else none
  | some (front, back) =>
    if front.contains '.' then none
    else
      let head ← wordsOf? front
      let tail ← wordsOf? back
      if head.length + tail.length ≤ 7 then
        some (head ++ List.replicate (8 - head.length - tail.length) 0 ++ tail)
      else none

def absolute (name : List Char) : List Char :=
  if name.getLast? = some '.' then name else name ++ ['.']

def ofText? (text : List Char) : Option UrlHost :=
  match text with
  | '[' :: rest =>
    if rest.getLast? = some ']' then (v6OfText? rest.dropLast).map .v6 else none
  | _ => do
    let domain ← Domain.toAscii? text
    if endsInNumber domain then (v4OfDomain? domain).map .v4
    else return .domain (absolute domain)

end UrlHost

namespace RelayUrl

def render (url : RelayUrl) : List Char :=
  let port := match url.port with
    | none => []
    | some port => ':' :: Numeral.ofNat port.toNat
  let behind (mark : Char) (part? : Option (List Char)) := match part? with
    | none => []
    | some part => mark :: part
  url.scheme.opening ++ url.userInfo ++ url.host.render ++ port ++ url.path ++
    behind '?' url.query ++ behind '#' url.fragment

/-! ### Percent-encoding -/

def isControl (c : Char) : Bool := c.toNat < 0x20 || c.toNat == 0x7F

def encodedByte (b : UInt8) : List Char :=
  ['%', (Hex.digit (b.toNat / 16)).toUpper, (Hex.digit (b.toNat % 16)).toUpper]

def encoded (named : List Char) (text : List Char) : List Char :=
  text.flatMap fun c =>
    if 0x80 ≤ c.toNat || isControl c || named.contains c then
      (Utf8.encodeChar c).flatMap encodedByte
    else [c]

def inFragment : List Char := [' ', '"', '<', '>', '\x60']

def inQuery : List Char := [' ', '"', '#', '<', '>', '\'']

def inPath : List Char := inFragment ++ ['#', '?', '\x7b', '\x7d']

def inUserInfo : List Char := inPath ++ ['/', ':', ';', '=', '@', '[', '\\', ']', '^', '|']

/-! ### Parts -/

def isSlash (c : Char) : Bool := c == '/' || c == '\\'

def endsAuthority (c : Char) : Bool := isSlash c || c == '?' || c == '#'

def splitLast (mark : Char) (text : List Char) : Option (List Char × List Char) :=
  if text.contains mark then
    let behind := (text.reverse.takeWhile (· ≠ mark)).reverse
    some (text.take (text.length - behind.length - 1), behind)
  else none

def userInfoOf (text : List Char) : List Char :=
  let name := encoded inUserInfo (text.takeWhile (· ≠ ':'))
  let password := encoded inUserInfo ((text.dropWhile (· ≠ ':')).drop 1)
  let both := if password.isEmpty then name else name ++ ':' :: password
  if both.isEmpty then [] else both ++ ['@']

def splitPort : Bool → List Char → List Char × Option (List Char)
  | _, [] => ([], none)
  | inBrackets, c :: rest =>
    if c = ':' && !inBrackets then ([], some rest)
    else
      let inside := if c = '[' then true else if c = ']' then false else inBrackets
      let (host, port) := splitPort inside rest
      (c :: host, port)

def portOf? (scheme : Scheme) (text? : Option (List Char)) : Option (Option UInt16) :=
  match text? with
  | none => some none
  | some [] => some none
  | some digits => (Numeral.digitsWithin? Numeral.maxWord16 digits).map fun n =>
    let port := UInt16.ofNat n
    if port = scheme.defaultPort then none else some port

def segments (text : List Char) : List (List Char) :=
  splitAt '/' (text.map fun c => if c = '\\' then '/' else c)

def withDots : List Char → List Char
  | '%' :: '2' :: 'e' :: rest => '.' :: withDots rest
  | '%' :: '2' :: 'E' :: rest => '.' :: withDots rest
  | c :: rest => c :: withDots rest
  | [] => []

def isSingleDot (segment : List Char) : Bool := withDots segment = ['.']

def isDoubleDot (segment : List Char) : Bool := withDots segment = ['.', '.']

/-- Resolves dot segments; `done` holds the segments so far, last one first.  A
dot segment at the end leaves an empty one. -/
def resolve (done : List (List Char)) : List (List Char) → List (List Char)
  | [] => done.reverse
  | segment :: rest =>
    let kept := if isDoubleDot segment then done.drop 1 else done
    if isSingleDot segment || isDoubleDot segment then
      if rest.isEmpty then ([] :: kept).reverse else resolve kept rest
    else resolve (segment :: done) rest

def pathOf (text : List Char) : List Char :=
  (resolve [] (segments (encoded inPath (text.drop 1)))).flatMap fun segment => '/' :: segment

def isIgnored (c : Char) : Bool := c == '\t' || c == '\n' || c == '\r'

def cleaned (text : List Char) : List Char :=
  ((text.reverse.dropWhile (·.toNat ≤ 0x20)).reverse).filter (!isIgnored ·)

def behind? (mark : Char) (text : List Char) : Option (List Char) :=
  if text.contains mark then some ((text.dropWhile (· ≠ mark)).drop 1) else none

def ofRest? (scheme : Scheme) (text : List Char) : Option RelayUrl := do
  let text := (cleaned text).dropWhile isSlash
  let authority := text.takeWhile (!endsAuthority ·)
  let rest := text.dropWhile (!endsAuthority ·)
  let (user, hostAndPort) := (splitLast '@' authority).getD ([], authority)
  let (host, port) := splitPort false hostAndPort
  if host.isEmpty then none
  let host ← UrlHost.ofText? host
  let port ← portOf? scheme port
  let beforeFragment := rest.takeWhile (· ≠ '#')
  return {
    scheme, host, port
    userInfo := userInfoOf user
    path := pathOf (beforeFragment.takeWhile (· ≠ '?'))
    query := (behind? '?' beforeFragment).map (encoded inQuery)
    fragment := (behind? '#' rest).map (encoded inFragment) }

def splitScheme? (text : List Char) : Option (Scheme × List Char) :=
  let behind (scheme : Scheme) :=
    if scheme.opening.isPrefixOf text then some (scheme, text.drop scheme.opening.length) else none
  (behind .http).or (behind .https)

end RelayUrl

end NodeLink.Address
