import Mjpeg.Text.Split
import Mjpeg.Text.Utf8
import Mjpeg.Url.Domain
import Mjpeg.Url.Percent

/-!
# Hosts of a URL

The host of a web address is a domain name, an IPv4 address, or an IPv6 address in brackets.
Domain names are lower case. An IPv4 address may be written with fewer than four numbers, the
last of which then fills what is missing, and with octal or hexadecimal numbers; it is rendered
with four decimal ones. An IPv6 address is rendered with its longest run of zeros left out.
Elsewhere a host is any text without the characters that end it.
-/

namespace Mjpeg.Url

/-- Why a text is no URL. -/
inductive ParseError where
  | noScheme
  | emptyHost
  | invalidPort
  | invalidIpv4
  | invalidIpv6
  | invalidDomain
  | invalidDomainCharacter
  deriving Repr, DecidableEq

/-- The text of an error. -/
def ParseError.message : ParseError → String
  | noScheme => "relative URL without a base"
  | emptyHost => "empty host"
  | invalidPort => "invalid port number"
  | invalidIpv4 => "invalid IPv4 address"
  | invalidIpv6 => "invalid IPv6 address"
  | invalidDomain => "invalid international domain name"
  | invalidDomainCharacter => "invalid domain character"

/-! ### IPv4 -/

/-- The value of a numeral in the given base, or none when it has another character. -/
def numeral? (base : Nat) (cs : List Char) : Option Nat :=
  cs.foldlM (fun n c => do
    let d ← hexValue? c
    if d < base then some (base * n + d) else none) 0

/-- A number of an IPv4 address: hexadecimal behind `0x`, octal behind `0`, else decimal. -/
def ipv4Number? : List Char → Option Nat
  | [] => none
  | '0' :: 'x' :: cs | '0' :: 'X' :: cs => numeral? 16 cs
  | '0' :: c :: cs => numeral? 8 (c :: cs)
  | cs => numeral? 10 cs

/-- The numbers of a host without the empty one that a full stop at its end leaves. -/
def labels (host : List Char) : List (List Char) :=
  let all := Text.splitAll (· == '.') host
  if all.length > 1 && all.getLast? == some [] then all.dropLast else all

/-- The last label of a host is a number, so that the host must be an IPv4 address. -/
def endsInNumber (host : List Char) : Bool :=
  match (labels host).getLast? with
  | none | some [] => false
  | some label => label.all Char.isDigit || (ipv4Number? label).isSome

/-- The four decimal numbers of an address. -/
def renderIpv4 (n : Nat) : List Char :=
  (toString (n >>> 24 % 256) ++ "." ++ toString (n >>> 16 % 256) ++ "." ++
    toString (n >>> 8 % 256) ++ "." ++ toString (n % 256)).toList

/-- The address that some numbers stand for: all but the last are octets from the left. -/
def ipv4OfNumbers? (numbers : List Nat) : Option Nat :=
  match numbers.reverse with
  | [] => none
  | last :: rest =>
    let heads := rest.reverse
    if heads.length > 3 || heads.any (· > 255) || last ≥ 1 <<< (8 * (4 - heads.length)) then none
    else some (heads.zipIdx.foldl (fun sum (n, i) => sum + n <<< (8 * (3 - i))) last)

/-- The IPv4 address that a host spells. -/
def parseIpv4 (host : List Char) : Except ParseError (List Char) :=
  match ((labels host).mapM ipv4Number?).bind ipv4OfNumbers? with
  | some n => .ok (renderIpv4 n)
  | none => .error .invalidIpv4

/-! ### IPv6 -/

/-- One group of an IPv6 address: one to four hexadecimal digits. -/
def ipv6Group? (cs : List Char) : Option Nat :=
  if cs.isEmpty || cs.length > 4 then none else numeral? 16 cs

/-- The two groups that a dotted decimal address at the end stands for. -/
def dottedGroups? (cs : List Char) : Option (List Nat) := do
  let parts := Text.splitAll (· == '.') cs
  if parts.length ≠ 4 then none
  let ns ← parts.mapM fun part =>
    if part.isEmpty || (part.length > 1 && part.head? == some '0') then none else numeral? 10 part
  match ns with
  | [a, b, c, d] =>
    if ns.any (· > 255) then none else some [256 * a + b, 256 * c + d]
  | _ => none

/-- The groups of one side of an IPv6 address. -/
def ipv6Side? (cs : List Char) : Option (List Nat) :=
  if cs.isEmpty then some []
  else
    let parts := Text.splitAll (· == ':') cs
    match parts.getLast? with
    | none => none
    | some last => do
      let heads ← parts.dropLast.mapM ipv6Group?
      let tail ← if last.contains '.' then dottedGroups? last else (ipv6Group? last).map ([·])
      return heads ++ tail

/-- The text before the first double colon and behind it. -/
def splitDoubleColon : List Char → Option (List Char × List Char)
  | [] => none
  | ':' :: ':' :: cs => some ([], cs)
  | c :: cs => (splitDoubleColon cs).map fun (before, behind) => (c :: before, behind)

/-- The eight groups that an IPv6 address spells. -/
def ipv6Groups? (cs : List Char) : Option (List Nat) := do
  match splitDoubleColon cs with
  | none =>
    let groups ← ipv6Side? cs
    if cs.isEmpty || groups.length ≠ 8 then none else some groups
  | some (before, behind) =>
    if before.contains '.' then none
    let left ← ipv6Side? before
    let right ← ipv6Side? behind
    if left.length + right.length > 7 then none
    else some (left ++ List.replicate (8 - left.length - right.length) 0 ++ right)

/-- The length of the run of zeros at the start. -/
def zeroRun : List Nat → Nat
  | 0 :: gs => zeroRun gs + 1
  | _ => 0

/-- The start and the length of the first longest run of zeros. -/
def longestRun (groups : List Nat) : Nat × Nat :=
  (List.range groups.length).foldl (fun (start, length) i =>
    let run := zeroRun (groups.drop i)
    if run > length then (i, run) else (start, length)) (0, 0)

/-- Groups in hexadecimal with colons between them. -/
def joinGroups (groups : List Nat) : List Char :=
  List.intercalate [':'] (groups.map (Nat.toDigits 16))

/-- An IPv6 address in brackets. -/
def renderIpv6 (groups : List Nat) : List Char :=
  let (start, length) := longestRun groups
  let text :=
    if length < 2 then joinGroups groups
    else joinGroups (groups.take start) ++ [':', ':'] ++ joinGroups (groups.drop (start + length))
  '[' :: text ++ [']']

/-- The IPv6 address within brackets, the first of which has been read. -/
def parseIpv6 (cs : List Char) : Except ParseError (List Char) :=
  if cs.getLast? = some ']' then
    match ipv6Groups? cs.dropLast with
    | some groups => .ok (renderIpv6 groups)
    | none => .error .invalidIpv6
  else .error .invalidIpv6

/-! ### Names -/

/-- The characters that no host may have. -/
def forbiddenHostSet : List Char :=
  ['\x00', '\t', '\n', '\r', ' ', '#', '/', ':', '<', '>', '?', '@', '[', '\\', ']', '^', '|']

/-- The characters that a domain name may not have, besides controls. -/
def forbiddenDomainSet : List Char := forbiddenHostSet ++ ['%', '\x60', '\x7b', '\x7d']

/-- The host of a web address. -/
def parseWebHost (cs : List Char) : Except ParseError (List Char) :=
  match cs with
  | '[' :: cs => parseIpv6 cs
  | cs =>
    match (Text.decode? (decode cs)).bind Domain.toAscii? with
    | none => .error .invalidDomain
    | some name =>
      if name.any fun c => isControl c || forbiddenDomainSet.contains c then .error .invalidDomain
      else if name.isEmpty then .error .emptyHost
      else if endsInNumber name then parseIpv4 name
      else .ok name

/-- The host of any other address. -/
def parseOpaqueHost (cs : List Char) : Except ParseError (List Char) :=
  match cs with
  | '[' :: cs => parseIpv6 cs
  | cs =>
    if cs.any forbiddenHostSet.contains then .error .invalidDomainCharacter
    else .ok (encode [] cs)

end Mjpeg.Url
