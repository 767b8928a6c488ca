import LintServer.Text.Cut
import LintServer.Url.Domain
import LintServer.Url.Percent

/-!
# Hosts

The host of a URL is a domain in ASCII, an IPv4 address in any of its spellings, or an IPv6
address between brackets. A URL of a scheme this library does not know keeps its host as written,
save for controls.
-/

namespace LintServer.Url
open Text (cut)

/-- Why a text is no URL. -/
inductive Error
  | noScheme
  | emptyHost
  | badDomain
  | badDomainCharacter
  | badPort
  | badIpv4
  | badIpv6
deriving DecidableEq, Repr

/-- The words for an error. -/
def Error.text : Error → String
  | .noScheme => "relative URL without a base"
  | .emptyHost => "empty host"
  | .badDomain => "invalid international domain name"
  | .badDomainCharacter => "invalid domain character"
  | .badPort => "invalid port number"
  | .badIpv4 => "invalid IPv4 address"
  | .badIpv6 => "invalid IPv6 address"

/-- The value of a digit in a base up to sixteen. -/
def digitIn? (base : Nat) (c : Char) : Option Nat :=
  if c.toNat < 128 then
    (hexDigit? (UInt8.ofNat c.toNat)).bind fun n => if n < base then some n else none
  else none

/-- The number some digits write in a base; no digits write zero. -/
def numberIn? (base : Nat) (cs : List Char) : Option Nat :=
  cs.foldlM (fun n c => (digitIn? base c).map (n * base + ·)) 0

/-! ### IPv4 -/

/-- A part of an IPv4 address: hexadecimal after `0x`, octal after `0`, decimal otherwise. -/
def ipv4Part? : List Char → Option Nat
  | [] => none
  | '0' :: 'x' :: r | '0' :: 'X' :: r => numberIn? 16 r
  | '0' :: c :: r => numberIn? 8 (c :: r)
  | cs => numberIn? 10 cs

/-- The parts of a host between dots, without the empty part after a final dot. -/
def dottedParts (cs : List Char) : List (List Char) :=
  let parts := cut (· == '.') cs
  if 1 < parts.length ∧ parts.getLast? = some [] then parts.dropLast else parts

/-- Whether a host has to be an IPv4 address, because its last part is a number. -/
def endsInNumber (cs : List Char) : Bool :=
  match (dottedParts cs).getLast? with
  | none => false
  | some last => (last ≠ [] && last.all Char.isDigit) || (ipv4Part? last).isSome

/-- The address of some parts: each but the last is one byte, the last fills what is left. -/
def ipv4Value? (parts : List Nat) : Option Nat :=
  match parts.reverse with
  | [] => none
  | last :: before =>
    let before := before.reverse
    if before.length < 4 ∧ before.all (· < 256) ∧ last < Nat.pow 256 (4 - before.length) then
      some (before.foldr (fun n rest => n <<< 24 + rest / 256) 0 + last)
    else none

/-- An address as four decimal numbers. -/
def ipv4Text (n : Nat) : String :=
  String.intercalate "."
    ([n >>> 24 % 256, n >>> 16 % 256, n >>> 8 % 256, n % 256].map toString)

/-- Reads an IPv4 address. -/
def parseIpv4 (cs : List Char) : Except Error String :=
  match (dottedParts cs).mapM ipv4Part? with
  | none => .error .badIpv4
  | some parts => (ipv4Value? parts).elim (.error .badIpv4) fun n => .ok (ipv4Text n)

/-! ### IPv6 -/

/-- One group of an IPv6 address: one to four hexadecimal digits. -/
def ipv6Group? (cs : List Char) : Option Nat :=
  if cs = [] ∨ 4 < cs.length then none else numberIn? 16 cs

/-- A decimal byte without superfluous zeros. -/
def byte? (cs : List Char) : Option Nat :=
  if cs = [] ∨ (1 < cs.length ∧ cs.head? = some '0') then none
  else (numberIn? 10 cs).bind fun n => if n < 256 then some n else none

/-- The two groups that four decimal bytes stand for. -/
def ipv4Groups? (cs : List Char) : Option (List Nat) :=
  match (cut (· == '.') cs).mapM byte? with
  | some [a, b, c, d] => some [a * 256 + b, c * 256 + d]
  | _ => none

/-- The groups of a stretch without `::`; only at the end of the address may the last be IPv4. -/
def ipv6Groups? (atEnd : Bool) (cs : List Char) : Option (List Nat) :=
  if cs = [] then some []
  else
    let groups := cut (· == ':') cs
    match groups.getLast? with
    | some last =>
      if atEnd && last.contains '.' then do
        return (← groups.dropLast.mapM ipv6Group?) ++ (← ipv4Groups? last)
      else groups.mapM ipv6Group?
    | none => none

/-- The text before and after the first `::`. -/
def cutAtGap : List Char → Option (List Char × List Char)
  | ':' :: ':' :: r => some ([], r)
  | c :: r => (cutAtGap r).map fun (a, b) => (c :: a, b)
  | [] => none

/-- The eight groups of an IPv6 address. -/
def ipv6Value? (cs : List Char) : Option (List Nat) :=
  match cutAtGap cs with
  | none => (ipv6Groups? true cs).bind fun g => if g.length = 8 then some g else none
  | some (before, after) => do
    let a ← ipv6Groups? false before
    let b ← ipv6Groups? true after
    if a.length + b.length ≤ 7 then
      return a ++ List.replicate (8 - a.length - b.length) 0 ++ b
    else none

/-- The length of the run of zeros at the front. -/
def zerosInFront (groups : List Nat) : Nat := (groups.takeWhile (· == 0)).length

/-- Where the first longest run of zeros starts, and its length. -/
def longestZeros (groups : List Nat) : Nat × Nat :=
  (List.range groups.length).foldl
    (fun best i => let n := zerosInFront (groups.drop i); if best.2 < n then (i, n) else best)
    (0, 0)

/-- A list of groups between colons. -/
def groupsText (groups : List Nat) : String :=
  String.intercalate ":" (groups.map fun n => String.ofList (Nat.toDigits 16 n))

/-- An address between brackets; the longest run of at least two zeros is left out. -/
def ipv6Text (groups : List Nat) : String :=
  let (start, n) := longestZeros groups
  if n < 2 then "[" ++ groupsText groups ++ "]"
  else "[" ++ groupsText (groups.take start) ++ "::" ++ groupsText (groups.drop (start + n)) ++ "]"

/-- Reads what starts with a bracket as an IPv6 address. -/
def parseIpv6 (cs : List Char) : Except Error String :=
  if cs.getLast? = some ']' then
    (ipv6Value? (cs.drop 1).dropLast).elim (.error .badIpv6) fun g => .ok (ipv6Text g)
  else .error .badIpv6

/-! ### Hosts -/

/-- Characters no host has, whatever the scheme. -/
def isForbiddenAnywhere (c : Char) : Bool :=
  ['\x00', '\t', '\n', '\r', ' ', '#', '/', ':', '<', '>', '?', '@', '[', '\\', ']', '^',
    '|'].contains c

/-- Reads the host of a URL for the web or for files. -/
def parseHost (cs : List Char) : Except Error String :=
  if cs.head? = some '[' then parseIpv6 cs
  else
    match (Utf8.decode? (decodeBytes (Utf8.encode cs))).bind Domain.toAscii? with
    | none => .error .badDomain
    | some domain =>
      if domain = [] then .error .emptyHost
      else if endsInNumber domain then parseIpv4 domain
      else .ok (String.ofList domain)

/-- Reads the host of any other URL. -/
def parseFreeHost (cs : List Char) : Except Error String :=
  if cs.head? = some '[' then parseIpv6 cs
  else if cs.any isForbiddenAnywhere then .error .badDomainCharacter
  else .ok (String.ofList (encode isControl cs))

end LintServer.Url
