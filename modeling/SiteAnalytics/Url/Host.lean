import SiteAnalytics.Text.Percent
import SiteAnalytics.Text.Split

/-!
# Hosts

The host of an address is a domain name, an IPv4 address or, in brackets, an IPv6 address. A name
may hold escaped characters, which are resolved first. A name whose last label is a number has to be
an IPv4 address, in one of the many forms in which those are written. The characters that separate
the parts of an address are forbidden in names, and so are control characters.
-/

namespace SiteAnalytics.Url.Host

/-! ### Labels and numbers -/

/-- The value of a digit in a base. -/
def digit? (base : Nat) (c : Char) : Option Nat := (Text.hexValue? c).filter (· < base)

/-- The value of a numeral in a base; nothing at all counts as zero. -/
def number? (base : Nat) (cs : List Char) : Option Nat :=
  cs.foldlM (fun n c => (digit? base c).map fun d => base * n + d) 0

/-- A part of an IPv4 address: hexadecimal after `0x`, octal after `0`, otherwise decimal. -/
def part? : List Char → Option Nat
  | [] => none
  | '0' :: 'x' :: rest | '0' :: 'X' :: rest => number? 16 rest
  | '0' :: c :: rest => number? 8 (c :: rest)
  | cs => number? 10 cs

/-- The labels of a name. A point at the end counts for nothing. -/
def labels (cs : List Char) : List (List Char) :=
  let labels := Text.splitAt '.' cs
  if 1 < labels.length && labels.getLast? = some [] then labels.dropLast else labels

/-- The last label is a number. -/
def endsInNumber (cs : List Char) : Bool :=
  match (labels cs).getLast? with
  | none => false
  | some label =>
    (!label.isEmpty && label.all Char.isDigit) ||
      match label with
      | '0' :: 'x' :: rest | '0' :: 'X' :: rest => (number? 16 rest).isSome
      | _ => false

/-- The labels are an IPv4 address: one to four parts, of which the last one fills all bytes that
the others leave over. -/
def isIpv4 (cs : List Char) : Bool :=
  let labels := labels cs
  match labels.mapM part? with
  | none => false
  | some parts =>
    parts.length ≤ 4 && parts.dropLast.all (· < 256) &&
      parts.getLast?.all (· < Nat.pow 256 (5 - parts.length))

/-! ### IPv6 -/

/-- Four decimal parts without leading zeros, as they may end an IPv6 address. -/
def isDottedQuad (cs : List Char) : Bool :=
  let parts := Text.splitAt '.' cs
  parts.length == 4 && parts.all fun part =>
    part.length ≤ 3 && !part.isEmpty && (part.length == 1 || part.head? != some '0') &&
      (number? 10 part).any (· < 256)

/-- The number of 16-bit groups that a list of groups stands for. Only the last one may be an IPv4
address, if `quadAllowed`. -/
def groupCount? (quadAllowed : Bool) : List (List Char) → Option Nat
  | [] => some 0
  | [group] =>
    if quadAllowed && isDottedQuad group then some 2
    else if 0 < group.length && group.length ≤ 4 && (number? 16 group).isSome then some 1
    else none
  | group :: next :: rest =>
    if 0 < group.length && group.length ≤ 4 && (number? 16 group).isSome then
      (groupCount? quadAllowed (next :: rest)).map (· + 1)
    else none

/-- What stands before and after the first `::`. -/
def aroundGap? : List Char → Option (List Char × List Char)
  | ':' :: ':' :: rest => some ([], rest)
  | c :: rest => (aroundGap? rest).map fun (before, after) => (c :: before, after)
  | [] => none

/-- The groups of a text; none of no text. -/
def groups (cs : List Char) : List (List Char) :=
  if cs.isEmpty then [] else Text.splitAt ':' cs

/-- The text is an IPv6 address: eight groups, or fewer with a gap. -/
def isIpv6 (cs : List Char) : Bool :=
  match aroundGap? cs with
  | none => groupCount? true (groups cs) == some 8
  | some (before, after) =>
    match groupCount? false (groups before), groupCount? true (groups after) with
    | some m, some n => m + n ≤ 7
    | _, _ => false

/-! ### Names -/

/-- The character may not occur in the host of an address whose scheme is not known. -/
def isForbidden (c : Char) : Bool :=
  c == '\x00' || c == '\t' || c == '\n' || c == '\r' || " #/:<>?@[\\]^|".toList.contains c

/-- The character may not occur in a domain name. -/
def isForbiddenInName (c : Char) : Bool :=
  isForbidden c || c.toNat < 0x20 || c == '%' || c == '\x7f'

/-- The text with escaped characters resolved. What is no UTF-8 then is kept as it stands. -/
def unescape (cs : List Char) : List Char :=
  let bytes := Percent.decode cs
  match String.fromUTF8? ⟨bytes.toArray⟩ with
  | some s => s.toList
  | none => cs

/-- An address in brackets, without them. -/
def inBrackets? : List Char → Option (List Char)
  | '[' :: rest => if rest.getLast? = some ']' then some rest.dropLast else none
  | _ => none

/-- Reads the host of an address in a known scheme. -/
def name? (cs : List Char) : Option String :=
  if cs.head? = some '[' then
    match inBrackets? cs with
    | some address => if isIpv6 address then some (String.ofList cs) else none
    | none => none
  else
    let name := unescape cs
    if name.isEmpty || name.any isForbiddenInName then none
    else if endsInNumber name && !isIpv4 name then none
    else some (String.ofList (name.map Char.toLower))

/-- Reads the host of an address in another scheme. -/
def other? (cs : List Char) : Option String :=
  if cs.head? = some '[' then name? cs
  else if cs.any isForbidden then none
  else some (String.ofList cs)

end SiteAnalytics.Url.Host
