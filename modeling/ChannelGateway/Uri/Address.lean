import ChannelGateway.Number.Decimal
import ChannelGateway.Text.Hex
/-!
# Internet addresses

The textual forms of IPv4 and IPv6 addresses.
-/

namespace ChannelGateway.IpAddress

/-- Whether a text is a number below 256 without a leading zero. -/
def isOctet (text : List Char) : Bool :=
  match text with
  | [] => false
  | ['0'] => true
  | '0' :: _ => false
  | digits => digits.length ≤ 3 && digits.all Char.isDigit && Decimal.ofDigits digits < 256

/-- Whether a text is an IPv4 address: four octets with points between them. -/
def isV4 (text : List Char) : Bool :=
  let octets := text.splitOn '.'
  octets.length = 4 && octets.all isOctet

/-- Whether a text is a group of an IPv6 address: one to four hexadecimal digits. -/
def isGroup (text : List Char) : Bool :=
  !text.isEmpty && text.length ≤ 4 && text.all fun c => (Hex.digit? c).isSome

/-- The parts of a text around its first double colon. -/
def splitAtGap? : List Char → Option (List Char × List Char)
  | ':' :: ':' :: rest => some ([], rest)
  | c :: rest => (splitAtGap? rest).map fun (front, back) => (c :: front, back)
  | [] => none

/-- The 16-bit groups that a colon-separated text spells; the last part may be an IPv4 address,
which counts twice, if `embedded` allows it. -/
def groups? (text : List Char) (embedded : Bool) : Option (List Nat) :=
  let group? (part : List Char) : Option Nat := if isGroup part then Hex.ofDigits? part else none
  if text.isEmpty then some []
  else
    let parts := text.splitOn ':'
    match parts.mapM group?, parts.dropLast.mapM group?, parts.getLast? with
    | some groups, _, _ => some groups
    | none, some front, some last =>
      if embedded && isV4 last then
        match (last.splitOn '.').map Decimal.ofDigits with
        | [a, b, c, d] => some (front ++ [256 * a + b, 256 * c + d])
        | _ => none
      else none
    | _, _, _ => none

/-- The eight groups of an IPv6 address: all of them written, or fewer around one double colon,
which stands for zeros. -/
def groupsV6? (text : List Char) : Option (List Nat) :=
  match splitAtGap? text with
  | none => (groups? text true).filter fun groups => groups.length = 8
  | some (front, back) =>
    match groups? front false, groups? back true with
    | some front, some back =>
      if front.length + back.length ≤ 7 then
        some (front ++ List.replicate (8 - front.length - back.length) 0 ++ back)
      else none
    | _, _ => none

def isV6 (text : List Char) : Bool := (groupsV6? text).isSome

def bracketedV6? : List Char → Option (List Nat)
  | '[' :: rest => if rest.getLast? = some ']' then groupsV6? rest.dropLast else none
  | _ => none

def zeroCount (groups : List Nat) : Nat := (groups.takeWhile (· = 0)).length

def joinGroups (groups : List Nat) : List Char :=
  List.intercalate [':'] (groups.map (Nat.toDigits 16))

/-- The text of an IPv6 address: the first of the longest runs of two zeros or more is left out,
and an embedded IPv4 address is written as such. -/
def textV6 (groups : List Nat) : List Char :=
  match groups with
  | [0, 0, 0, 0, 0, 0xFFFF, ab, cd] =>
    "::ffff:".toList ++
      List.intercalate ['.'] ([ab / 256, ab % 256, cd / 256, cd % 256].map (Nat.toDigits 10))
  | groups =>
    let runs := (List.range groups.length).map fun i => (i, zeroCount (groups.drop i))
    let longest := runs.foldl (fun best run => if best.2 < run.2 then run else best) (0, 0)
    if longest.2 < 2 then joinGroups groups
    else joinGroups (groups.take longest.1) ++ "::".toList ++
      joinGroups (groups.drop (longest.1 + longest.2))

end ChannelGateway.IpAddress
