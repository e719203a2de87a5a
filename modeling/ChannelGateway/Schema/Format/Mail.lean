import ChannelGateway.Unicode.Classes
import ChannelGateway.Uri.Address
import ChannelGateway.Text.Utf8
/-!
# Mail addresses

A mail address names a mailbox and, after the last `@`, the domain that holds it.
-/

namespace ChannelGateway.Text

open Unicode (isAlphanumeric)

def isAtomChar (c : Char) : Bool :=
  isAlphanumeric c || "!#$%&'*+-/=?^_\x60\x7b|\x7d~".toList.contains c || 0x80 ≤ c.toNat

def isAtom (text : List Char) : Bool := !text.isEmpty && text.all isAtomChar

def isQuotable : List Char → Bool
  | [] => true
  | '\\' :: c :: rest => 0x21 ≤ c.toNat && c.toNat ≤ 0x7E && isQuotable rest
  | c :: rest =>
    (c = ' ' || c = '\t' || (c != '"' && c != '\\' && 0x21 ≤ c.toNat && c.toNat ≠ 0x7F)) &&
      isQuotable rest

def byteCount (text : List Char) : Nat := (Utf8.encode text).length

def isLocalPart (text : List Char) : Bool :=
  !text.isEmpty && byteCount text ≤ 64 &&
    match text with
    | '"' :: rest =>
      if rest.getLast? = some '"' then 2 ≤ rest.length && isQuotable rest.dropLast else false
    | text => (text.splitOn '.').all isAtom

def isDomainPart (part : List Char) : Bool :=
  isAtom part && byteCount part ≤ 63 && part.head?.any isAlphanumeric &&
    part.getLast?.any isAlphanumeric

/-- Whether a text is the part of a mail address after the `@`: an address in brackets, or a host
name as `isHost` tells them. -/
def isMailDomain (isHost : List Char → Bool) (text : List Char) : Bool :=
  byteCount text ≤ 254 &&
    match text with
    | '[' :: rest =>
      rest.getLast? = some ']' &&
        match "IPv6:".toList.isPrefixOf? rest.dropLast with
        | some address => IpAddress.isV6 address
        | none => IpAddress.isV4 rest.dropLast
    | text => (text.splitOn '.').all isDomainPart && isHost text

def splitAtLast? (c : Char) (text : List Char) : Option (List Char × List Char) :=
  let back := text.reverse.takeWhile (· ≠ c)
  match text.reverse.drop back.length with
  | _ :: front => some (front.reverse, back.reverse)
  | [] => none

def afterLastBracket? : List Char → Option (List Char)
  | [] => none
  | c :: rest =>
    (afterLastBracket? rest).or (if c = ' ' then "<".toList.isPrefixOf? rest else none)

def trim (text : List Char) : List Char :=
  ((text.dropWhile Unicode.isWhiteSpace).reverse.dropWhile Unicode.isWhiteSpace).reverse

def mailAddress? (text : List Char) : Option (List Char) :=
  match afterLastBracket? text with
  | some address =>
    let address := trim address
    if address.getLast? = some '>' then some address.dropLast else none
  | none => some text

/-- Whether a text is a mail address with a host name as `isHost` tells them. -/
def isMail (isHost : List Char → Bool) (text : List Char) : Bool :=
  match (mailAddress? text).bind (splitAtLast? '@') with
  | some (localPart, domain) => isLocalPart localPart && isMailDomain isHost domain
  | none => false

end ChannelGateway.Text
