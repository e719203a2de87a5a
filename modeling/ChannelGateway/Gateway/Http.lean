import ChannelGateway.Json.Value
/-!
# HTTP requests

A request as it arrives: method, target, header lines and body.  What is no well-formed request is
refused before it reaches the gateway.
-/

namespace ChannelGateway

namespace Http

def isTokenChar (c : Char) : Bool := c.isAlphanum || "!#$%&'*+-.^_\x60|~".toList.contains c

def isToken (text : String) : Bool := !text.isEmpty && text.toList.all isTokenChar

def isFieldValue (text : String) : Bool :=
  text.toList.all fun c => c = '\t' || (0x20 ≤ c.toNat && c.toNat ≠ 0x7F)

def isReadable (text : String) : Bool :=
  text.toList.all fun c => c = '\t' || (0x20 ≤ c.toNat && c.toNat < 0x7F)

def isPathChar (c : Char) : Bool :=
  0x21 ≤ c.toNat && !(['#', '<', '>', '?', '\x60'].contains c)

def isQueryChar (c : Char) : Bool :=
  0x21 ≤ c.toNat && c.toNat ≠ 0x7F && !(['"', '#', '<', '>'].contains c)

/-- The path of a target that begins with one; the query and the fragment are left out. -/
def pathOf? (target : List Char) : Option (List Char) :=
  let beforeFragment := target.takeWhile (· ≠ '#')
  let path := beforeFragment.takeWhile (· ≠ '?')
  if path.all isPathChar && (beforeFragment.drop (path.length + 1)).all isQueryChar then some path
  else none

/-- What was read of an authority, a host with a user before it and a number after it. -/
structure AuthorityScan where
  /-- The number of colons since the last `@` or bracket. -/
  colons : Nat
  /-- Whether there is a percent sign since then. -/
  escaped : Bool
  opened : Bool
  closed : Bool
deriving DecidableEq, Repr

def isAuthorityChar (c : Char) : Bool := c.isAlphanum || "!$&'()*+,-.;=_~".toList.contains c

/-- Reads a character of an authority.  Brackets occur once, and no part has more than
eight colons. -/
def AuthorityScan.read? (scan : AuthorityScan) (c : Char) : Option AuthorityScan :=
  match c with
  | ':' => if scan.colons < 8 then some { scan with colons := scan.colons + 1 } else none
  | '%' => some { scan with escaped := true }
  | '@' => some { scan with colons := 0, escaped := false }
  | '[' => if scan.escaped || scan.opened then none else some { scan with opened := true }
  | ']' => if scan.opened && !scan.closed then some ⟨0, false, true, true⟩ else none
  | c => if isAuthorityChar c then some scan else none

/-- Whether a text is an authority: escapes occur before an `@` or in brackets only, and at most one
colon follows. -/
def isAuthority (text : List Char) : Bool :=
  match text.foldlM AuthorityScan.read? ⟨0, false, false, false⟩ with
  | some scan =>
    !text.isEmpty && scan.opened = scan.closed && scan.colons ≤ 1 && !scan.escaped &&
      text.getLast? != some '@'
  | none => false

/-- The path of an absolute target, after its scheme; an absent one is the root. -/
def absolutePath? (afterScheme : List Char) : Option (List Char) :=
  let authority := afterScheme.takeWhile fun c => c != '/' && c != '?' && c != '#'
  if isAuthority authority then
    (pathOf? (afterScheme.drop authority.length)).map fun path =>
      if path.isEmpty then ['/'] else path
  else none

def isSchemeChar (c : Char) : Bool := c.isAlphanum || "+-.~".toList.contains c

def schemeLimit : Nat := 64

def afterScheme? (target : List Char) : Option (List Char) :=
  let scheme := target.takeWhile isSchemeChar
  if schemeLimit < scheme.length then none else "://".toList.isPrefixOf? (target.drop scheme.length)

def targetLimit : Nat := 65534

def targetPath? (target : String) : Option String :=
  if targetLimit < target.utf8ByteSize then none
  else match target.toList with
  | ['*'] => some "*"
  | '/' :: rest => (pathOf? ('/' :: rest)).map String.ofList
  | chars =>
    match afterScheme? chars with
    | some afterScheme => (absolutePath? afterScheme).map String.ofList
    | none => if isAuthority chars then some "" else none

end Http

structure HttpRequest where
  method : String
  path : String
  /-- The header lines in order. -/
  headers : List (String × String)
  /-- The body, or why it cannot be read. -/
  body : Except String (List UInt8)

def HttpRequest.ofParts? (method target : String) (headers : List (String × String))
    (body : Except String (List UInt8)) : Option HttpRequest :=
  if Http.isToken method && headers.all fun (name, value) =>
      Http.isToken name && Http.isFieldValue value then
    (Http.targetPath? target).map fun path => ⟨method, path, headers, body⟩
  else none

end ChannelGateway
