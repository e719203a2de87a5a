import ChannelGateway.Uri.Address
/-!
# Resource identifiers

A reference has five parts: scheme, authority, path, query and fragment.  With a scheme it is an
identifier of its own; without one it is read relative to a base.
-/

namespace ChannelGateway

structure UriReference where
  scheme : Option (List Char)
  authority : Option (List Char)
  path : List Char
  query : Option (List Char)
  fragment : Option (List Char)
deriving DecidableEq, Repr

namespace UriReference

def cut? (stops : Char → Bool) (text : List Char) : Option (List Char × List Char) :=
  let front := text.takeWhile fun c => !stops c
  match text.drop front.length with
  | _ :: back => some (front, back)
  | [] => none

def isScheme (text : List Char) : Bool :=
  text.head?.any Char.isAlpha &&
    text.all fun c => c.isAlphanum || c = '+' || c = '-' || c = '.'

def ofText (text : List Char) : UriReference :=
  let (text, fragment) := match cut? (· = '#') text with
    | some (front, back) => (front, some back)
    | none => (text, none)
  let (text, query) := match cut? (· = '?') text with
    | some (front, back) => (front, some back)
    | none => (text, none)
  let (scheme, text) := match cut? (fun c => c = ':' || c = '/') text with
    | some (front, back) =>
      if text[front.length]? = some ':' && isScheme front then (some front, back) else (none, text)
    | none => (none, text)
  match text with
  | '/' :: '/' :: rest =>
    let authority := rest.takeWhile (· ≠ '/')
    ⟨scheme, some authority, rest.drop authority.length, query, fragment⟩
  | path => ⟨scheme, none, path, query, fragment⟩

def text (r : UriReference) : List Char :=
  (r.scheme.elim [] (· ++ [':'])) ++ (r.authority.elim [] (['/', '/'] ++ ·)) ++ r.path ++
    (r.query.elim [] ('?' :: ·)) ++ (r.fragment.elim [] ('#' :: ·))

/-- Whether a character beyond ASCII may stand in every part of an internationalized reference. -/
def isInternational (c : Char) : Bool :=
  let n := c.toNat
  (0xA0 ≤ n && n ≤ 0xD7FF) || (0xF900 ≤ n && n ≤ 0xFDCF) || (0xFDF0 ≤ n && n ≤ 0xFFEF) ||
    (0x10000 ≤ n && n < 0xF0000 && n % 0x10000 < 0xFFFE && !(0xE0000 ≤ n && n < 0xE1000))

def isPrivate (c : Char) : Bool :=
  let n := c.toNat
  (0xE000 ≤ n && n ≤ 0xF8FF) || (0xF0000 ≤ n && n % 0x10000 < 0xFFFE)

def isUnreserved (international : Bool) (c : Char) : Bool :=
  c.isAlphanum || c = '-' || c = '.' || c = '_' || c = '~' || (international && isInternational c)

def isSubDelimiter (c : Char) : Bool := "!$&'()*+,;=".toList.contains c

/-- Whether a text consists of characters that pass and of percent escapes. -/
def isEncoded (pass : Char → Bool) : List Char → Bool
  | [] => true
  | '%' :: a :: b :: rest => (Hex.digit? a).isSome && (Hex.digit? b).isSome && isEncoded pass rest
  | c :: rest => c != '%' && pass c && isEncoded pass rest

def isBracketed (host : List Char) : Bool :=
  match host with
  | '[' :: rest =>
    rest.getLast? = some ']' &&
      (IpAddress.isV6 rest.dropLast ||
        (rest.head?.any (fun c => c = 'v' || c = 'V') &&
          match cut? (· = '.') rest.dropLast.tail with
          | some (version, address) =>
            !version.isEmpty && version.all (fun c => (Hex.digit? c).isSome) && !address.isEmpty &&
              address.all fun c => isUnreserved false c || isSubDelimiter c || c = ':'
          | none => false))
  | _ => false

def withoutService (host : List Char) : List Char :=
  match host.reverse.dropWhile Char.isDigit with
  | ':' :: front => front.reverse
  | _ => host

def isAuthority (international : Bool) (authority : List Char) : Bool :=
  let pass c := isUnreserved international c || isSubDelimiter c
  let (user, host) := match cut? (· = '@') authority with
    | some (user, host) => (user, host)
    | none => ([], authority)
  let host := withoutService host
  isEncoded (fun c => pass c || c = ':') user && (isBracketed host || isEncoded pass host)

def isWellFormed (international : Bool) (r : UriReference) : Bool :=
  let pass c := isUnreserved international c || isSubDelimiter c || c = ':' || c = '@'
  r.authority.all (isAuthority international) &&
    isEncoded (fun c => pass c || c = '/') r.path &&
    (r.scheme.isSome || r.authority.isSome || !(r.path.takeWhile (· ≠ '/')).contains ':') &&
    r.query.all (isEncoded fun c =>
      pass c || c = '/' || c = '?' || (international && isPrivate c)) &&
    r.fragment.all (isEncoded fun c => pass c || c = '/' || c = '?')

/-- Removes the dot segments of a path, given the segments that stand before it, the
last one first. -/
def removeDots (kept : List (List Char)) : List (List Char) → List (List Char)
  | [] => kept.reverse
  | ['.'] :: rest => removeDots (if rest.isEmpty then [] :: kept else kept) rest
  | ['.', '.'] :: rest =>
    let kept := match kept with
      | [] => []
      | [first] => if first.isEmpty then [first] else []
      | _ :: kept => kept
    removeDots (if rest.isEmpty then [] :: kept else kept) rest
  | segment :: rest => removeDots (segment :: kept) rest

/-- A path without dot segments.  Only a path from the root is a sequence of steps; any
other is kept. -/
def withoutDots (path : List Char) : List Char :=
  if path.head? = some '/' then List.intercalate ['/'] (removeDots [] (path.splitOn '/')) else path

def resolve (base r : UriReference) : UriReference :=
  if r.scheme.isSome then { r with path := withoutDots r.path }
  else if r.authority.isSome then { r with scheme := base.scheme, path := withoutDots r.path }
  else
    let (path, query) :=
      if r.path.isEmpty then (base.path, r.query.or base.query)
      else if r.path.head? = some '/' then (withoutDots r.path, r.query)
      else
        let folder := base.path.reverse.dropWhile (· ≠ '/') |>.reverse
        let folder := if folder.isEmpty && base.authority.isSome then ['/'] else folder
        (withoutDots (folder ++ r.path), r.query)
    ⟨base.scheme, base.authority, path, query, r.fragment⟩

/-- A text in which no escape stands for an unreserved character and every other one has upper-case
digits.  `change` is applied to the characters that stand for themselves. -/
def plainEscapes (change : Char → Char) : List Char → List Char
  | [] => []
  | '%' :: a :: b :: rest =>
    match Hex.ofDigits? [a, b] with
    | some n =>
      let c := Char.ofNat n
      (if n < 0x80 && isUnreserved false c then [change c] else ['%', a.toUpper, b.toUpper]) ++
        plainEscapes change rest
    | none => '%' :: plainEscapes change (a :: b :: rest)
  | c :: rest => change c :: plainEscapes change rest

/-- An authority in the form in which authorities are compared: the host in lower case and no colon
without the number of a service. -/
def plainAuthority (authority : List Char) : List Char :=
  let (user, host) := match cut? (· = '@') authority with
    | some (user, host) => (plainEscapes id user ++ ['@'], host)
    | none => ([], authority)
  let name := withoutService host
  let service := host.drop name.length
  let name := match IpAddress.bracketedV6? name with
    | some groups => '[' :: IpAddress.textV6 groups ++ [']']
    | none => plainEscapes Char.toLower name
  user ++ name ++ if service = [':'] then [] else service

/-- The form in which references are compared: scheme and host in lower case, no escapes without
need, and no dot segments. -/
def normalized (r : UriReference) : UriReference :=
  let path := plainEscapes id r.path
  let path := if r.scheme.isSome then withoutDots path else path
  let hidden := r.scheme.isSome && r.authority.isNone && ['/', '/'].isPrefixOf path
  { scheme := r.scheme.map (·.map Char.toLower)
    authority := r.authority.map plainAuthority
    path := if hidden then ['/', '.'] ++ path else path
    query := r.query.map (plainEscapes id)
    fragment := r.fragment.map (plainEscapes id) }

end UriReference

namespace Uri

def isReference (international : Bool) (text : List Char) : Bool :=
  (UriReference.ofText text).isWellFormed international

/-- Whether a text is a well-formed identifier: a reference with a scheme. -/
def isIdentifier (international : Bool) (text : List Char) : Bool :=
  (UriReference.ofText text).scheme.isSome && isReference international text

end Uri

inductive UriFaultKind where
  | escape
  | address
  | character
deriving DecidableEq, Repr

/-- The place at which a text stops being a reference, counted in bytes. -/
structure UriFault where
  kind : UriFaultKind
  index : Nat
deriving DecidableEq, Repr

namespace UriFault

/-- The length of the longest beginning of a text that is a reference.  What should be a scheme has
to start with a letter. -/
def soundLength (text : List Char) : Nat :=
  let front := text.takeWhile fun c => c.isAlphanum || c = '+' || c = '-' || c = '.'
  if text[front.length]? = some ':' && !UriReference.isScheme front then 0
  else ((List.range text.length).reverse.find? fun n => Uri.isReference false (text.take n)).getD 0

/-- The fault of a text; `none` for a reference. -/
def ofText? (text : List Char) : Option UriFault :=
  if Uri.isReference false text then none
  else
    let front := text.take (soundLength text)
    let kind : UriFaultKind := match text[front.length]?, front.getLast? with
      | some '%', _ => .escape
      | some '[', some '/' | some '[', some '@' => .address
      | _, _ => .character
    some ⟨kind, (String.ofList front).utf8ByteSize⟩

def message (f : UriFault) : String :=
  (match f.kind with
    | .escape => "invalid percent-encoded octet"
    | .address => "invalid IP literal"
    | .character => "unexpected character") ++ " at index " ++ toString f.index

end UriFault

/-- Why a text cannot be read relative to a base. -/
inductive UriObstacle where
  /-- It is no reference. -/
  | malformed (fault : UriFault)
  /-- The base ends in a fragment. -/
  | fragment
  /-- The path of the base is no sequence of steps. -/
  | opaquePath
deriving DecidableEq, Repr

namespace Uri

/-- The text that stands for itself: one that starts with `#` and ends the base is
already resolved. -/
def isTail (base reference : List Char) : Bool :=
  reference.head? = some '#' && reference.reverse.isPrefixOf base.reverse

/-- A text read relative to a base, in the form in which identifiers are compared. -/
def resolve (base text : String) : Except UriObstacle String :=
  let chars := text.toList
  if isTail base.toList chars then .ok base
  else match UriFault.ofText? chars with
    | some fault => .error (.malformed fault)
    | none =>
      let from_ := UriReference.ofText base.toList
      let r := UriReference.ofText chars
      if from_.fragment.isSome then .error .fragment
      else if from_.authority.isNone && from_.path.head? != some '/' && !from_.path.isEmpty &&
          r.scheme.isNone && !chars.isEmpty && chars.head? != some '#' then .error .opaquePath
      else .ok (String.ofList (from_.resolve r).normalized.text)

/-- An identifier, or a reference relative to a base without a fragment, in the form in which
identifiers are compared. -/
def absolute (base text : String) : Except UriFault String :=
  match UriFault.ofText? text.toList with
  | some fault => .error fault
  | none =>
    let r := (UriReference.ofText text.toList).normalized
    let r := if r.scheme.isSome then r else (UriReference.ofText base.toList).resolve r
    .ok (String.ofList r.text)

end Uri

end ChannelGateway
