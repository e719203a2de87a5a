import ChannelGateway.Regex.Extended.Place
/-!
# Escapes and classes of extended patterns

Classes are kept as they are written, but for escapes that only extended patterns have.
-/

namespace ChannelGateway.Regex.Extended

def hexChar? (count : Nat) (text : List Char) : Option (Char × List Char) :=
  let digits := text.take count
  if digits.length = count && digits.all Plain.isHexDigit then
    (Plain.charOfHex? digits).map fun c => (c, text.drop count)
  else
    match text with
    | '\x7b' :: rest =>
      let digits := rest.takeWhile Plain.isHexDigit
      match rest.drop digits.length with
      | '\x7d' :: after =>
        if digits.length ≤ 8 then (Plain.charOfHex? digits).map fun c => (c, after) else none
      | _ => none
    | _ => none

def propertyText? (text : List Char) : Option (List Char × List Char) :=
  match text with
  | '\x7b' :: rest =>
    let name := rest.takeWhile (· ≠ '\x7d')
    match rest.drop name.length with
    | mark :: after => some ('\x7b' :: name ++ [mark], after)
    | [] => none
  | c :: rest => some ([c], rest)
  | [] => none

def escapedChar? (c : Char) : Option Char :=
  match c with
  | 'a' => some '\x07'
  | 'b' => some '\x08'
  | 'e' => some '\x1b'
  | 'f' => some '\x0c'
  | 'n' => some '\n'
  | 'r' => some '\r'
  | 't' => some '\t'
  | 'v' => some '\x0b'
  | c => if c.isAlpha then none else some c

def character? (flags : Flags) : List Char → Option (Extended × List Char)
  | [] => none
  | c :: rest =>
    let literal (read : Option (Char × List Char)) : Option (Extended × List Char) :=
      read.map fun (c, rest) => (.literal c flags.ignoreCase, rest)
    match c with
    | 'd' | 's' | 'w' | 'D' | 'S' | 'W' =>
      some (.oneOf (String.ofList ['\\', c]) flags.ignoreCase, rest)
    | 'h' => some (.oneOf "[0-9A-Fa-f]" false, rest)
    | 'H' => some (.oneOf "[^0-9A-Fa-f]" false, rest)
    | 'x' => literal (hexChar? 2 rest)
    | 'u' => literal (hexChar? 4 rest)
    | 'U' => literal (hexChar? 8 rest)
    | 'p' | 'P' =>
      (propertyText? rest).map fun (name, rest) =>
        (.oneOf (String.ofList ('\\' :: c :: name)) flags.ignoreCase, rest)
    | c => literal ((escapedChar? c).map fun c => (c, rest))

def escape? (p : Place) : Option (Extended × Place) := do
  let assertion (a : Assertion) (rest : List Char) : Option (Extended × Place) :=
    some (.assertion a, p.withRest rest)
  let boundary (a : Assertion) (rest : List Char) : Option (Extended × Place) :=
    if rest.head? = some '\x7b' then none else assertion a rest
  match p.rest with
  | [] => none
  | 'k' :: rest => do
    let (close, rest) := match rest with
      | '\'' :: rest => ('\'', rest)
      | rest => ('>', if rest.head? = some '<' then rest.drop 1 else [])
    let (name, rest) ← name? close true rest
    let number ← p.groupNamed? name
    if p.knows number then some (.backReference number, (p.withRest rest).refer number) else none
  | 'A' :: rest => assertion .textStart rest
  | 'z' :: rest => assertion .textEnd rest
  | 'b' :: rest => boundary .wordBoundary rest
  | 'B' :: rest => boundary .noWordBoundary rest
  | '<' :: rest => assertion .wordStart rest
  | '>' :: rest => assertion .wordEnd rest
  | 'K' :: rest => some (.keepOut, p.withRest rest)
  | 'G' :: rest => some (.searchStart, p.withRest rest)
  | c :: rest =>
    if c.isDigit then do
      let (number, rest) ← decimal? (c :: rest)
      if number < p.patternSize / 2 && p.knows number then
        some (.backReference number, { (p.withRest rest).refer number with hasNumbers := true })
      else none
    else
      (character? p.flags (c :: rest)).map fun (e, rest) => (e, p.withRest rest)

def classEscape? (flags : Flags) (text : List Char) : Option (String × List Char) :=
  match text with
  | [] => none
  | c :: rest =>
    if c.isDigit then none
    else if "kAzBKG".toList.contains c then some (escaped c, rest)
    else
      match character? flags text with
      | some (.literal c _, rest) => some (escaped c, rest)
      | some (.oneOf written _, rest) => some (written, rest)
      | _ => none

/-- Reads a class from after its opening bracket, where `depth` classes are open, and gives its
text with what is left.  A closing bracket that comes first stands for itself. -/
def classText? (flags : Flags) : Nat → Nat → String → List Char → Option (String × List Char)
  | 0, _, _, _ => none
  | _ + 1, _, _, [] => none
  | fuel + 1, depth, written, '\\' :: rest => do
    let (escape, rest) ← classEscape? flags rest
    classText? flags fuel depth (written ++ escape) rest
  | fuel + 1, depth, written, '[' :: rest =>
    classText? flags fuel (depth + 1) (written.push '[') rest
  | fuel + 1, depth, written, ']' :: rest =>
    if depth = 1 then some (written.push ']', rest)
    else classText? flags fuel (depth - 1) (written.push ']') rest
  | fuel + 1, depth, written, c :: rest => classText? flags fuel depth (written.push c) rest

def class? (p : Place) : Option (Extended × Place) := do
  let (written, rest) := match p.rest with
    | '^' :: rest => ("[^", rest)
    | rest => ("[", rest)
  let (written, rest) := match rest with
    | ']' :: rest => (written.push ']', rest)
    | rest => (written, rest)
  let (written, rest) ← classText? p.flags (rest.length + 1) 1 written rest
  return (.oneOf written p.flags.ignoreCase, p.withRest rest)

end ChannelGateway.Regex.Extended
