import ChannelGateway.HostName.Plain
import ChannelGateway.HostName.Substitution
import ChannelGateway.Text.Punycode
import ChannelGateway.Unicode.Composition
import ChannelGateway.Unicode.Direction
import ChannelGateway.Unicode.Joining
/-!
# Host names of every script

A host name of any script has a shown form, in that script, and a written form in ASCII.
Either may be given; the name is good if every label of the shown form is, and the written form
is short enough.
-/

namespace ChannelGateway.HostName

structure Label where
  shown : List Char
  written : List Char
deriving DecidableEq, Repr

def codedStart : List Char := "xn--".toList

def hasFitHyphens (label : List Char) : Bool :=
  label.head? != some '-' && label.getLast? != some '-' && (label.drop 2).take 2 != ['-', '-']

def marks : CharSet := Unicode.Category.charsOf Unicode.Category.marks

/-- Whether a text can be the shown form of a label: it is in its final form, and everything in it
can be told apart. -/
def isFitLabel (label : List Char) : Bool :=
  !label.isEmpty && hasFitHyphens label && !label.head?.any marks.holds &&
    label.all (fun c => if c.toNat < 128 then isLabelChar c else isSettled c) &&
    Unicode.normalize label = label && Unicode.hasFitJoiners [] label

/-- The label with a shown form, if that is fit. -/
def Label.ofShown? (shown : List Char) : Option Label :=
  if !isFitLabel shown then none
  else if shown.all (·.toNat < 128) then some ⟨shown, shown⟩
  else some ⟨shown, codedStart ++ Punycode.encode shown⟩

def Label.ofCode? (code : List Char) : Option Label :=
  match Punycode.decode? code with
  | some shown =>
    if isFitLabel shown && shown.any (128 ≤ ·.toNat) then some ⟨shown, codedStart ++ code⟩ else none
  | none => none

def Label.read? (text : List Char) : Option Label :=
  if labelLimit < text.length then none
  else
    ((match codedStart.isPrefixOf? text with
      | some code => Label.ofCode? code
      | none => Label.ofShown? text)).filter fun label => label.written.length ≤ labelLimit

def labels? (text : List Char) : Option (List Label) :=
  match text.mapM substitute? with
  | some parts => ((Unicode.normalize parts.flatten).splitOn '.').mapM Label.read?
  | none => none

def isBetween (ranges : List (Nat × Nat)) (c : Char) : Bool :=
  ranges.any fun (low, high) => low ≤ c.toNat && c.toNat ≤ high

def isGreek : Char → Bool := isBetween [(0x370, 0x3FF), (0x1F00, 0x1FFF)]

def isHebrew : Char → Bool := isBetween [(0x590, 0x5FF)]

def isJapanese : Char → Bool := isBetween [(0x3040, 0x30FF), (0x4E00, 0x9FFF)]

/-- Whether a sign stands where its script uses it, given its neighbours: a middle point between two
letters `l`, a numeral sign before Greek letters, and signs of abbreviation after Hebrew ones. -/
def fitsBetween (before after : Option Char) (c : Char) : Bool :=
  match c with
  | '\u00b7' => before = some 'l' && after = some 'l'
  | '\u0375' => after.any isGreek
  | '\u05f3' | '\u05f4' => before.any isHebrew
  | _ => true

def hasFitNeighbours (before : Option Char) : List Char → Bool
  | [] => true
  | c :: rest => fitsBetween before rest.head? c && hasFitNeighbours (some c) rest

def japanesePoint : Char := '\u30fb'

def hasFitSigns (text : List Char) : Bool :=
  hasFitNeighbours none text &&
    (!text.contains japanesePoint || text.any fun c => c != japanesePoint && isJapanese c) &&
    !(text.any (isBetween [(0x660, 0x669)]) && text.any (isBetween [(0x6F0, 0x6F9)]))

/-- Whether labels can be read beside each other: all are readable if one turns the direction. -/
def haveFitDirections (labels : List Label) : Bool :=
  !labels.any (·.shown.any fun c => (Unicode.Direction.ofChar c).turns) ||
    labels.all (Unicode.isReadable ·.shown)

def isInternational (text : List Char) : Bool :=
  match labels? text with
  | some labels =>
    (List.intercalate ['.'] (labels.map Label.written)).length ≤ nameLimit &&
      haveFitDirections labels && hasFitSigns (List.intercalate ['.'] (labels.map Label.shown))
  | none => false

end ChannelGateway.HostName
