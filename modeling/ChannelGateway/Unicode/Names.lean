import ChannelGateway.Unicode.Age
import ChannelGateway.Unicode.Property
import ChannelGateway.Unicode.Script
/-!
# Names of properties

The characters that the name of a property denotes, or a property and one of its values.  Names are
compared loosely: without regard to case, blanks, hyphens, underscores and a leading `is`.
-/

namespace ChannelGateway.Unicode

/-- The form of a name that is compared.  What is not ASCII is left out; the abbreviation of the ISO
comment keeps the `is` that belongs to it. -/
def looseName (name : String) : String :=
  let chars := name.toList
  let hasIs := (chars.take 2).map Char.toLower = ['i', 's']
  let kept := (if hasIs then chars.drop 2 else chars).filter fun c =>
    c.toNat < 128 && c ≠ ' ' && c ≠ '_' && c ≠ '-'
  let loose := String.ofList (kept.map Char.toLower)
  if hasIs && loose = "c" then "isc" else loose

def categoryNamed? (name : String) : Option CharSet :=
  match name with
  | "any" => some .all
  | "assigned" => some (Category.chars .unassigned).complement
  | "ascii" => some (.range 0 0x7F)
  | _ => (categories? name).map Category.charsOf
where
  /-- The categories of a loose name. -/
  categories? (name : String) : Option (List Category) :=
    match name with
    | "lu" | "uppercaseletter" => some [.uppercaseLetter]
    | "ll" | "lowercaseletter" => some [.lowercaseLetter]
    | "lt" | "titlecaseletter" => some [.titlecaseLetter]
    | "lc" | "casedletter" => some Category.casedLetters
    | "lm" | "modifierletter" => some [.modifierLetter]
    | "lo" | "otherletter" => some [.otherLetter]
    | "l" | "letter" => some Category.letters
    | "mn" | "nonspacingmark" => some [.nonspacingMark]
    | "mc" | "spacingmark" => some [.spacingMark]
    | "me" | "enclosingmark" => some [.enclosingMark]
    | "m" | "mark" | "combiningmark" => some Category.marks
    | "nd" | "decimalnumber" | "digit" => some [.decimalNumber]
    | "nl" | "letternumber" => some [.letterNumber]
    | "no" | "othernumber" => some [.otherNumber]
    | "n" | "number" => some Category.numbers
    | "pc" | "connectorpunctuation" => some [.connectorPunctuation]
    | "pd" | "dashpunctuation" => some [.dashPunctuation]
    | "ps" | "openpunctuation" => some [.openPunctuation]
    | "pe" | "closepunctuation" => some [.closePunctuation]
    | "pi" | "initialpunctuation" => some [.initialPunctuation]
    | "pf" | "finalpunctuation" => some [.finalPunctuation]
    | "po" | "otherpunctuation" => some [.otherPunctuation]
    | "p" | "punctuation" | "punct" => some Category.punctuation
    | "sm" | "mathsymbol" => some [.mathSymbol]
    | "sc" | "currencysymbol" => some [.currencySymbol]
    | "sk" | "modifiersymbol" => some [.modifierSymbol]
    | "so" | "othersymbol" => some [.otherSymbol]
    | "s" | "symbol" => some Category.symbols
    | "zs" | "spaceseparator" => some [.spaceSeparator]
    | "zl" | "lineseparator" => some [.lineSeparator]
    | "zp" | "paragraphseparator" => some [.paragraphSeparator]
    | "z" | "separator" => some Category.separators
    | "cc" | "control" | "cntrl" => some [.control]
    | "cf" | "format" => some [.format]
    | "co" | "privateuse" => some [.privateUse]
    | "cn" | "unassigned" => some [.unassigned]
    | "c" | "other" => some Category.others
    | _ => none

def scriptNamed? (name : String) : Option Script := scripts.find? fun s => s.names.contains name

def binaryNamed? (name : String) : Option CharSet :=
  let listed := ListedProperty.names.find? fun (_, names) => names.contains name
  let derived := DerivedProperty.names.find? fun (_, names) => names.contains name
  (listed.map fun (property, _) => property.chars).or
    (derived.map fun (property, _) => property.chars)

def charsNamed? (name : String) : Option CharSet :=
  let loose := looseName name
  (binaryNamed? loose).or ((categoryNamed? loose).or ((scriptNamed? loose).map Script.chars))

def charsWithValue? (property value : String) : Option CharSet :=
  let loose := looseName value
  match looseName property with
  | "gc" | "generalcategory" => categoryNamed? loose
  | "sc" | "script" => (scriptNamed? loose).map Script.chars
  | "scx" | "scriptextensions" => (scriptNamed? loose).map Script.extendedChars
  | "age" => ages.findSome? fun (version, _) =>
      if loose = version || loose = "v" ++ version.replace "." "" then assignedBy? version else none
  | _ => none

end ChannelGateway.Unicode
