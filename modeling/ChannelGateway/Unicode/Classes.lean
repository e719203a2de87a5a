import ChannelGateway.Unicode.Property
/-!
# Classes of characters

The classes that texts are read by.
-/

namespace ChannelGateway.Unicode

/-- The letters of every script and the marks that spell with them. -/
def alphabetic : CharSet := DerivedProperty.chars .alphabetic

def numeric : CharSet := Category.charsOf Category.numbers

def whiteSpace : CharSet := ListedProperty.chars .whiteSpace

def digits : CharSet := Category.chars .decimalNumber

/-- The characters of words: letters, marks, decimal digits, connectors and joiners. -/
def wordChars : CharSet :=
  .unions [alphabetic, Category.charsOf Category.marks, digits,
    Category.chars .connectorPunctuation, ListedProperty.chars .joinControl]

/-- What cannot be seen or told apart on its own: the marks that extend the character before them,
separators but for the space, controls and what is no character. -/
def unprintable : CharSet :=
  .difference
    (.unions [DerivedProperty.chars .graphemeExtend, Category.charsOf Category.separators,
      Category.charsOf Category.others, Category.surrogates])
    (.single ' ')

def isAlphabetic (c : Char) : Bool := if c.toNat < 128 then c.isAlpha else alphabetic.holds c

def isAlphanumeric (c : Char) : Bool :=
  if c.toNat < 128 then c.isAlphanum else alphabetic.holds c || numeric.holds c

def isWhiteSpace (c : Char) : Bool := whiteSpace.holds c

def isWordChar (c : Char) : Bool :=
  if c.toNat < 128 then c.isAlphanum || c = '_' else wordChars.holds c

def isPrintable (c : Char) : Bool := !unprintable.holds c

end ChannelGateway.Unicode
