/-!
# Host names

A host name is made of labels with points between them.
-/

namespace ChannelGateway.HostName

def labelLimit : Nat := 63

def nameLimit : Nat := 253

def isLabelChar (c : Char) : Bool := c.isAlphanum || c = '-'

def isPlainLabel (label : List Char) : Bool :=
  !label.isEmpty && label.length ≤ labelLimit && label.all isLabelChar &&
    label.head? != some '-' && label.getLast? != some '-'

def isPlain (text : List Char) : Bool :=
  text.length ≤ nameLimit && (text.splitOn '.').all isPlainLabel

end ChannelGateway.HostName
