import QueryConsole.Text.AlphanumericTable

/-!
# Characters of identifiers

Words, keywords and names of variables are made of letters, numbers and underscores.
-/

namespace QueryConsole.Text

def isAlphanumeric (c : Char) : Bool := CodeRange.covers c.toNat alphanumericRanges

/-- Whether a character can stand in an identifier. -/
def isIdentifierChar (c : Char) : Bool := isAlphanumeric c || c == '_'

end QueryConsole.Text
