import SchemaCheck.Text.Property

/-!
# Blank text

White space in the sense of the character set, which goes far beyond the space and the controls.
-/

namespace SchemaCheck.Text

/-- The characters that count as white space. -/
def blanks : CharSet := propertyTable.get "whitespace"

def isBlank (c : Char) : Bool := blanks.contains c

end SchemaCheck.Text
