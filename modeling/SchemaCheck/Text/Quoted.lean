import SchemaCheck.Text.Category
import SchemaCheck.Text.Property

/-!
# Quoted text

`Text.quoted` puts a text between double quotes so that each of its characters can be told from the
result: quotes and backslashes are escaped, and so is every character that a reader could not see
standing by itself.
-/

namespace SchemaCheck.Text

/-- Controls, formats, unassigned and private code points, separators, and the marks that attach to
the character before them. -/
def invisible : CharSet :=
  CharSet.unions
    (propertyTable.get "graphemeextend" ::
      ["cc", "cf", "cn", "co", "zl", "zp", "zs"].map categoryTable.get)

def quotedChar (c : Char) : String :=
  match c with
  | '"' => "\\\""
  | '\\' => "\\\\"
  | '\n' => "\\n"
  | '\r' => "\\r"
  | '\t' => "\\t"
  | '\x00' => "\\0"
  | c =>
    if c == ' ' || !invisible.contains c then c.toString
    else "\\u\x7b" ++ String.ofList (Nat.toDigits 16 c.toNat) ++ "\x7d"

/-- The text between double quotes, with its special characters escaped. -/
def quoted (text : String) : String :=
  "\"" ++ String.join (text.toList.map quotedChar) ++ "\""

end SchemaCheck.Text
