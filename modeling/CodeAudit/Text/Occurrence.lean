/-!
This module contains the search for one text in another.
-/

namespace CodeAudit.Text

/--
Whether one text stands somewhere in another.
-/
def occursIn (part : List Char) : List Char → Bool
  | [] => part.isEmpty
  | c :: rest => part.isPrefixOf (c :: rest) || occursIn part rest

end CodeAudit.Text
