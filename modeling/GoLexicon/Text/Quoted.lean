import GoLexicon.Text.Printable
/-!
# Quoted text

How a text is shown inside a message: between quotes, on one line, every code point that cannot be
seen written by its number. The quotes are single, or double if the text holds single ones only.
-/

namespace GoLexicon

namespace CodePoint

/-- A code point as it stands between two `quote`s. -/
def quotedBy (quote c : CodePoint) : Text :=
  if c = quote || c = '\\' then ['\\', c]
  else if c = '\n' then "\\n"
  else if c = '\r' then "\\r"
  else if c = '\t' then "\\t"
  else if c.isPrintable then [c]
  else if c.val < 0x100 then "\\x" ++ Text.hex 2 c.val
  else if c.val < 0x10000 then "\\u" ++ Text.hex 4 c.val
  else "\\U" ++ Text.hex 8 c.val

end CodePoint

namespace Text

/-- The quote that a text is shown in. -/
def quoteMark (t : Text) : CodePoint :=
  if t.contains (CodePoint.ofChar '\'') && !t.contains (CodePoint.ofChar '"') then '"' else '\''

/-- A text between quotes. -/
def quoted (t : Text) : Text :=
  [t.quoteMark] ++ t.flatMap (CodePoint.quotedBy t.quoteMark) ++ [t.quoteMark]

end Text

end GoLexicon
