import GoLexicon.Text.Basic
/-!
# Lines and blanks

Which code points are blank, which of them end a line, and how a text is cut into lines and freed
of the blanks around it. A carriage return with a line feed behind it ends one line.
-/

namespace GoLexicon

namespace CodePoint

/-- Does a line end at this code point? -/
def endsLine (c : CodePoint) : Bool :=
  (0x0A ≤ c.val && c.val ≤ 0x0D) || (0x1C ≤ c.val && c.val ≤ 0x1E) || c.val = 0x85
    || c.val = 0x2028 || c.val = 0x2029

/-- A blank: the characters that end a line, and those that separate words. -/
def isBlank (c : CodePoint) : Bool :=
  c.endsLine || c.val = 0x09 || c.val = 0x1F || c.val = 0x20 || c.val = 0xA0 || c.val = 0x1680
    || (0x2000 ≤ c.val && c.val ≤ 0x200A) || c.val = 0x202F || c.val = 0x205F || c.val = 0x3000

end CodePoint

namespace Text

/-- A text with a line feed for each line end of one or two characters among `\r` and `\r\n`. -/
def unifyNewlines : Text → Text
  | [] => []
  | c :: rest =>
    if c = '\r' then
      match rest with
      | [] => [CodePoint.ofChar '\n']
      | d :: rest' =>
        if d = '\n' then CodePoint.ofChar '\n' :: unifyNewlines rest'
        else CodePoint.ofChar '\n' :: unifyNewlines (d :: rest')
    else c :: unifyNewlines rest

/-- The lines of a text, without their ends; `line` is what is read of the first, backwards, or
nothing where no line has begun. -/
def linesFrom : Option Text → Text → List Text
  | none, [] => []
  | some line, [] => [line.reverse]
  | line, c :: rest =>
    if c = '\r' then
      match rest with
      | [] => [(line.getD []).reverse]
      | d :: rest' =>
        if d = '\n' then (line.getD []).reverse :: linesFrom none rest'
        else (line.getD []).reverse :: linesFrom none (d :: rest')
    else if c.endsLine then (line.getD []).reverse :: linesFrom none rest
    else linesFrom (some (c :: line.getD [])) rest

/-- The lines of a text, without their ends. What stands behind the last end is a line if it is not
empty. -/
def lines (t : Text) : List Text := linesFrom none t

/-- A text without the blanks in front. -/
def trimStart (t : Text) : Text := t.dropWhile (·.isBlank)

/-- A text without the blanks around it. -/
def trim (t : Text) : Text := (t.trimStart.reverse.dropWhile (·.isBlank)).reverse

end Text

end GoLexicon
