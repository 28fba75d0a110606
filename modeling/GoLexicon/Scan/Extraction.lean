import GoLexicon.FileSystem.Reading
import GoLexicon.Syntax.Harvest
/-!
# The names of a file

An extractor gives the exported names of the file that a path leads to: the file is read, its
content is parsed, and the tree is harvested. In messages the path stands for the file.
-/

namespace GoLexicon

/-- A way to get the exported names of files. -/
abbrev Extractor := Path → Except Failure (List Text)

/-- The extractor that reads with a reader and parses with a parser. -/
def Extractor.of (read : FileReader) (parse : Bytes → Syntax.Node) : Extractor := fun path => do
  let source ← read path
  (parse source).exportedNames path.toText

end GoLexicon
