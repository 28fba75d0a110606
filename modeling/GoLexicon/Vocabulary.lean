import GoLexicon.Go.Token
import GoLexicon.Word.Mode
/-!
# The vocabulary of the language

The words that every list begins with: the reserved words of Go, the names that the language
declares itself, and words that stand beside library code without being declared by it (values of
struct tags, names of systems and architectures, release tags).
-/

namespace GoLexicon.Vocabulary

/-- The reserved words. -/
def keywords : List Text := Go.Keyword.all.map (·.spelling)

/-- The names that the language declares itself. -/
def builtins : List Text := ([
  "true", "false", "iota", "nil",
  "append", "cap", "clear", "close", "complex", "copy", "delete", "imag",
  "len", "make", "max", "min", "new", "panic", "print", "println", "real",
  "recover",
  "any", "bool", "byte", "comparable", "complex128", "complex64", "error",
  "float32", "float64",
  "int", "int16", "int32", "int64", "int8",
  "rune", "string",
  "uint", "uint16", "uint32", "uint64", "uint8", "uintptr"] : List String).map Text.ofString

/-- Words that stand beside library code. -/
def extraWords : List Text := ([
  "omitempty", "inline",
  "aix", "android", "darwin", "dragonfly", "freebsd", "illumos", "ios",
  "js", "linux", "netbsd", "openbsd", "plan9", "solaris", "wasip1",
  "windows",
  "amd64", "arm64", "loong64", "mips", "mipsle", "mips64", "mips64le",
  "ppc64", "ppc64le", "riscv64", "s390x", "wasm",
  "go1", "cgo", "gccgo", "gc"] : List String).map Text.ofString

/-- The tokens that every list begins with, with further ones behind them. -/
def tokens (further : List Text) : List Text := keywords ++ builtins ++ extraWords ++ further

end GoLexicon.Vocabulary
