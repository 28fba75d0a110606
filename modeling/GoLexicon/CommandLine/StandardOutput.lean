import GoLexicon.Fault
/-!
# The standard output

What is printed goes through a standard output, and this is given to a program by its environment:
the encoding is, and so is what stands behind it, which may be full, or closed, at any octet. A text
is encoded as a whole before any of it goes out. But what has been taken when the output breaks off
is not given back (`StandardOutput.write`).
-/

namespace GoLexicon.CommandLine

/-- What has become of a text that was to be printed. -/
structure Written where
  /-- The octets that have gone out. -/
  taken : Bytes
  result : Except Fault Unit

/-- A standard output. -/
structure StandardOutput where
  /-- The octets that stand for a text, where there are such. -/
  encode : Text → Except Fault Bytes
  /-- How many of some octets are taken before the output breaks off, and with which fault it does;
  if it does not, it takes all of them. -/
  breaksOff? : Bytes → Option (Nat × Fault)

namespace StandardOutput

/-- Prints a text. -/
def write (s : StandardOutput) (t : Text) : Written :=
  match s.encode t with
  | .error fault => ⟨[], .error fault⟩
  | .ok content =>
    match s.breaksOff? content with
    | some (count, fault) => ⟨content.take count, .error fault⟩
    | none => ⟨content, .ok ()⟩

/-- The standard output that is in UTF-8 and takes everything. -/
def utf8 : StandardOutput where
  encode t := t.encode.mapError .unencodable
  breaksOff? _ := none

end StandardOutput

end GoLexicon.CommandLine
