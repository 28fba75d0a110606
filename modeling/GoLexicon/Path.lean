import GoLexicon.Text.Basic
/-!
# Paths

A path is where it begins and the names on the way. Empty names and names that are a single dot do
not count, `..` does. A path of more than two leading slashes begins at the root, one of exactly two
keeps them, as some systems give them a meaning of their own.
-/

namespace GoLexicon

/-- Where a path begins. -/
inductive Path.Anchor where
  /-- At the current directory. -/
  | here
  | root
  /-- At the root that two slashes name. -/
  | doubleRoot
  deriving DecidableEq

/-- Can a text be a name on the way? -/
def Path.IsName (t : Text) : Prop := t ≠ [] ∧ t ≠ "." ∧ CodePoint.ofChar '/' ∉ t

instance (t : Text) : Decidable (Path.IsName t) := inferInstanceAs (Decidable (_ ∧ _ ∧ _))

/-- A path. -/
structure Path where
  anchor : Path.Anchor
  names : List Text
  isName : ∀ name ∈ names, Path.IsName name := by simp
  deriving DecidableEq

namespace Path

/-- The name of the directory above. -/
def up : Text := ".."

/-- The names among some texts. -/
def namesAmong (ts : List Text) : List Text := ts.filter fun t => IsName t

theorem isName_of_mem_namesAmong {ts : List Text} {t : Text} (h : t ∈ namesAmong ts) :
    IsName t := by
  simpa [namesAmong] using (List.mem_filter.1 h).2

/-- Where a path that is written so begins. -/
def anchorOf (t : Text) : Anchor :=
  match (t.takeWhile (· = CodePoint.ofChar '/')).length with
  | 0 => .here
  | 2 => .doubleRoot
  | _ => .root

/-- The path that a text writes. -/
def parse (t : Text) : Path where
  anchor := anchorOf t
  names := namesAmong (t.splitAt '/')
  isName _ h := isName_of_mem_namesAmong h

instance : Coe Text Path := ⟨parse⟩

/-- The slashes of an anchor. -/
def Anchor.toText : Anchor → Text
  | here => []
  | root => "/"
  | doubleRoot => "//"

/-- A path as text. The path of no name is a dot where it begins at the current directory. -/
def toText (p : Path) : Text :=
  match p.anchor, p.names with
  | .here, [] => "."
  | anchor, names => anchor.toText ++ Text.joined "/" names

/-- A path that goes on from another one, or begins anew if it does not begin at the current
directory. -/
def join (p q : Path) : Path :=
  match q.anchor with
  | .here => ⟨p.anchor, p.names ++ q.names, fun name h =>
      (List.mem_append.1 h).elim (p.isName name) (q.isName name)⟩
  | _ => q

/-- A path without its last name. -/
def parent (p : Path) : Path where
  anchor := p.anchor
  names := p.names.dropLast
  isName name h := p.isName name (List.dropLast_subset _ h)

/-- The last name of a path. -/
def lastName (p : Path) : Text := p.names.getLastD []

/-- One more name behind names that have been settled: `..` takes away the one in front of it. -/
def settleStep (done : List Text) (name : Text) : List Text :=
  if name = up then done.dropLast else done ++ [name]

/-- The names that are left when each `..` takes away the name in front of it. -/
def settle (names : List Text) : List Text := names.foldl settleStep []

theorem mem_of_mem_settle {names : List Text} {name : Text} (h : name ∈ settle names) :
    name ∈ names := by
  have grow : ∀ (rest done : List Text),
      name ∈ rest.foldl settleStep done → name ∈ done ++ rest := by
    intro rest
    induction rest with
    | nil => intro done h; simpa using h
    | cons next rest ih =>
      intro done h
      rcases List.mem_append.1 (ih _ h) with h | h
      · unfold settleStep at h
        split at h
        · exact List.mem_append_left _ (List.dropLast_subset _ h)
        · rcases List.mem_append.1 h with h | h <;> simp_all
      · simp [h]
  simpa using grow names [] h

/-- The path that a path means from a directory, with every `..` settled. -/
def absolute (directory p : Path) : Path where
  anchor := (directory.join p).anchor
  names := settle (directory.join p).names
  isName name h := (directory.join p).isName name (mem_of_mem_settle h)

end Path

end GoLexicon
