import GoLexicon.Console.Printed
import GoLexicon.Scan.Event
/-!
# The trace of a scan as text

Some events are noted in debug output: an import path is passed over, a package is about to be
scanned, a new word is about to be added. Import paths and words are shown with quotes.
-/

namespace GoLexicon

/-- The words for an event, if it is noted. -/
def Event.note? : Event → Option Text
  | skipped importPath => some ("skipping internal package " ++ importPath.quoted)
  | processing importPath => some ("processing package " ++ importPath.shown)
  | adding word => some ("adding " ++ word.quoted)
  | _ => none

/-- The debug output for some events. -/
def Console.debugTrace (on : Bool) (events : List Event) : Text :=
  (events.filterMap Event.note?).flatMap (Console.debugLine on)

end GoLexicon
