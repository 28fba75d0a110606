import GoLexicon.Proofs.Scan.Providers
/-!
# Step by step through a catalog

An enumeration asks for nothing before it has to. The first step asks for the list, and from then on
each step asks for the package of one import path that is not internal, in the order of the list,
and gives it (`Enumeration.Follows`). What is asked for comes to its end with the list, or with the
first answer that is a failure (`IsCourse`). The step that meets a failure fails with it, and every
later step gives nothing and asks for nothing.

All of this is said of any number of steps, and of any guide, whose answers may depend on everything
that happened before (`Enumeration.goes_step_by_step`).
-/

namespace GoLexicon

/-- What is given for some import paths one after the other, up to the first that is refused. -/
inductive IsCourse : List Text → List (Except Failure Package) → Prop where
  | nil : IsCourse [] []
  | refused (importPath : Text) (later : List Text) (f : Failure) :
      IsCourse (importPath :: later) [.error f]
  | given (importPath : Text) (p : Package) {later : List Text}
      {course : List (Except Failure Package)} (h : IsCourse later course) :
      IsCourse (importPath :: later) (.ok p :: course)

namespace Enumeration

/-- The record behind some steps of an enumeration. -/
def recordAfter (guide : Guide) : Nat → Enumeration → Record → Record
  | 0, _, r => r
  | n + 1, e, r =>
    let ((_, e), r) := next guide e r
    recordAfter guide n e r

/-- In some steps an enumeration gives what a course gives, one answer to a step, and then nothing;
and it asks for the import paths of these answers, and for nothing else. -/
structure Follows (guide : Guide) (e : Enumeration) (r : Record) (importPaths : List Text)
    (course : List (Except Failure Package)) (n : Nat) : Prop where
  answers : answers guide n e r =
    (course.take n).map (Except.map some) ++ List.replicate (n - course.length) (.ok none)
  dialogue : guide.dialogue (recordAfter guide n e r).events =
    guide.dialogue r.events ++ List.zipWith .resolving importPaths (course.take n)

variable {guide : Guide} {e e' : Enumeration} {r r' : Record} {importPaths : List Text}
  {course : List (Except Failure Package)}

theorem recordAfter_succ {n : Nat} {answer : Except Failure (Option Package)}
    (h : next guide e r = ((answer, e'), r')) :
    recordAfter guide (n + 1) e r = recordAfter guide n e' r' := by
  rw [recordAfter, h]

theorem recordAfter_congr {n : Nat} (h : next guide e r = next guide e' r') :
    recordAfter guide (n + 1) e r = recordAfter guide (n + 1) e' r' := by
  rw [recordAfter, recordAfter, h]

/-- Behind its end an enumeration asks for nothing. -/
theorem recordAfter_done (n : Nat) (r : Record) : recordAfter guide n .done r = r := by
  induction n with
  | zero => rfl
  | succ n ih => rw [recordAfter_succ (n := n) rfl, ih]

namespace Follows

theorem zero : Follows guide e r importPaths course 0 where
  answers := by simp [Enumeration.answers]
  dialogue := by simp [recordAfter]

/-- A step behind which nothing is given any more. -/
theorem last {n : Nat} (h : next guide e r = ((.ok none, .done), r'))
    (silent : guide.dialogue r'.events = guide.dialogue r.events) :
    Follows guide e r [] [] n := by
  cases n with
  | zero => exact zero
  | succ n =>
    constructor
    · rw [answers_succ h, answers_done]
      rfl
    · rw [recordAfter_succ h, recordAfter_done, silent]
      simp

/-- A step that fails is the last one that gives or asks for anything. -/
theorem refused {n : Nat} {importPath : Text} {f : Failure}
    (h : next guide e r = ((.error f, .done), r'))
    (asked : guide.dialogue r'.events =
      guide.dialogue r.events ++ [.resolving importPath (.error f)]) (later : List Text) :
    Follows guide e r (importPath :: later) [.error f] n := by
  cases n with
  | zero => exact zero
  | succ n =>
    constructor
    · rw [answers_succ h, answers_done]
      simp [Except.map]
    · rw [recordAfter_succ h, recordAfter_done, asked]
      simp

/-- A step that gives a package, and the steps behind it. -/
theorem given {importPath : Text} {p : Package} {later : List Text}
    (h : next guide e r = ((.ok (some p), e'), r'))
    (asked : guide.dialogue r'.events =
      guide.dialogue r.events ++ [.resolving importPath (.ok p)])
    (follows : ∀ n, Follows guide e' r' later course n) (n : Nat) :
    Follows guide e r (importPath :: later) (.ok p :: course) n := by
  cases n with
  | zero => exact zero
  | succ n =>
    constructor
    · rw [answers_succ h, (follows n).answers]
      simp [Except.map]
    · rw [recordAfter_succ h, (follows n).dialogue, asked]
      simp

end Follows

variable (guide) in
/-- From its stops on, an enumeration follows one course, however many steps it makes. -/
theorem exists_course (stops : List Stop) (rest : List Text) (r : Record) :
    ∃ course, IsCourse (stops.map (·.importPath)) course ∧
      ∀ n, Follows guide (.underway ⟨stops, rest⟩) r (stops.map (·.importPath)) course n := by
  induction stops generalizing r with
  | nil =>
    obtain ⟨r', step, silent⟩ := exists_next_end guide rest r
    exact ⟨[], .nil, fun n => .last step silent⟩
  | cons s stops ih =>
    obtain ⟨before, r', asked, given, refused⟩ := exists_next_stop guide s stops rest r
    cases answer : guide.resolve before s.importPath with
    | error f =>
      rw [answer] at asked
      exact ⟨[.error f], .refused _ _ f, fun n => .refused (refused f answer) asked _⟩
    | ok p =>
      rw [answer] at asked
      obtain ⟨course, isCourse, follows⟩ := ih r'
      exact ⟨.ok p :: course, .given _ p isCourse, .given (given p answer) asked follows⟩

/-- **An enumeration goes step by step.** Where no step has been made, nothing has been asked for.
The first step asks for the list, once; if this is refused, the step fails, and it is all that is
ever asked for. Otherwise there is one course through the import paths that are not internal, and
any number of steps asks for as many of its paths, from the first on, and gives the answers; behind
the end of the course, or its failure, steps give nothing and ask for nothing. -/
theorem goes_step_by_step (guide : Guide) (r : Record) :
    recordAfter guide 0 .fresh r = r ∧
    match guide.list r.events with
    | .error f => ∀ n,
      answers guide (n + 1) .fresh r = .error f :: List.replicate n (.ok none) ∧
      guide.dialogue (recordAfter guide (n + 1) .fresh r).events =
        guide.dialogue r.events ++ [.listing (.error f)]
    | .ok importPaths => ∃ course, IsCourse (publicPaths importPaths) course ∧ ∀ n,
      answers guide (n + 1) .fresh r = (course.take (n + 1)).map (Except.map some) ++
        List.replicate (n + 1 - course.length) (.ok none) ∧
      guide.dialogue (recordAfter guide (n + 1) .fresh r).events =
        guide.dialogue r.events ++ .listing (.ok importPaths) ::
          List.zipWith .resolving (publicPaths importPaths) (course.take (n + 1)) := by
  refine ⟨rfl, ?_⟩
  have asked : guide.dialogue (.listed :: r.events) =
      guide.dialogue r.events ++ [.listing (guide.list r.events)] :=
    Guide.dialogue_cons_of_some rfl
  split
  · next f refused =>
    rw [refused] at asked
    have step := next_fresh_of_error refused
    intro n
    rw [answers_succ step, answers_done, recordAfter_succ step, recordAfter_done]
    exact ⟨rfl, asked⟩
  · next importPaths listed =>
    rw [listed] at asked
    have step := next_fresh listed
    obtain ⟨course, isCourse, follows⟩ := exists_course guide
      (Itinerary.ofList importPaths).stops (Itinerary.ofList importPaths).rest
      { r with events := .listed :: r.events }
    rw [Scan.importPath_stops_ofList] at isCourse follows
    refine ⟨course, isCourse, fun n => ?_⟩
    rw [answers_congr step, recordAfter_congr step, (follows (n + 1)).dialogue, asked]
    refine ⟨(follows (n + 1)).answers, ?_⟩
    rw [List.append_assoc, List.singleton_append]

end Enumeration

end GoLexicon
