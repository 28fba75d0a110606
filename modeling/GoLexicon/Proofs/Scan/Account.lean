import GoLexicon.Proofs.Word.Membership
import GoLexicon.Scan.Run
import Mathlib.Data.List.Forall2
/-!
# Accounts of a scan

A part of a scan is known by its account: what it asks and is answered (`Exchange`), what it tells
the display, and the tokens whose words it adds. `Record.Leads` says that one record comes from
another one by way of an account, and accounts of parts that follow each other are put together
(`Record.Leads.trans`).

`Scan.Runs` specifies a part: whatever the record, it ends well with an account of one kind, or
fails with an account of another kind; `Scan.Ends` is for parts that never fail. It has a rule for
each way in which parts are composed: `Runs.bind` for one part behind another one, and `Runs.forM`
for a part that is repeated, which ends where the part first fails.
-/

namespace GoLexicon

/-! ## Questions and answers -/

/-- A question to the guide of a scan, with the answer to it. -/
inductive Exchange where
  | listing (answer : Except Failure (List Text))
  | resolving (importPath : Text) (answer : Except Failure Package)
  | extracting (path : Path) (answer : Except Failure (List Text))

/-- The failure that an answer is, if it is one. -/
def Exchange.failure? : Exchange → Option Failure
  | listing answer => Scan.failure? answer
  | resolving _ answer => Scan.failure? answer
  | extracting _ answer => Scan.failure? answer

namespace Guide

variable (guide : Guide)

/-- The question that an event is, with the answer to it after the events before. -/
def exchange? (before : List Event) : Event → Option Exchange
  | .listed => some (.listing (guide.list before))
  | .resolved importPath => some (.resolving importPath (guide.resolve before importPath))
  | .extracted path => some (.extracting path (guide.extract before path))
  | _ => none

/-- The questions among some events, the latest of which comes first, with their answers in the
order in which they were put. -/
def dialogue : List Event → List Exchange
  | [] => []
  | e :: before => dialogue before ++ (guide.exchange? before e).toList

variable {guide} {e : Event} {before : List Event}

theorem dialogue_cons_of_none (h : guide.exchange? before e = none) :
    guide.dialogue (e :: before) = guide.dialogue before := by
  simp [dialogue, h]

theorem dialogue_cons_of_some {x : Exchange} (h : guide.exchange? before e = some x) :
    guide.dialogue (e :: before) = guide.dialogue before ++ [x] := by
  simp [dialogue, h]

end Guide

/-- The questions and answers of a scan that a guide leads, in order. -/
def Scan.Outcome.dialogue (o : Scan.Outcome) (guide : Guide) : List Exchange :=
  guide.dialogue o.trace.reverse

/-- The end of the display is no question. -/
theorem Scan.Outcome.dialogue_left (guide : Guide) (result : Except Failure WordSet)
    (failure : Option Failure) (events : List Event) :
    (⟨result, (.left failure :: events).reverse⟩ : Scan.Outcome).dialogue guide =
      guide.dialogue events := by
  rw [dialogue, List.reverse_reverse, Guide.dialogue_cons_of_none rfl]

/-- Is an event something that the display is told? -/
def Event.isTold : Event → Bool
  | entered | scanStarted | packageStarted _ | packageFinished _ | scanFinished _ _ | left _ => true
  | _ => false

/-- What the display has been told, in order. -/
def Record.told (r : Record) : List Event := (r.events.filter (·.isTold)).reverse

namespace Package

/-- The name of a package is a text. -/
def IsNamed (p : Package) : Prop := ∃ t : Text, p.name = .text t

/-- The token that the name of a package is, if it is a text. -/
def nameTokens (p : Package) : List Text :=
  match p.name with
  | .text t => [t]
  | _ => []

variable {p : Package}

theorem mem_nameTokens {t : Text} : t ∈ p.nameTokens ↔ p.name = .text t := by
  unfold nameTokens
  split
  · next u hu => simp [hu, eq_comm]
  · next hn => simpa using fun h => hn t h

end Package

/-- The names of all packages that a guide gives are texts. -/
def Guide.IsNamed (guide : Guide) : Prop :=
  ∀ before importPath p, guide.resolve before importPath = .ok p → p.IsNamed

/-! ## Accounts -/

/-- What a part of a scan brings. -/
structure Account where
  /-- The questions and answers. -/
  said : List Exchange
  /-- What the display is told. -/
  told : List Event
  /-- The tokens whose words are added. -/
  tokens : List Text

namespace Account

/-- Nothing. -/
def none : Account := ⟨[], [], []⟩

/-- One account after another one. -/
def andThen (a b : Account) : Account := ⟨a.said ++ b.said, a.told ++ b.told, a.tokens ++ b.tokens⟩

instance : Append Account := ⟨andThen⟩

/-- The accounts of some things, one after the other. -/
def all {δ : Type} (account : δ → Account) (ds : List δ) : Account :=
  ⟨ds.flatMap fun d => (account d).said, ds.flatMap fun d => (account d).told,
    ds.flatMap fun d => (account d).tokens⟩

@[simp] theorem said_append (a b : Account) : (a ++ b).said = a.said ++ b.said := rfl

@[simp] theorem told_append (a b : Account) : (a ++ b).told = a.told ++ b.told := rfl

@[simp] theorem tokens_append (a b : Account) : (a ++ b).tokens = a.tokens ++ b.tokens := rfl

@[simp] theorem mk_append (s s' : List Exchange) (e e' : List Event) (ts ts' : List Text) :
    (⟨s, e, ts⟩ ++ ⟨s', e', ts'⟩ : Account) = ⟨s ++ s', e ++ e', ts ++ ts'⟩ := rfl

@[simp] theorem none_append (a : Account) : none ++ a = a := rfl

@[simp] theorem append_none (a : Account) : a ++ none = a := by
  change Account.mk _ _ _ = a
  simp [none]

theorem append_assoc (a b c : Account) : a ++ b ++ c = a ++ (b ++ c) := by
  change Account.mk _ _ _ = Account.mk _ _ _
  simp

variable {δ : Type} (account : δ → Account)

@[simp] theorem all_nil : all account [] = none := rfl

@[simp] theorem all_cons (d : δ) (ds : List δ) :
    all account (d :: ds) = account d ++ all account ds := rfl

end Account

namespace Record

/-- The display has been told, in the events of an account, of so many finished packages. -/
def finishedIn (told : List Event) : Nat :=
  told.countP fun | .packageFinished _ => true | _ => false

/-- A record comes from another one by way of an account. The words are those of the tokens as long
as the names of all packages are texts. -/
structure Leads (guide : Guide) (mode : Mode) (r r' : Record) (a : Account) : Prop where
  dialogue : guide.dialogue r'.events = guide.dialogue r.events ++ a.said
  told : r'.told = r.told ++ a.told
  finished : r'.finished = r.finished + finishedIn a.told
  words : guide.IsNamed → r'.words = r.words.addAll (mode.wordsOfAll a.tokens)

namespace Leads

variable {guide : Guide} {mode : Mode} {r r' r'' : Record} {a b : Account}

theorem refl (r : Record) : Leads guide mode r r .none := by
  constructor <;> simp [Account.none, finishedIn]

theorem trans (h : Leads guide mode r r' a) (h' : Leads guide mode r' r'' b) :
    Leads guide mode r r'' (a ++ b) where
  dialogue := by rw [h'.dialogue, h.dialogue, Account.said_append, List.append_assoc]
  told := by rw [h'.told, h.told, Account.told_append, List.append_assoc]
  finished := by
    rw [h'.finished, h.finished, Account.told_append, finishedIn, finishedIn, finishedIn,
      List.countP_append, Nat.add_assoc]
  words named := by
    rw [h'.words named, h.words named, Account.tokens_append, Mode.wordsOfAll_append,
      WordSet.addAll_append]

end Leads

end Record

namespace Scan

variable {α β : Type}

/-! ## Performing parts one after the other -/

theorem perform_bind_ok {part : Scan α} {next : α → Scan β} {r r' : Record} {x : α}
    (h : part.perform r = (.ok x, r')) : (part >>= next).perform r = (next x).perform r' := by
  change (part r : Except Failure α × Record) = (.ok x, r') at h
  change (ExceptT.bindCont next (part r).1) (part r).2 = _
  rw [h]
  rfl

theorem perform_bind_error {part : Scan α} {next : α → Scan β} {r r' : Record} {f : Failure}
    (h : part.perform r = (.error f, r')) : (part >>= next).perform r = (.error f, r') := by
  change (part r : Except Failure α × Record) = (.error f, r') at h
  change (ExceptT.bindCont next (part r).1) (part r).2 = _
  rw [h]
  rfl

/-- A part behind another one is done if both are. -/
theorem exists_of_perform_bind {part : Scan α} {next : α → Scan β} {r r'' : Record} {y : β}
    (h : (part >>= next).perform r = (.ok y, r'')) :
    ∃ x r', part.perform r = (.ok x, r') ∧ (next x).perform r' = (.ok y, r'') := by
  cases hpart : part.perform r with
  | mk result r' =>
    cases result with
    | error f =>
      rw [perform_bind_error hpart] at h
      cases h
    | ok x => exact ⟨x, r', rfl, (perform_bind_ok hpart).symm.trans h⟩

theorem perform_get_bind (next : Record → Scan α) (r : Record) :
    (get >>= next).perform r = (next r).perform r := rfl

theorem perform_happens (e : Event) (r : Record) :
    (happens e).perform r = (.ok (), { r with events := e :: r.events }) := rfl

theorem perform_ask (question : Event) (answer : List Event → Except Failure α) (r : Record) :
    (ask question answer).perform r =
      (answer r.events, { r with events := question :: r.events }) := by
  rw [ask, perform_get_bind, perform_bind_ok (perform_happens question r)]
  cases answer r.events <;> rfl

/-! ## Specifications of parts -/

/-- Whatever the record, a part of a scan ends well with a value and an account as `Done` says, or
it fails as `Failed` says. -/
def Runs (guide : Guide) (mode : Mode) (part : Scan α) (Done : α → Account → Prop)
    (Failed : Failure → Account → Prop) : Prop :=
  ∀ r : Record, ∃ (r' : Record) (a : Account), r.Leads guide mode r' a ∧
    ((∃ x, part.perform r = (.ok x, r') ∧ Done x a) ∨
      ∃ f, part.perform r = (.error f, r') ∧ Failed f a)

namespace Runs

variable {guide : Guide} {mode : Mode} {part : Scan α} {next : α → Scan β}
  {Done Done' : α → Account → Prop} {Failed Failed' : Failure → Account → Prop}

theorem mono (h : Runs guide mode part Done Failed) (done : ∀ x a, Done x a → Done' x a)
    (failed : ∀ f a, Failed f a → Failed' f a) : Runs guide mode part Done' Failed' := by
  intro r
  obtain ⟨r', a, hl, ⟨x, hp, hd⟩ | ⟨f, hp, hf⟩⟩ := h r
  · exact ⟨r', a, hl, .inl ⟨x, hp, done x a hd⟩⟩
  · exact ⟨r', a, hl, .inr ⟨f, hp, failed f a hf⟩⟩

/-- One part behind another one. -/
theorem bind {Done' : β → Account → Prop} (h : Runs guide mode part Done Failed)
    (hnext : ∀ x a, Done x a →
      Runs guide mode (next x) (fun y b => Done' y (a ++ b)) fun f b => Failed' f (a ++ b))
    (hfailed : ∀ f a, Failed f a → Failed' f a) :
    Runs guide mode (part >>= next) Done' Failed' := by
  intro r
  obtain ⟨r', a, hl, ⟨x, hp, hd⟩ | ⟨f, hp, hf⟩⟩ := h r
  · obtain ⟨r'', b, hl', h'⟩ := hnext x a hd r'
    refine ⟨r'', a ++ b, hl.trans hl', ?_⟩
    rw [perform_bind_ok hp]
    exact h'
  · exact ⟨r', a, hl, .inr ⟨f, perform_bind_error hp, hfailed f a hf⟩⟩

/-- A part that is repeated for the items of a list: it is done for all of them, or for those in
front of the one where it fails. -/
theorem forM {ι δ : Type} {body : ι → Scan Unit} {Each : ι → δ → Prop} {account : δ → Account}
    {Stop : ι → Failure → Account → Prop}
    (h : ∀ i, Runs guide mode (body i) (fun _ a => ∃ d, Each i d ∧ a = account d) (Stop i))
    (is : List ι) :
    Runs guide mode (is.forM body)
      (fun _ a => ∃ ds, List.Forall₂ Each is ds ∧ a = .all account ds)
      fun f a => ∃ before i after ds b, is = before ++ i :: after ∧ List.Forall₂ Each before ds ∧
        Stop i f b ∧ a = .all account ds ++ b := by
  induction is with
  | nil => exact fun r => ⟨r, .none, .refl r, .inl ⟨(), rfl, [], .nil, rfl⟩⟩
  | cons i is ih =>
    refine Runs.bind (h i) ?_ ?_
    · rintro - a ⟨d, hd, rfl⟩
      refine ih.mono ?_ ?_
      · rintro - b ⟨ds, hds, rfl⟩
        exact ⟨d :: ds, .cons hd hds, rfl⟩
      · rintro f b ⟨before, j, after, ds, c, rfl, hds, hj, rfl⟩
        refine ⟨i :: before, j, after, d :: ds, c, rfl, .cons hd hds, hj, ?_⟩
        rw [Account.all_cons, Account.append_assoc]
    · intro f a hf
      exact ⟨[], i, is, [], a, rfl, .nil, hf, rfl⟩

/-- A question that is put, and answered. -/
theorem ask {question : Event} {answer : List Event → Except Failure α}
    (exchange : Except Failure α → Exchange) (untold : question.isTold = false)
    (h : ∀ before, guide.exchange? before question = some (exchange (answer before))) :
    Runs guide mode (Scan.ask question answer)
      (fun x a => (∃ before, answer before = .ok x) ∧ a = ⟨[exchange (.ok x)], [], []⟩)
      fun f a => a = ⟨[exchange (.error f)], [], []⟩ := by
  intro r
  refine ⟨{ r with events := question :: r.events }, ⟨[exchange (answer r.events)], [], []⟩, ?_, ?_⟩
  · exact ⟨Guide.dialogue_cons_of_some (h r.events), by simp [Record.told, untold],
      by simp [Record.finishedIn], fun _ => by simp⟩
  · rw [perform_ask]
    cases hx : answer r.events with
    | ok x => exact .inl ⟨x, rfl, ⟨r.events, hx⟩, rfl⟩
    | error f => exact .inr ⟨f, rfl, rfl⟩

end Runs

/-- A part of a scan that never fails. -/
abbrev Ends (guide : Guide) (mode : Mode) (part : Scan α) (Done : α → Account → Prop) : Prop :=
  Runs guide mode part Done fun _ _ => False

namespace Ends

variable {guide : Guide} {mode : Mode} {part : Scan α} {next : α → Scan β}
  {Done Done' : α → Account → Prop} {Failed : Failure → Account → Prop}

theorem mono (h : Ends guide mode part Done) (done : ∀ x a, Done x a → Done' x a) :
    Runs guide mode part Done' Failed := Runs.mono h done fun _ _ => False.elim

theorem pure (x : α) : Ends guide mode (pure x) fun y a => y = x ∧ a = .none :=
  fun r => ⟨r, .none, .refl r, .inl ⟨x, rfl, rfl, rfl⟩⟩

/-- A part behind one that never fails. -/
theorem bind {Done' : β → Account → Prop} (h : Ends guide mode part Done)
    (hnext : ∀ x a, Done x a →
      Runs guide mode (next x) (fun y b => Done' y (a ++ b)) fun f b => Failed f (a ++ b)) :
    Runs guide mode (part >>= next) Done' Failed :=
  Runs.bind h hnext fun _ _ => False.elim

/-- A part that never fails, for all items of a list. -/
theorem forM {ι : Type} {body : ι → Scan Unit} {account : ι → Account}
    (h : ∀ i, Ends guide mode (body i) fun _ a => a = account i) (is : List ι) :
    Ends guide mode (is.forM body) fun _ a => a = .all account is := by
  induction is with
  | nil => exact (Ends.pure ()).mono fun _ a ha => ha.2
  | cons i is ih =>
    refine Ends.bind (h i) ?_
    rintro - a rfl
    refine ih.mono ?_
    rintro - b rfl
    rfl

/-- Something happens that is no question, and that the display is not told. -/
theorem noted {e : Event} (untold : e.isTold = false)
    (h : ∀ before, guide.exchange? before e = none) :
    Ends guide mode (happens e) fun _ a => a = .none := by
  intro r
  refine ⟨{ r with events := e :: r.events }, .none, ?_, .inl ⟨(), rfl, rfl⟩⟩
  exact ⟨by simp [Guide.dialogue_cons_of_none (h r.events), Account.none],
    by simp [Record.told, untold, Account.none], by simp [Record.finishedIn, Account.none],
    fun _ => by simp [Account.none]⟩

/-- The display is told that a package is begun. -/
theorem packageStarted (importPath : Json) :
    Ends guide mode (happens (.packageStarted importPath))
      fun _ a => a = ⟨[], [.packageStarted importPath], []⟩ := by
  intro r
  refine ⟨_, _, ?_, .inl ⟨(), rfl, rfl⟩⟩
  exact ⟨by simp [Guide.dialogue, Guide.exchange?],
    by simp [Record.told, Event.isTold], by simp [Record.finishedIn], fun _ => by simp⟩

/-- A package is counted as finished, and the display is told. -/
theorem packageFinished (importPath : Json) :
    Ends guide mode
      (do
        modify fun r => { r with finished := r.finished + 1 }
        happens (.packageFinished importPath))
      fun _ a => a = ⟨[], [.packageFinished importPath], []⟩ := by
  intro r
  refine ⟨_, _, ?_, .inl ⟨(), rfl, rfl⟩⟩
  exact ⟨by simp [Guide.dialogue, Guide.exchange?],
    by simp [Record.told, Event.isTold], by simp [Record.finishedIn], fun _ => by simp⟩

end Ends

end Scan

end GoLexicon
