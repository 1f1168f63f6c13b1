import TypedDecl.Event
import TypedDecl.Token.Sequence

/-!
Rules read from the front of a token sequence.  A rule that fails leaves the sequence where it
gave up, and the log keeps what it did until then.
-/

namespace TypedDecl

structure Reply (α : Type) where
  value : α
  rest : TokenSequence
  events : List Event

namespace Reply

variable {α β : Type}

def after (earlier : List Event) (reply : Reply α) : Reply α :=
  ⟨reply.value, reply.rest, earlier ++ reply.events⟩

def map (f : α → β) (reply : Reply α) : Reply β := ⟨f reply.value, reply.rest, reply.events⟩

@[simp] theorem value_after (earlier : List Event) (reply : Reply α) :
    (reply.after earlier).value = reply.value := rfl

@[simp] theorem rest_after (earlier : List Event) (reply : Reply α) :
    (reply.after earlier).rest = reply.rest := rfl

@[simp] theorem events_after (earlier : List Event) (reply : Reply α) :
    (reply.after earlier).events = earlier ++ reply.events := rfl

@[simp] theorem value_map (f : α → β) (reply : Reply α) :
    (reply.map f).value = f reply.value := rfl

@[simp] theorem rest_map (f : α → β) (reply : Reply α) : (reply.map f).rest = reply.rest := rfl

@[simp] theorem events_map (f : α → β) (reply : Reply α) :
    (reply.map f).events = reply.events := rfl

end Reply

def Rule (α : Type) : Type := TokenSequence → Reply (Except ParseError α)

namespace Rule

variable {α β : Type}

def andThen (rule : Rule α) (next : α → Rule β) : Rule β := fun ts =>
  let reply := rule ts
  match reply.value with
  | .ok a => (next a reply.rest).after reply.events
  | .error error => ⟨.error error, reply.rest, reply.events⟩

instance : Monad Rule where
  pure a := fun ts => ⟨.ok a, ts, []⟩
  bind := andThen

/-- Take the first token if it is what is wanted.  Another token stays where it is. -/
def take (wanted : Expectation) (read : Token → Option α) : Rule α := fun ts =>
  match read ts.first with
  | some a => ⟨.ok a, ts.advance, []⟩
  | none => ⟨.error (.unexpected wanted ts.first.kind ts.first.offset), ts, []⟩

/-- Look at the first token without taking it. -/
def look : Rule Token := fun ts => ⟨.ok ts.first, ts, []⟩

def log (event : Event) : Rule Unit := fun ts => ⟨.ok (), ts, [event]⟩

def fail (error : ParseError) : Rule α := fun ts => ⟨.error error, ts, []⟩

section Views

variable (ts : TokenSequence)

@[simp] theorem pure_apply (a : α) : (pure a : Rule α) ts = ⟨.ok a, ts, []⟩ := rfl
@[simp] theorem look_apply : look ts = ⟨.ok ts.first, ts, []⟩ := rfl
@[simp] theorem log_apply (event : Event) : log event ts = ⟨.ok (), ts, [event]⟩ := rfl
@[simp] theorem fail_apply (error : ParseError) :
    (fail error : Rule α) ts = ⟨.error error, ts, []⟩ := rfl

theorem bind_apply_ok {rule : Rule α} {ts : TokenSequence} {a : α} (next : α → Rule β)
    (read : (rule ts).value = .ok a) :
    (rule >>= next) ts = (next a (rule ts).rest).after (rule ts).events := by
  simp [bind, andThen, read]

theorem bind_apply_error {rule : Rule α} {ts : TokenSequence} {error : ParseError}
    (next : α → Rule β) (read : (rule ts).value = .error error) :
    (rule >>= next) ts = ⟨.error error, (rule ts).rest, (rule ts).events⟩ := by
  simp [bind, andThen, read]

end Views

/-- Whatever the rule does, it goes forward through the tokens it was given. -/
def GoesForward (rule : Rule α) : Prop := ∀ ts, (rule ts).rest.IsRestOf ts

/-- A success takes at least one token. -/
def Progresses (rule : Rule α) : Prop :=
  ∀ ts a, (rule ts).value = .ok a → (rule ts).rest.body.length < ts.body.length

theorem goesForward_pure (a : α) : (pure a : Rule α).GoesForward := TokenSequence.IsRestOf.refl

theorem goesForward_look : look.GoesForward := TokenSequence.IsRestOf.refl

theorem goesForward_log (event : Event) : (log event).GoesForward := TokenSequence.IsRestOf.refl

theorem goesForward_fail (error : ParseError) : (fail error : Rule α).GoesForward :=
  TokenSequence.IsRestOf.refl

theorem goesForward_take (wanted : Expectation) (read : Token → Option α) :
    (take wanted read).GoesForward := by
  intro ts
  unfold take
  split
  · exact ts.advance_isRestOf
  · exact .refl ts

theorem GoesForward.bind {rule : Rule α} {next : α → Rule β} (first : rule.GoesForward)
    (later : ∀ a, (next a).GoesForward) : (rule >>= next).GoesForward := by
  intro ts
  cases read : (rule ts).value with
  | error error =>
    rw [bind_apply_error next read]
    exact first ts
  | ok a =>
    rw [bind_apply_ok next read]
    exact (first ts).trans (later a _)

/-- The end of input is never taken, so what is taken makes the sequence shorter. -/
theorem progresses_take {wanted : Expectation} {read : Token → Option α}
    (refusesEnd : ∀ token, token.kind = .endOfInput → read token = none) :
    (take wanted read).Progresses := by
  intro ts a
  unfold take
  split
  · next found =>
    intro
    refine ts.length_advance_lt ?_
    rw [TokenSequence.atEnd, Token.isEnd_eq_false]
    intro isEnd
    simp [refusesEnd _ isEnd] at found
  · rintro ⟨⟩

theorem Progresses.bind {rule : Rule α} {next : α → Rule β} (first : rule.Progresses)
    (later : ∀ a, (next a).GoesForward) : (rule >>= next).Progresses := by
  intro ts b
  cases read : (rule ts).value with
  | error error =>
    rw [bind_apply_error next read]
    rintro ⟨⟩
  | ok a =>
    rw [bind_apply_ok next read]
    exact fun _ => Nat.lt_of_le_of_lt (later a _).length_le (first ts a read)

theorem GoesForward.bind_progresses {rule : Rule α} {next : α → Rule β}
    (first : rule.GoesForward) (later : ∀ a, (next a).Progresses) :
    (rule >>= next).Progresses := by
  intro ts b
  cases read : (rule ts).value with
  | error error =>
    rw [bind_apply_error next read]
    rintro ⟨⟩
  | ok a =>
    rw [bind_apply_ok next read]
    exact fun found => Nat.lt_of_lt_of_le (later a _ b found) (first ts).length_le

end Rule

end TypedDecl
