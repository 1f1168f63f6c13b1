import TypedDecl.Grammar.Recovery
import TypedDecl.Proofs.Grammar.Statement

/-!
Segments: the tokens up to a semicolon.  A statement never reads past the segment it begins in,
so what it comes to is the same wherever the segment stands, and a statement that fails leaves
the semicolon of its own segment to be skipped to.
-/

namespace TypedDecl

def SemicolonFree (tokens : List Token) : Prop :=
  ∀ token ∈ tokens, token.kind ≠ .symbol .semicolon

/-- Tokens with one semicolon, at their end. -/
inductive Segment : List Token → Prop where
  | semicolon {token} : token.kind = .symbol .semicolon → Segment [token]
  | cons {token tokens} : token.kind ≠ .symbol .semicolon → Segment tokens →
      Segment (token :: tokens)

/-- Cut tokens behind each semicolon, and keep apart what follows the last one. -/
def cut : List Token → List (List Token) × List Token
  | [] => ([], [])
  | token :: tokens =>
    if token.kind = .symbol .semicolon then ([token] :: (cut tokens).1, (cut tokens).2)
    else match cut tokens with
      | ([], tail) => ([], token :: tail)
      | (segment :: segments, tail) => ((token :: segment) :: segments, tail)

@[simp] theorem semicolonFree_nil : SemicolonFree [] := nofun

@[simp] theorem semicolonFree_cons {token : Token} {tokens : List Token} :
    SemicolonFree (token :: tokens) ↔
      token.kind ≠ .symbol .semicolon ∧ SemicolonFree tokens := List.forall_mem_cons

theorem Segment.append_semicolon {tokens : List Token} {token : Token}
    (free : SemicolonFree tokens) (semicolon : token.kind = .symbol .semicolon) :
    Segment (tokens ++ [token]) := by
  induction tokens with
  | nil => exact .semicolon semicolon
  | cons first tokens ih =>
    obtain ⟨other, free⟩ := semicolonFree_cons.mp free
    exact .cons other (ih free)

theorem Segment.ne_nil {segment : List Token} (isSegment : Segment segment) : segment ≠ [] := by
  cases isSegment <;> simp

theorem Initializes.ne_semicolon {type : Ty} {token : Token} {value : Literal}
    (fits : Initializes type token value) : token.kind ≠ .symbol .semicolon := by
  cases fits <;> simp_all

/-- No rule takes a semicolon but the last one of a declaration. -/
theorem Opening.semicolonFree {begun : List Token} {wanted : Expectation}
    (opening : Opening begun wanted) : SemicolonFree begun := by
  cases opening with
  | declaration => simp
  | identifier opener => simp [opener]
  | equals opener name => simp [opener, name]
  | literal opener name equals => simp [opener, name, equals]
  | semicolon opener name equals fits => simp [opener, name, equals, fits.ne_semicolon]

theorem semicolonFree_mismatch {opener name equals literal : Token} {type : Ty} {value : Literal}
    (first : opener.kind = .type type) (second : name.kind = .identifier)
    (third : equals.kind = .symbol .equals) (read : Literal.ofToken? literal = some value) :
    SemicolonFree [opener, name, equals, literal] := by
  have other : literal.kind ≠ .symbol .semicolon := by
    intro semicolon
    simp [Literal.ofToken?, semicolon] at read
  simp [first, second, third, other]

theorem Group.segment {group : List Token} {declaration : Declaration}
    (isGroup : Group group declaration) : Segment group := by
  obtain ⟨opener, name, equals, fits, semicolon⟩ := isGroup
  exact .append_semicolon (Opening.semicolon opener name equals fits).semicolonFree semicolon

section Cut

variable {tokens segment tail : List Token}

theorem cut_of_segment (isSegment : Segment segment) :
    cut (segment ++ tokens) = (segment :: (cut tokens).1, (cut tokens).2) := by
  induction isSegment with
  | semicolon semicolon => simp [cut, semicolon]
  | cons other _ ih => simp [cut, other, ih]

theorem cut_of_semicolonFree (free : SemicolonFree tail) : cut tail = ([], tail) := by
  induction tail with
  | nil => rfl
  | cons token tail ih =>
    obtain ⟨other, free⟩ := semicolonFree_cons.mp free
    simp [cut, other, ih free]

theorem semicolonFree_or_segment (tokens : List Token) :
    SemicolonFree tokens ∨ ∃ segment later, Segment segment ∧ tokens = segment ++ later := by
  induction tokens with
  | nil => exact .inl semicolonFree_nil
  | cons token tokens ih =>
    by_cases semicolon : token.kind = .symbol .semicolon
    · exact .inr ⟨[token], tokens, .semicolon semicolon, rfl⟩
    · rcases ih with free | ⟨segment, later, isSegment, rfl⟩
      · exact .inl (semicolonFree_cons.mpr ⟨semicolon, free⟩)
      · exact .inr ⟨token :: segment, later, .cons semicolon isSegment, rfl⟩

theorem cut_pieces (tokens : List Token) :
    tokens = (cut tokens).1.flatten ++ (cut tokens).2 ∧
      (∀ segment ∈ (cut tokens).1, Segment segment) ∧ SemicolonFree (cut tokens).2 := by
  induction tokens with
  | nil => simp [cut]
  | cons token tokens ih =>
    obtain ⟨joined, each, free⟩ := ih
    by_cases semicolon : token.kind = .symbol .semicolon
    · have here : cut (token :: tokens) = ([token] :: (cut tokens).1, (cut tokens).2) :=
        cut_of_segment (.semicolon semicolon)
      rw [here]
      refine ⟨?_, ?_, free⟩
      · simp [← joined]
      · exact List.forall_mem_cons.mpr ⟨.semicolon semicolon, each⟩
    · simp only [cut, if_neg semicolon]
      split
      · next tail found => simp_all
      · next segment segments tail found =>
        simp only [found, List.forall_mem_cons] at joined each free
        refine ⟨?_, ?_, free⟩
        · simp [joined]
        · exact List.forall_mem_cons.mpr ⟨.cons semicolon each.1, each.2⟩

/-- Tokens can be cut in one way only. -/
theorem cut_eq_iff {segments : List (List Token)} :
    cut tokens = (segments, tail) ↔ tokens = segments.flatten ++ tail ∧
      (∀ segment ∈ segments, Segment segment) ∧ SemicolonFree tail := by
  constructor
  · intro found
    simpa [found] using cut_pieces tokens
  · rintro ⟨rfl, each, free⟩
    induction segments with
    | nil => exact cut_of_semicolonFree free
    | cons segment segments ih =>
      obtain ⟨isSegment, each⟩ := List.forall_mem_cons.mp each
      rw [List.flatten_cons, List.append_assoc, cut_of_segment isSegment, ih each]

theorem cut_append {segments : List (List Token)}
    (each : ∀ segment ∈ segments, Segment segment) (tokens : List Token) :
    cut (segments.flatten ++ tokens) = (segments ++ (cut tokens).1, (cut tokens).2) := by
  obtain ⟨joined, later, free⟩ := cut_pieces tokens
  refine cut_eq_iff.mpr ⟨?_, List.forall_mem_append.mpr ⟨each, later⟩, free⟩
  rw [List.flatten_append, List.append_assoc, ← joined]

end Cut

namespace TokenSequence

section AfterStatement

variable {ts : TokenSequence}

theorem afterStatement_of_semicolon (semicolon : ts.first.kind = .symbol .semicolon) :
    ts.afterStatement = ts.advance := by
  cases ts using TokenSequence.induction with
  | ofEnd last isEnd => exact absurd (isEnd.symm.trans semicolon) nofun
  | cons token notEnd ts => exact eq_of_body_last (by simp_all [afterStatement]) rfl

theorem afterStatement_of_ne (other : ts.first.kind ≠ .symbol .semicolon) :
    ts.afterStatement = ts.advance.afterStatement := by
  cases ts using TokenSequence.induction with
  | ofEnd last isEnd => rfl
  | cons token notEnd ts => exact eq_of_body_last (by simp_all [afterStatement]) rfl

end AfterStatement

theorem length_afterStatement_lt {ts : TokenSequence} (more : ts.atEnd = false) :
    ts.afterStatement.body.length < ts.body.length := by
  have moved := ts.length_afterStatement_le
  have := ts.length_advance_lt more
  omega

variable {ts us rest middle : TokenSequence} {segment begun : List Token}

theorem StartsWith.afterStatement_of_free (starts : ts.StartsWith begun rest)
    (free : SemicolonFree begun) : rest.afterStatement = ts.afterStatement := by
  induction begun generalizing ts with
  | nil => rw [startsWith_nil.mp starts]
  | cons token begun ih =>
    obtain ⟨-, rfl, later⟩ := startsWith_cons.mp starts
    obtain ⟨other, free⟩ := semicolonFree_cons.mp free
    rw [afterStatement_of_ne other, ih later free]

theorem StartsWith.afterStatement_eq (starts : ts.StartsWith segment rest)
    (isSegment : Segment segment) : ts.afterStatement = rest := by
  induction isSegment generalizing ts with
  | semicolon semicolon =>
    obtain ⟨-, rfl, later⟩ := startsWith_cons.mp starts
    rw [afterStatement_of_semicolon semicolon, startsWith_nil.mp later]
  | cons other _ ih =>
    obtain ⟨-, rfl, later⟩ := startsWith_cons.mp starts
    rw [afterStatement_of_ne other, ih later]

/-- The first tokens of a segment are followed by the others, and one is the semicolon. -/
theorem StartsWith.inside (starts : ts.StartsWith segment rest) (isSegment : Segment segment)
    (begins : ts.StartsWith begun middle) (free : SemicolonFree begun) :
    ∃ later, segment = begun ++ later ∧ later.head? = some middle.first := by
  induction begun generalizing ts segment with
  | nil =>
    obtain rfl := startsWith_nil.mp begins
    cases isSegment <;> simp_all
  | cons token begun ih =>
    obtain ⟨-, rfl, further⟩ := startsWith_cons.mp begins
    obtain ⟨other, free⟩ := semicolonFree_cons.mp free
    cases isSegment with
    | semicolon semicolon =>
      obtain ⟨-, rfl, -⟩ := startsWith_cons.mp starts
      exact absurd semicolon other
    | cons _ isSegment =>
      obtain ⟨-, rfl, onward⟩ := startsWith_cons.mp starts
      obtain ⟨later, rfl, found⟩ := ih onward isSegment further free
      exact ⟨later, rfl, found⟩

/-- Where a segment stands does not matter to a reader that has not met its semicolon. -/
theorem StartsWith.elsewhere {rest' : TokenSequence} (starts : ts.StartsWith segment rest)
    (there : us.StartsWith segment rest') (isSegment : Segment segment)
    (begins : ts.StartsWith begun middle) (free : SemicolonFree begun) :
    ∃ middle', us.StartsWith begun middle' ∧ middle'.first = middle.first := by
  obtain ⟨later, rfl, found⟩ := starts.inside isSegment begins free
  obtain ⟨middle', begins', there⟩ := there.split
  refine ⟨middle', begins', ?_⟩
  cases later with
  | nil => cases found
  | cons token later =>
    obtain ⟨-, first, -⟩ := startsWith_cons.mp there
    rw [first]
    exact Option.some.inj found

end TokenSequence

namespace Grammar

variable {ts us rest : TokenSequence} {segment : List Token} {error : ParseError}

theorem statement_of_group {group : List Token} {declaration : Declaration}
    (isGroup : Group group declaration) (starts : ts.StartsWith group rest) :
    statement ts = ⟨.ok declaration, rest, looks group ++ [.declared declaration]⟩ :=
  statement_eq_of_reply (.declared isGroup starts)

theorem group_of_statement {declaration : Declaration}
    (read : (statement ts).value = .ok declaration) :
    ∃ group, Group group declaration ∧ ts.StartsWith group (statement ts).rest := by
  have reply := statement_reply ts
  generalize statement ts = found at reply read
  cases reply with
  | declared isGroup starts =>
    cases read
    exact ⟨_, isGroup, starts⟩
  | unexpected => cases read
  | mismatch => cases read

theorem rest_of_ok {declaration : Declaration} (read : (statement ts).value = .ok declaration) :
    ts.atEnd = false ∧ (statement ts).rest = ts.afterStatement := by
  obtain ⟨group, isGroup, starts⟩ := group_of_statement read
  refine ⟨?_, (starts.afterStatement_eq isGroup.segment).symm⟩
  rw [← Bool.not_eq_true, TokenSequence.atEnd_iff, starts.1]
  simp [isGroup.segment.ne_nil]

/-- A statement that fails does so in front of its semicolon. -/
theorem afterStatement_of_failed (failed : (statement ts).value = .error error) :
    (statement ts).rest.afterStatement = ts.afterStatement := by
  have reply := statement_reply ts
  generalize statement ts = found at reply failed
  cases reply with
  | declared => cases failed
  | unexpected begun starts _ => exact starts.afterStatement_of_free begun.semicolonFree
  | mismatch opener name equals literal _ starts =>
    exact starts.afterStatement_of_free (semicolonFree_mismatch opener name equals literal)

theorem statement_fails_elsewhere {rest' : TokenSequence} (isSegment : Segment segment)
    (starts : ts.StartsWith segment rest) (there : us.StartsWith segment rest')
    (failed : (statement ts).value = .error error) : (statement us).value = .error error := by
  have reply := statement_reply ts
  generalize statement ts = found at reply failed
  cases reply with
  | declared => cases failed
  | unexpected begun begins refused =>
    obtain ⟨middle, begins', same⟩ := starts.elsewhere there isSegment begins begun.semicolonFree
    rw [← same] at refused failed
    rw [statement_eq_of_reply (.unexpected begun begins' refused)]
    exact failed
  | mismatch opener name equals literal refused begins =>
    have free := semicolonFree_mismatch opener name equals literal
    obtain ⟨middle, begins', -⟩ := starts.elsewhere there isSegment begins free
    rw [statement_eq_of_reply (.mismatch opener name equals literal refused begins')]
    exact failed

end Grammar

end TypedDecl
