import TypedDecl.Proofs.Grammar.Outcomes

/-!
The place of an error.  A strict run gives up at the first token that no accepted sequence goes on
with: the tokens before it can still be completed, and the tokens behind it are never looked at.
-/

namespace TypedDecl

def TokenKind.literalKind? : TokenKind → Option LiteralKind
  | .integer => some .integer
  | .floating => some .floating
  | .truth _ => some .truth
  | .quoted => some .quoted
  | _ => none

/-- What a declaration needs behind so many of its tokens. -/
def Expectation.behind : Nat → Expectation
  | 0 => .declaration
  | 1 => .identifier
  | 2 => .equals
  | 3 => .literal
  | _ => .semicolon

/-- The error for a token that stands behind the tokens of an unfinished declaration.  The input
may end between two declarations, and nowhere else. -/
inductive Refusal (begun : List Token) (token : Token) : ParseError → Prop where
  | unexpected : begun.length < 5 → (Expectation.behind begun.length).admits token.kind = false →
      (begun = [] → token.kind ≠ .endOfInput) →
      Refusal begun token (.unexpected (.behind begun.length) token.kind token.offset)
  | mismatch {opener name equals declared literal} : begun = [opener, name, equals] →
      opener.kind = .type declared → token.kind.literalKind? = some literal →
      declared.accepts literal = false →
      Refusal begun token (.typeMismatch declared literal token.offset)

/-- A strict run over the sequence is decided at this index, and not before. -/
structure RefusedAt (ts : TokenSequence) (index : Nat) (error : ParseError) : Prop where
  /-- The token there is refused, behind whole declarations and an unfinished one. -/
  refusal : ∃ groups declarations begun token, List.Forall₂ Group groups declarations ∧
    ts.toList.take index = groups.flatten ++ begun ∧ ts.toList[index]? = some token ∧
    Refusal begun token error ∧ error.offset = token.offset
  viable : ∃ us program, parse us = .ok program ∧ ts.toList.take index <+: us.toList
  decided : ∀ us : TokenSequence, ts.toList.take (index + 1) <+: us.toList →
    parse us = .error error

theorem Literal.map_kind_ofToken? (token : Token) :
    (Literal.ofToken? token).map Literal.kind = token.kind.literalKind? := by
  unfold Literal.ofToken?
  cases token.kind <;> rfl

theorem Refusal.offset_eq {begun : List Token} {token : Token} {error : ParseError}
    (refused : Refusal begun token error) : error.offset = token.offset := by
  cases refused <;> rfl

theorem exists_initializes (type : Ty) : ∃ token value, Initializes type token value := by
  cases type with
  | int => exact ⟨⟨.integer, "0", 0⟩, _, .integer rfl⟩
  | float => exact ⟨⟨.floating, "0.", 0⟩, _, .floating rfl⟩
  | boolean => exact ⟨⟨.truth true, "true", 0⟩, _, .truth rfl⟩
  | string => exact ⟨⟨.quoted, "", 0⟩, _, .quoted rfl⟩

namespace Opening

variable {begun : List Token} {wanted : Expectation}

theorem wanted_eq (opening : Opening begun wanted) : wanted = .behind begun.length := by
  cases opening <;> rfl

theorem length_lt (opening : Opening begun wanted) : begun.length < 5 := by
  cases opening <;> simp

/-- A declaration that has begun can be finished. -/
theorem exists_group (opening : Opening begun wanted) :
    ∃ later declaration, Group (begun ++ later) declaration := by
  cases opening with
  | declaration =>
    obtain ⟨literal, value, fits⟩ := exists_initializes .int
    exact ⟨[⟨.type .int, "int", 0⟩, ⟨.identifier, "x", 0⟩, ⟨.symbol .equals, "=", 0⟩, literal,
      ⟨.symbol .semicolon, ";", 0⟩], _, .mk rfl rfl rfl fits rfl⟩
  | @identifier opener type first =>
    obtain ⟨literal, value, fits⟩ := exists_initializes type
    exact ⟨[⟨.identifier, "x", 0⟩, ⟨.symbol .equals, "=", 0⟩, literal,
      ⟨.symbol .semicolon, ";", 0⟩], _, .mk first rfl rfl fits rfl⟩
  | @equals opener name type first second =>
    obtain ⟨literal, value, fits⟩ := exists_initializes type
    exact ⟨[⟨.symbol .equals, "=", 0⟩, literal, ⟨.symbol .semicolon, ";", 0⟩], _,
      .mk first second rfl fits rfl⟩
  | @literal opener name equals type first second third =>
    obtain ⟨literal, value, fits⟩ := exists_initializes type
    exact ⟨[literal, ⟨.symbol .semicolon, ";", 0⟩], _, .mk first second third fits rfl⟩
  | semicolon first second third fits =>
    exact ⟨[⟨.symbol .semicolon, ";", 0⟩], _, .mk first second third fits rfl⟩

end Opening

theorem Initializes.ne_end {type : Ty} {token : Token} {value : Literal}
    (fits : Initializes type token value) : token.kind ≠ .endOfInput := by
  cases fits <;> simp_all

theorem Group.ne_end {group : List Token} {declaration : Declaration}
    (isGroup : Group group declaration) : ∀ token ∈ group, token.kind ≠ .endOfInput := by
  obtain ⟨opener, name, equals, fits, semicolon⟩ := isGroup
  simp [opener, name, equals, fits.ne_end, semicolon]

namespace TokenSequence

variable {us : TokenSequence} {tokens : List Token} {token : Token}

theorem toList_eq_cons (ts : TokenSequence) : ∃ later, ts.toList = ts.first :: later := by
  cases ts using TokenSequence.induction with
  | ofEnd last isEnd => exact ⟨[], rfl⟩
  | cons token notEnd ts => exact ⟨ts.toList, rfl⟩

theorem startsWith_body (ts : TokenSequence) :
    ts.StartsWith ts.body (ofEnd ts.last ts.last_eq_end) :=
  ⟨(List.append_nil _).symm, rfl⟩

/-- Only the last token of a beginning may be the end of input. -/
theorem exists_startsWith_of_prefix (begins : tokens ++ [token] <+: us.toList) :
    ∃ rest, us.StartsWith tokens rest ∧ rest.first = token := by
  rw [toList, List.prefix_concat_iff] at begins
  rcases begins with whole | ⟨later, inside⟩
  · obtain ⟨rfl, last⟩ := List.append_inj' whole rfl
    exact ⟨_, us.startsWith_body, (List.cons.inj last).1.symm⟩
  · rw [List.append_assoc] at inside
    obtain ⟨rest, starts, body⟩ := exists_startsWith inside.symm
    refine ⟨rest, starts, ?_⟩
    simp [first, body]

end TokenSequence

namespace Grammar

variable {ts rest : TokenSequence} {begun : List Token} {wanted : Expectation} {error : ParseError}

theorem statement_of_refusal (opening : Opening begun wanted) (starts : ts.StartsWith begun rest)
    (refused : Refusal begun rest.first error) : (statement ts).value = .error error := by
  cases refused with
  | unexpected _ refused _ =>
    rw [← opening.wanted_eq] at refused ⊢
    rw [statement_eq_of_reply (.unexpected opening starts refused)]
  | mismatch spelled declared literal refused =>
    subst spelled
    obtain ⟨value, read, rfl⟩ : ∃ value, Literal.ofToken? rest.first = some value ∧ _ := by
      simpa [← Literal.map_kind_ofToken?] using literal
    have more : rest.first.kind ≠ .endOfInput := by
      intro isEnd
      simp [isEnd, TokenKind.literalKind?] at literal
    have whole := starts.append (TokenSequence.startsWith_first rfl more)
    cases opening with
    | literal opener name equals =>
      rw [opener] at declared
      cases declared
      rw [statement_eq_of_reply (.mismatch opener name equals read refused whole)]

theorem refusal_of_statement (more : ts.atEnd = false)
    (failed : (statement ts).value = .error error) :
    ∃ begun wanted rest, Opening begun wanted ∧ ts.StartsWith begun rest ∧
      Refusal begun rest.first error := by
  have reply := statement_reply ts
  generalize statement ts = found at reply failed
  cases reply with
  | declared => cases failed
  | @unexpected begun wanted rest opening starts refused =>
    cases failed
    refine ⟨begun, wanted, rest, opening, starts, ?_⟩
    rw [opening.wanted_eq] at refused ⊢
    apply Refusal.unexpected opening.length_lt refused
    rintro rfl
    obtain rfl := TokenSequence.startsWith_nil.mp starts
    exact Token.isEnd_eq_false.mp more
  | @mismatch opener name equals literal _ type value first second third read refused starts =>
    cases failed
    have spelled : ts.StartsWith ([opener, name, equals] ++ [literal]) _ := starts
    obtain ⟨rest, begins, later⟩ := spelled.split
    obtain ⟨-, rfl, -⟩ := TokenSequence.startsWith_cons.mp later
    refine ⟨_, _, rest, .literal first second third, begins, ?_⟩
    apply Refusal.mismatch rfl first _ refused
    rw [← Literal.map_kind_ofToken?, read]
    rfl

end Grammar

/-- Something is left where a token is refused. -/
theorem Refusal.more {ts rest : TokenSequence} {begun : List Token} {error : ParseError}
    (refused : Refusal begun rest.first error) (starts : ts.StartsWith begun rest) :
    ts.atEnd = false := by
  by_cases fresh : begun = []
  · subst fresh
    obtain rfl := TokenSequence.startsWith_nil.mp starts
    cases refused with
    | unexpected _ _ more => exact Token.isEnd_eq_false.mpr (more rfl)
    | mismatch spelled => cases spelled
  · rw [← Bool.not_eq_true, TokenSequence.atEnd_iff, starts.1]
    simp [fresh]

/-- A strict run fails behind whole declarations, where the next one cannot go on. -/
theorem parse_eq_error_iff {ts : TokenSequence} {error : ParseError} :
    parse ts = .error error ↔
      ∃ groups declarations begun wanted rest, List.Forall₂ Group groups declarations ∧
        Opening begun wanted ∧ ts.StartsWith (groups.flatten ++ begun) rest ∧
        Refusal begun rest.first error := by
  rw [parse_eq_error_iff_outcomes]
  constructor
  · rintro ⟨declarations, later, run⟩
    obtain ⟨groups, middle, starts, each, found⟩ := outcomes_eq_append_iff.mp run
    obtain ⟨more, failed, -⟩ := outcomes_eq_cons_iff.mp found
    obtain ⟨begun, wanted, rest, opening, begins, refused⟩ :=
      Grammar.refusal_of_statement more failed
    exact ⟨groups, declarations, begun, wanted, rest, each, opening, starts.append begins, refused⟩
  · rintro ⟨groups, declarations, begun, wanted, rest, each, opening, starts, refused⟩
    obtain ⟨middle, early, begins⟩ := starts.split
    have failed := Grammar.statement_of_refusal opening begins refused
    refine ⟨declarations, outcomes middle.afterStatement, ?_⟩
    apply outcomes_eq_append_iff.mpr
    refine ⟨groups, middle, early, each, ?_⟩
    rw [outcomes_of_more (refused.more begins), failed]

theorem exists_sequence_of_groups {groups : List (List Token)} {declarations : List Declaration}
    (each : List.Forall₂ Group groups declarations) :
    ∃ us : TokenSequence, us.body = groups.flatten := by
  refine ⟨⟨groups.flatten, ⟨.endOfInput, "", 0⟩, ?_, rfl⟩, rfl⟩
  induction each with
  | nil => nofun
  | cons isGroup _ ih => exact List.forall_mem_append.mpr ⟨isGroup.ne_end, ih⟩

/-- Whole declarations and one that has begun are a beginning of accepted tokens. -/
theorem exists_accepted {groups : List (List Token)} {declarations : List Declaration}
    {begun : List Token} {wanted : Expectation} (each : List.Forall₂ Group groups declarations)
    (opening : Opening begun wanted) :
    ∃ us program, parse us = .ok program ∧ groups.flatten ++ begun <+: us.toList := by
  obtain ⟨later, declaration, isGroup⟩ := opening.exists_group
  have whole : List.Forall₂ Group (groups ++ [begun ++ later]) (declarations ++ [declaration]) :=
    List.rel_append each (.cons isGroup .nil)
  obtain ⟨us, body⟩ := exists_sequence_of_groups whole
  refine ⟨us, ⟨declarations ++ [declaration]⟩, parse_of_groups body whole, ?_⟩
  simp [TokenSequence.toList, body]

/-- The first tokens up to the refused one settle the error of every sequence that has them. -/
theorem parse_error_earliest {ts : TokenSequence} {error : ParseError}
    (failed : parse ts = .error error) : ∃ index, RefusedAt ts index error := by
  obtain ⟨groups, declarations, begun, wanted, rest, each, opening, starts, refused⟩ :=
    parse_eq_error_iff.mp failed
  obtain ⟨later, onward⟩ := rest.toList_eq_cons
  have spelled : ts.toList = (groups.flatten ++ begun) ++ rest.first :: later := by
    rw [TokenSequence.startsWith_iff_toList.mp starts, onward]
  refine ⟨(groups.flatten ++ begun).length, ?_, ?_, ?_⟩
  · refine ⟨groups, declarations, begun, rest.first, each, ?_, ?_, refused, refused.offset_eq⟩
    · rw [spelled, List.take_left]
    · simp [spelled]
  · rw [spelled, List.take_left]
    exact exists_accepted each opening
  · -- a sequence that begins alike has the same token refused at the same place
    intro us begins
    have front : ts.toList.take ((groups.flatten ++ begun).length + 1) =
        (groups.flatten ++ begun) ++ [rest.first] := by
      rw [spelled, List.take_length_add_append]
      rfl
    rw [front] at begins
    obtain ⟨rest', starts', same⟩ := TokenSequence.exists_startsWith_of_prefix begins
    rw [← same] at refused
    exact parse_eq_error_iff.mpr
      ⟨groups, declarations, begun, wanted, rest', each, opening, starts', refused⟩

/-- The tokens of `int x = 5; float y = 7 x`. -/
def integerForFloat : TokenSequence where
  body := [⟨.type .int, "int", 0⟩, ⟨.identifier, "x", 4⟩, ⟨.symbol .equals, "=", 6⟩,
    ⟨.integer, "5", 8⟩, ⟨.symbol .semicolon, ";", 9⟩, ⟨.type .float, "float", 11⟩,
    ⟨.identifier, "y", 17⟩, ⟨.symbol .equals, "=", 19⟩, ⟨.integer, "7", 21⟩,
    ⟨.identifier, "x", 23⟩]
  last := ⟨.endOfInput, "", 24⟩
  body_ne_end := by decide
  last_eq_end := rfl

/-- The literal is refused, although the semicolon is missing as well. -/
theorem parse_error_earliest_integerForFloat :
    parse integerForFloat = .error (.typeMismatch .float .integer 21) ∧
      ∃ index, RefusedAt integerForFloat index (.typeMismatch .float .integer 21) := by
  have failed : parse integerForFloat = .error (.typeMismatch .float .integer 21) := by
    decide +kernel
  exact ⟨failed, parse_error_earliest failed⟩

end TypedDecl
