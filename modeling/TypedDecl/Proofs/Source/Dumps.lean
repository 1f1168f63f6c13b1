import TypedDecl.Proofs.Lexical.Offsets
import TypedDecl.Proofs.Lexical.Separation
import TypedDecl.Proofs.Source.Rendering
import TypedDecl.Token.Dump

/-!
Dumps can be read back.  The lines of a dump are not marked off, and a string may hold line breaks
and all of what looks like a line; but where a line begins, what it was written from can be told
without looking for its end, and so the whole dump can be told line by line.
-/

namespace TypedDecl

open Text

section Runs

variable {inClass : Char → Bool} {cs ds rest more : List Char}

theorem eq_of_runs (first : ∀ c ∈ cs, inClass c = true) (second : ∀ c ∈ ds, inClass c = true)
    (stop : ∀ c ∈ rest.head?, inClass c = false) (stop' : ∀ c ∈ more.head?, inClass c = false)
    (same : cs ++ rest = ds ++ more) : cs = ds ∧ rest = more := by
  have left : Lexer.run inClass ⟨cs ++ rest, 0⟩ = cs := Lexer.run_append first stop
  have right : Lexer.run inClass ⟨ds ++ more, 0⟩ = ds := Lexer.run_append second stop'
  rw [same, right] at left
  subst left
  exact ⟨rfl, List.append_cancel_left same⟩

/-- Tokens that stand at one place and are not made longer by what follows are told apart by the
lexer, which reads them back. -/
theorem Token.WellFormed.eq_of_text {token other : Token} (formed : token.WellFormed)
    (formed' : other.WellFormed) (ends : token.EndsBefore rest) (ends' : other.EndsBefore more)
    (place : token.offset = other.offset)
    (same : token.text.toList ++ rest = other.text.toList ++ more) :
    token = other ∧ rest = more := by
  have first := Lexer.next_token formed ends
  have second := Lexer.next_token formed' ends'
  rw [same, place, second] at first
  obtain ⟨sameToken, sameRest⟩ := Prod.mk.inj first
  exact ⟨(Except.ok.inj sameToken).symm, (Lexer.mk.inj sameRest).1.symm⟩

end Runs

section Lines

variable {α : Type} {line : α → List Char} {items : α → Prop}

/-- Behind a line the text ends or breaks. -/
def EndsLine (rest : List Char) : Prop := ∀ c ∈ rest.head?, c = '\n'

/-- What a line was written from can be told where the line begins, and so can where it ends. -/
def Legible (line : α → List Char) (items : α → Prop) : Prop :=
  ∀ a b, items a → items b → ∀ rest more, EndsLine rest → EndsLine more →
    line a ++ rest = line b ++ more → a = b ∧ rest = more

/-- The lines that follow a first one. -/
def followers (line : α → List Char) (as : List α) : List Char := as.flatMap fun a => '\n' :: line a

theorem endsLine_followers (as : List α) : EndsLine (followers line as) := by
  intro c head
  cases as with
  | nil => cases head
  | cons a as => simpa [followers, eq_comm] using head

theorem intercalate_lines (a : α) (as : List α) :
    ['\n'].intercalate ((a :: as).map line) = line a ++ followers line as := by
  induction as generalizing a with
  | nil => simp [followers]
  | cons b as ih =>
    rw [List.map_cons, List.map_cons, List.intercalate_cons_cons, ← List.map_cons, ih]
    simp [followers]

variable {as bs : List α}

theorem Legible.eq_of_followers (legible : Legible line items) (first : ∀ a ∈ as, items a)
    (second : ∀ b ∈ bs, items b) (same : followers line as = followers line bs) : as = bs := by
  induction as generalizing bs with
  | nil =>
    cases bs with
    | nil => rfl
    | cons b bs => cases same
  | cons a as ih =>
    cases bs with
    | nil => cases same
    | cons b bs =>
      rw [List.forall_mem_cons] at first second
      have tails : line a ++ followers line as = line b ++ followers line bs :=
        (List.cons.inj same).2
      obtain ⟨rfl, later⟩ := legible a b first.1 second.1 _ _ (endsLine_followers as)
        (endsLine_followers bs) tails
      rw [ih first.2 second.2 later]

/-- No line is empty, so a dump without any text has no lines either. -/
theorem Legible.eq_of_lines (legible : Legible line items) (solid : ∀ a, line a ≠ [])
    (first : ∀ a ∈ as, items a) (second : ∀ b ∈ bs, items b)
    (same : ['\n'].intercalate (as.map line) = ['\n'].intercalate (bs.map line)) : as = bs := by
  apply legible.eq_of_followers first second
  cases as with
  | nil =>
    cases bs with
    | nil => rfl
    | cons b bs =>
      rw [intercalate_lines] at same
      exact absurd (List.append_eq_nil_iff.mp same.symm).1 (solid b)
  | cons a as =>
    cases bs with
    | nil =>
      rw [intercalate_lines] at same
      exact absurd (List.append_eq_nil_iff.mp same).1 (solid a)
    | cons b bs =>
      rw [intercalate_lines, intercalate_lines] at same
      rw [followers, List.flatMap_cons, followers, List.flatMap_cons]
      exact congrArg ('\n' :: ·) same

end Lines

section Columns

variable {rest more : List Char}

theorem isDigit_of_mem_repr {n : Nat} : ∀ c ∈ n.repr.toList, c.isDigit = true := by
  intro c mem
  rw [Nat.toList_repr] at mem
  exact Nat.isDigit_of_mem_toDigits (by decide) (by decide) mem

theorem repr_inj {m n : Nat} (same : m.repr.toList = n.repr.toList) : m = n := by
  rw [Nat.toList_repr, Nat.toList_repr] at same
  have value := congrArg (Nat.ofDigitChars 10 · 0) same
  simp only [Nat.ofDigitChars_toDigits (by decide : 1 < 10) (by decide : 10 ≤ 10)] at value
  exact value

/-- A numeral is read from a column that it fills or overflows, or that has blanks in front. -/
theorem eq_of_alignRight {width m n : Nat}
    (same : (alignRight width m.repr).toList ++ ' ' :: rest =
      (alignRight width n.repr).toList ++ ' ' :: more) : m = n ∧ rest = more := by
  have blank (k : Nat) : ∀ c ∈ List.replicate k ' ', (c == ' ') = true := by simp
  have solid (k : Nat) (later : List Char) : ∀ c ∈ (k.repr.toList ++ later).head?,
      (c == ' ') = false := by
    intro c head
    obtain ⟨d, ds, digits⟩ := List.exists_cons_of_ne_nil (Nat.toList_repr ▸ Nat.toDigits_ne_nil)
    rw [digits] at head
    obtain rfl : d = c := by simpa using head
    have digit := isDigit_of_mem_repr d (digits ▸ List.mem_cons_self)
    rw [beq_eq_false_iff_ne]
    rintro rfl
    cases digit
  simp only [alignRight, String.toList_append, toList_blanks, List.append_assoc] at same
  obtain ⟨-, numerals⟩ := eq_of_runs (blank _) (blank _) (solid m _) (solid n _) same
  obtain ⟨digits, later⟩ := eq_of_runs isDigit_of_mem_repr isDigit_of_mem_repr
    (by simp) (by simp) numerals
  exact ⟨repr_inj digits, (List.cons.inj later).2⟩

/-- A field without blanks ends where the first blank follows. -/
theorem eq_of_alignLeft {width : Nat} {field other : String}
    (first : ∀ c ∈ field.toList, (c != ' ') = true) (second : ∀ c ∈ other.toList, (c != ' ') = true)
    (same : (alignLeft width field).toList ++ ' ' :: rest =
      (alignLeft width other).toList ++ ' ' :: more) : field = other ∧ rest = more := by
  have stop (k : Nat) (later : List Char) :
      ∀ c ∈ (List.replicate k ' ' ++ ' ' :: later).head?, (c != ' ') = false := by
    cases k <;> simp [List.replicate_succ]
  simp only [alignLeft, String.toList_append, toList_blanks, List.append_assoc] at same
  obtain ⟨names, later⟩ := eq_of_runs first second (stop _ _) (stop _ _) same
  obtain rfl := String.toList_inj.mp names
  exact ⟨rfl, (List.cons.inj (List.append_cancel_left later)).2⟩

end Columns

section Tokens

variable {source other : String} {ts us : TokenSequence}

theorem TokenKind.name_solid (kind : TokenKind) : ∀ c ∈ kind.name.toList, (c != ' ') = true := by
  apply List.all_eq_true.mp
  cases kind with
  | reserved word => cases word <;> decide
  | type type => cases type <;> decide
  | truth value => cases value <;> decide
  | symbol symbol => cases symbol <;> decide
  | _ => decide

theorem TokenKind.eq_end_of_name {kind : TokenKind}
    (same : kind.name = TokenKind.endOfInput.name) : kind = .endOfInput := by
  revert same
  cases kind with
  | reserved word => cases word <;> decide
  | type type => cases type <;> decide
  | truth value => cases value <;> decide
  | symbol symbol => cases symbol <;> decide
  | _ => decide

/-- The tokens that come out of a source. -/
def Token.FromSource (token : Token) : Prop := token.WellFormed ∨ ∃ offset, token = .endAt offset

theorem Token.toList_row (token : Token) : token.row.toList =
    (alignRight 5 token.offset.repr).toList ++ ' ' :: ' ' ::
      ((alignLeft 16 token.kind.name).toList ++ ' ' :: token.text.toList) := by
  simp [Token.row]

theorem EndsLine.endsBefore {rest : List Char} (ends : EndsLine rest) (token : Token) :
    token.EndsBefore rest := by
  intro c head
  rw [ends c head]
  exact TokenKind.extendedBy_of_isBlank (by decide) token.kind

/-- The columns give the place and the name of the kind, and the lexer reads the text. -/
theorem legible_row : Legible (fun token : Token => token.row.toList) Token.FromSource := by
  intro token other isToken isOther rest more ends ends' same
  simp only [Token.toList_row, List.append_assoc, List.cons_append] at same
  obtain ⟨place, same⟩ := eq_of_alignRight same
  obtain ⟨name, same⟩ := eq_of_alignLeft token.kind.name_solid other.kind.name_solid
    (List.cons.inj same).2
  rcases isToken with formed | ⟨offset, rfl⟩
  · rcases isOther with formed' | ⟨offset, rfl⟩
    · exact formed.eq_of_text formed' (ends.endsBefore token) (ends'.endsBefore other) place same
    · exact absurd (TokenKind.eq_end_of_name name) formed.kind_ne_endOfInput
  · rcases isOther with formed' | ⟨offset, rfl⟩
    · exact absurd (TokenKind.eq_end_of_name name.symm) formed'.kind_ne_endOfInput
    · obtain rfl : _ = offset := place
      exact ⟨rfl, same⟩

theorem fromSource_of_tokenize (found : tokenize source = .ok ts) :
    ∀ token ∈ ts.toList, token.FromSource := by
  intro token mem
  rcases List.mem_append.mp mem with inside | last
  · exact .inl (wellFormed_of_tokenize found token inside)
  · obtain rfl := List.mem_singleton.mp last
    exact .inr ⟨_, last_of_tokenize found⟩

/-- Tokens of sources that are dumped alike are the same, one by one, at the same places. -/
theorem tokenized_dump_inj (first : tokenize source = .ok ts) (second : tokenize other = .ok us)
    (same : ts.dump = us.dump) : ts = us := by
  have texts := congrArg String.toList same
  simp only [TokenSequence.dump, String.toList_intercalate, List.map_map] at texts
  apply TokenSequence.toList_inj.mp
  apply legible_row.eq_of_lines _ (fromSource_of_tokenize first) (fromSource_of_tokenize second)
    texts
  intro token empty
  simp [Token.toList_row] at empty

/-- The string holds what looks like two more lines, the second one for the end of input. -/
theorem tokenized_dump_inj_string_of_lines :
    ∃ ts us, tokenize "é = \";\n    8  Semicolon        ;\n    9  Eof              \";" = .ok ts ∧
      tokenize "é\t=\n\";\n    8  Semicolon        ;\n    9  Eof              \";" = .ok us ∧
      ts.dump = us.dump ∧ ts = us := by
  have first : tokenize "é = \";\n    8  Semicolon        ;\n    9  Eof              \";" = .ok
      ⟨[⟨.identifier, "é", 0⟩, ⟨.symbol .equals, "=", 3⟩,
        ⟨.quoted, ";\n    8  Semicolon        ;\n    9  Eof              ", 5⟩,
        ⟨.symbol .semicolon, ";", 59⟩], .endAt 60, by decide, rfl⟩ := by decide +kernel
  have second : tokenize "é\t=\n\";\n    8  Semicolon        ;\n    9  Eof              \";" = .ok
      ⟨[⟨.identifier, "é", 0⟩, ⟨.symbol .equals, "=", 3⟩,
        ⟨.quoted, ";\n    8  Semicolon        ;\n    9  Eof              ", 5⟩,
        ⟨.symbol .semicolon, ";", 59⟩], .endAt 60, by decide, rfl⟩ := by decide +kernel
  exact ⟨_, _, first, second, rfl, tokenized_dump_inj first second rfl⟩

end Tokens

section Declarations

variable {source other : String} {program program' : Program}

theorem Declaration.toList_row (declaration : Declaration) : declaration.row.toList =
    "VARIABLE '".toList ++ (declaration.name.toList ++ ("' => ".toList ++
      (declaration.initializer.text.toList ++ " ;".toList))) := by
  simp only [row, String.toList_append, List.append_assoc]

/-- The name ends at its closing mark, the lexer reads the literal, and the type is the one that
the literal fits. -/
theorem legible_declaration :
    Legible (fun declaration : Declaration => declaration.row.toList) Declaration.WellFormed := by
  intro declaration other formed formed' rest more _ _ same
  have mark (later : List Char) : ∀ c ∈ ("' => ".toList ++ later).head?,
      continuesWord c = false := by
    intro c head
    obtain rfl : '\'' = c := by simpa using head
    decide
  have ends (literal : Literal) (later : List Char) :
      literal.token.EndsBefore (" ;".toList ++ later) := by
    intro c head
    obtain rfl : ' ' = c := by simpa using head
    exact TokenKind.extendedBy_of_isBlank (by decide) literal.token.kind
  simp only [Declaration.toList_row, List.append_assoc] at same
  obtain ⟨name, marked⟩ := eq_of_runs formed.name_isWord.continues formed'.name_isWord.continues
    (mark _) (mark _) (List.append_cancel_left same)
  have literals := List.append_cancel_left marked
  rw [← Literal.text_token, ← Literal.text_token] at literals
  obtain ⟨literal, closed⟩ := formed.literal.token.eq_of_text formed'.literal.token (ends _ rest)
    (ends _ more) (by rw [Literal.offset_token, Literal.offset_token]) literals
  obtain ⟨type, name₁, initializer⟩ := declaration
  obtain ⟨type', name₂, initializer'⟩ := other
  obtain rfl : name₁ = name₂ := String.toList_inj.mp name
  obtain rfl : initializer = initializer' := Literal.token_inj literal
  obtain rfl : type = type' := Ty.accepts_unique formed.fits formed'.fits
  exact ⟨rfl, List.append_cancel_left closed⟩

/-- Programs of sources that are dumped alike declare the same, although no type is dumped. -/
theorem parsed_dump_inj (first : parseSource source = .ok program)
    (second : parseSource other = .ok program') (same : program.dump = program'.dump) :
    program = program' := by
  have texts := congrArg String.toList same
  simp only [Program.dump, String.toList_intercalate, List.map_map] at texts
  have declared : program.declarations = program'.declarations := by
    apply legible_declaration.eq_of_lines _ (wellFormed_of_accepted first)
      (wellFormed_of_accepted second) texts
    intro declaration empty
    simp [Declaration.toList_row] at empty
  exact congrArg Program.mk declared

/-- The string holds what looks like the end of its line and a declaration of its own. -/
theorem parsed_dump_inj_string_of_lines :
    ∃ program program',
      parseSource "string s = \"1 ;\nVARIABLE 'y' => 2.\"; float y = 2.;" = .ok program ∧
      parseSource "string s=\"1 ;\nVARIABLE 'y' => 2.\";\n\nfloat y=2.\r\n;" = .ok program' ∧
      program.dump = program'.dump ∧ program = program' := by
  have first : parseSource "string s = \"1 ;\nVARIABLE 'y' => 2.\"; float y = 2.;" =
      .ok ⟨[⟨.string, "s", .quoted "1 ;\nVARIABLE 'y' => 2."⟩, ⟨.float, "y", .floating "2."⟩]⟩ := by
    decide +kernel
  have second : parseSource "string s=\"1 ;\nVARIABLE 'y' => 2.\";\n\nfloat y=2.\r\n;" =
      .ok ⟨[⟨.string, "s", .quoted "1 ;\nVARIABLE 'y' => 2."⟩, ⟨.float, "y", .floating "2."⟩]⟩ := by
    decide +kernel
  exact ⟨_, _, first, second, rfl, parsed_dump_inj first second rfl⟩

/-- A type is told by its literal alone, and a literal of another type would hide it. -/
example : (⟨[⟨.int, "x", .integer "5"⟩]⟩ : Program).dump =
    (⟨[⟨.float, "x", .floating "5"⟩]⟩ : Program).dump := rfl

end Declarations

end TypedDecl
