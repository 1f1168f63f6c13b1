import TypedDecl.Proofs.Lexical.WellFormed

/-!
What one reading of the lexer does.  Behind a gap of blanks it takes the longest token that opens
there, or finds the end of input or a fault; `Reading` says so without the lexer, and `reading_iff`
says that the lexer does nothing else.
-/

namespace TypedDecl

open Text

def Token.endAt (offset : Nat) : Token := ⟨.endOfInput, "", offset⟩

namespace Lexer

/-- A fault at an offset, the text that is given up with it, and the text left behind it. -/
inductive Fault (offset : Nat) : LexError → List Char → List Char → Prop where
  | invalidCharacter {c rest} : isBlank c = false → startsWord c = false →
      startsNumber c = false → startsString c = false → Symbol.ofChar? c = none →
      Fault offset (.invalidCharacter c offset) [] (c :: rest)
  | malformedNumber {c cs rest} : startsNumber c = true → (∀ d ∈ cs, continuesNumber d = true) →
      (∀ d ∈ rest.head?, continuesNumber d = false) → 2 ≤ (c :: cs).count '.' →
      Fault offset (.malformedNumber (String.ofList (c :: cs)) offset) (c :: cs) rest
  | unterminatedString {cs} : '"' ∉ cs →
      Fault offset (.unterminatedString offset) ('"' :: cs) []

inductive Reading (lexer : Lexer) : Step → Prop where
  | token {gap token rest} : AllBlank gap → token.WellFormed → token.EndsBefore rest →
      lexer.rest = gap ++ token.text.toList ++ rest →
      token.offset = lexer.offset + byteLength gap →
      Reading lexer (.ok token, ⟨rest, token.offset + token.extent⟩)
  | finish : AllBlank lexer.rest →
      Reading lexer (.ok (.endAt (lexer.offset + byteLength lexer.rest)),
        ⟨[], lexer.offset + byteLength lexer.rest⟩)
  | fault {gap error taken rest} : AllBlank gap → lexer.rest = gap ++ taken ++ rest →
      Fault (lexer.offset + byteLength gap) error taken rest →
      Reading lexer (.error error, ⟨rest, lexer.offset + byteLength gap + byteLength taken⟩)

section Scanning

variable {inClass : Char → Bool} {cs rest : List Char} {offset : Nat}

theorem run_append (inside : ∀ c ∈ cs, inClass c = true)
    (stop : ∀ c ∈ rest.head?, inClass c = false) : run inClass ⟨cs ++ rest, offset⟩ = cs := by
  have none : rest.takeWhile inClass = [] := by
    cases rest with
    | nil => rfl
    | cons c rest => simp [stop c rfl]
  simp [run, List.takeWhile_append_of_pos inside, none]

theorem skip_append (inside : ∀ c ∈ cs, inClass c = true)
    (stop : ∀ c ∈ rest.head?, inClass c = false) :
    skip inClass ⟨cs ++ rest, offset⟩ = ⟨rest, offset + byteLength cs⟩ := by
  have all : rest.dropWhile inClass = rest := by
    cases rest with
    | nil => rfl
    | cons c rest => simp [stop c rfl]
  simp only [skip, run_append inside stop, List.dropWhile_append_of_pos inside, all]

/-- Every text is a run of a class and a text that does not go on with it. -/
theorem exists_run (inClass : Char → Bool) (text : List Char) :
    ∃ cs rest, text = cs ++ rest ∧ (∀ c ∈ cs, inClass c = true) ∧
      ∀ c ∈ rest.head?, inClass c = false := by
  refine ⟨text.takeWhile inClass, text.dropWhile inClass, ?_, ?_, ?_⟩
  · exact List.takeWhile_append_dropWhile.symm
  · exact List.all_eq_true.mp List.all_takeWhile
  · have stop := List.head?_dropWhile_not inClass text
    intro c head
    simpa [Option.mem_def.mp head] using stop

end Scanning

section Tokens

variable {c : Char} {cs rest : List Char} {offset : Nat}

theorem word_append (starts : startsWord c = true) (inside : ∀ d ∈ cs, continuesWord d = true)
    (stop : ∀ d ∈ rest.head?, continuesWord d = false) :
    word ⟨c :: cs ++ rest, offset⟩ =
      (.ok ⟨.ofWord (String.ofList (c :: cs)), String.ofList (c :: cs), offset⟩,
        ⟨rest, offset + byteLength (c :: cs)⟩) := by
  have all : ∀ d ∈ c :: cs, continuesWord d = true := by
    rw [List.forall_mem_cons]
    exact ⟨continuesWord_of_startsWord starts, inside⟩
  simp only [word, run_append all stop, skip_append all stop]

theorem number_append (starts : startsNumber c = true)
    (inside : ∀ d ∈ cs, continuesNumber d = true)
    (stop : ∀ d ∈ rest.head?, continuesNumber d = false) :
    number ⟨c :: cs ++ rest, offset⟩ =
      (match (c :: cs).count '.' with
        | 0 => .ok ⟨.integer, String.ofList (c :: cs), offset⟩
        | 1 => .ok ⟨.floating, String.ofList (c :: cs), offset⟩
        | _ => .error (.malformedNumber (String.ofList (c :: cs)) offset),
        ⟨rest, offset + byteLength (c :: cs)⟩) := by
  have all : ∀ d ∈ c :: cs, continuesNumber d = true := by
    rw [List.forall_mem_cons]
    exact ⟨continuesNumber_of_startsNumber starts, inside⟩
  rcases dots : (c :: cs).count '.' with _ | _ | more <;>
    simp only [number, run_append all stop, skip_append all stop, dots]

theorem continuesString_eq_false_iff {d : Char} : continuesString d = false ↔ d = '"' := by
  simp [continuesString, startsString]

theorem all_continuesString_iff : (∀ d ∈ cs, continuesString d = true) ↔ '"' ∉ cs := by
  simp only [← Bool.not_eq_false, continuesString_eq_false_iff]
  constructor
  · intro inside mem
    exact inside _ mem rfl
  · rintro inside d mem rfl
    exact inside mem

theorem drop_quote : drop ⟨'"' :: cs, offset⟩ = ⟨cs, offset + 1⟩ := by
  have quote : ('"' : Char).utf8Size = 1 := by decide
  simp [drop, quote]

theorem string_append_quote (inside : '"' ∉ cs) :
    string ⟨'"' :: (cs ++ '"' :: rest), offset⟩ =
      (.ok ⟨.quoted, String.ofList cs, offset⟩, ⟨rest, offset + (byteLength cs + 2)⟩) := by
  have stop : ∀ d ∈ ('"' :: rest).head?, continuesString d = false := by
    rintro d ⟨⟩
    rfl
  have all := all_continuesString_iff.mpr inside
  have after : offset + 1 + byteLength cs + 1 = offset + (byteLength cs + 2) := by omega
  simp only [string, drop_quote, run_append all stop, skip_append all stop, after]

theorem string_unclosed (inside : '"' ∉ cs) :
    string ⟨'"' :: cs, offset⟩ =
      (.error (.unterminatedString offset), ⟨[], offset + byteLength ('"' :: cs)⟩) := by
  have stop : ∀ d ∈ ([] : List Char).head?, continuesString d = false := by simp
  have skipped : skip continuesString ⟨cs ++ [], offset + 1⟩ = ⟨[], offset + 1 + byteLength cs⟩ :=
    skip_append (all_continuesString_iff.mpr inside) stop
  have quote : ('"' : Char).utf8Size = 1 := by decide
  rw [List.append_nil] at skipped
  simp only [string, drop_quote, skipped, byteLength_cons, quote, Nat.add_assoc]

theorem next_of_opens (solid : isBlank c = false) :
    next ⟨c :: cs, offset⟩ =
      if startsWord c then word ⟨c :: cs, offset⟩
      else if startsNumber c then number ⟨c :: cs, offset⟩
      else if startsString c then string ⟨c :: cs, offset⟩
      else match Symbol.ofChar? c with
        | some symbol =>
          (.ok ⟨.symbol symbol, String.singleton c, offset⟩, drop ⟨c :: cs, offset⟩)
        | none => (.error (.invalidCharacter c offset), ⟨c :: cs, offset⟩) := by
  have here : skip isBlank ⟨[] ++ c :: cs, offset⟩ = ⟨c :: cs, offset⟩ :=
    skip_append nofun (by simpa using solid)
  rw [List.nil_append] at here
  cases found : Symbol.ofChar? c <;> simp only [next, here, found]

theorem next_of_startsWord (starts : startsWord c = true) :
    next ⟨c :: cs, offset⟩ = word ⟨c :: cs, offset⟩ := by
  rw [next_of_opens (isBlank_of_startsWord starts), if_pos starts]

theorem next_of_startsNumber (starts : startsNumber c = true) :
    next ⟨c :: cs, offset⟩ = number ⟨c :: cs, offset⟩ := by
  rw [next_of_opens (isBlank_of_startsNumber starts), startsWord_of_startsNumber starts]
  exact if_pos starts

theorem next_of_quote : next ⟨'"' :: cs, offset⟩ = string ⟨'"' :: cs, offset⟩ := by
  rw [next_of_opens (by decide), show startsWord '"' = false by decide]
  rfl

/-- Blanks in front of a text only move what is read there. -/
theorem next_gap {gap : List Char} (blank : AllBlank gap) :
    next ⟨gap ++ rest, offset⟩ = next ⟨rest, offset + byteLength gap⟩ := by
  have skipped :
      skip isBlank ⟨gap ++ rest, offset⟩ = skip isBlank ⟨rest, offset + byteLength gap⟩ := by
    simp only [skip, run, List.dropWhile_append_of_pos blank, List.takeWhile_append_of_pos blank,
      byteLength_append, Nat.add_assoc]
  simp only [next, skipped]

end Tokens

/-- A well-formed token that is not made longer by what follows is read as it stands. -/
theorem next_token {token : Token} {rest : List Char} (formed : token.WellFormed)
    (ends : token.EndsBefore rest) :
    next ⟨token.text.toList ++ rest, token.offset⟩ =
      (.ok token, ⟨rest, token.offset + token.extent⟩) := by
  cases formed with
  | @word c cs offset starts inside =>
    rw [Token.EndsBefore, TokenKind.extendedBy_ofWord] at ends
    have plain := TokenKind.ofWord_ne_quoted (String.ofList (c :: cs))
    simp only [Token.text, Token.extent, plain, ↓reduceIte, String.toList_ofList,
      utf8ByteSize_ofList]
    rw [List.cons_append, next_of_startsWord starts]
    exact word_append starts inside ends
  | integer starts inside points =>
    simp only [Token.text, Token.extent, reduceCtorEq, ↓reduceIte, String.toList_ofList,
      utf8ByteSize_ofList]
    rw [List.cons_append, next_of_startsNumber starts, ← List.cons_append,
      number_append starts inside ends, points]
    rfl
  | floating starts inside points =>
    simp only [Token.text, Token.extent, reduceCtorEq, ↓reduceIte, String.toList_ofList,
      utf8ByteSize_ofList]
    rw [List.cons_append, next_of_startsNumber starts, ← List.cons_append,
      number_append starts inside ends, points]
    rfl
  | @quoted cs offset inside =>
    have spelled : ("\"" ++ String.ofList cs ++ "\"").toList ++ rest =
        '"' :: (cs ++ '"' :: rest) := by simp
    simp only [Token.text, Token.extent, ↓reduceIte, utf8ByteSize_ofList, spelled]
    rw [next_of_quote]
    exact string_append_quote inside
  | @symbol c symbol offset found =>
    obtain ⟨solid, notWord, notNumber, notString⟩ := opens_of_symbol found
    simp only [Token.text, Token.extent, reduceCtorEq, ↓reduceIte, String.toList_singleton,
      List.singleton_append]
    rw [next_of_opens solid]
    simp [notWord, notNumber, notString, found, drop]

theorem next_fault {offset : Nat} {error : LexError} {taken rest : List Char}
    (fault : Fault offset error taken rest) :
    next ⟨taken ++ rest, offset⟩ = (.error error, ⟨rest, offset + byteLength taken⟩) := by
  cases fault with
  | invalidCharacter solid notWord notNumber notString unknown =>
    rw [List.nil_append, next_of_opens solid]
    simp [notWord, notNumber, notString, unknown]
  | @malformedNumber c cs rest starts inside stop points =>
    rw [List.cons_append, next_of_startsNumber starts, ← List.cons_append,
      number_append starts inside stop]
    split <;> first | rfl | omega
  | unterminatedString inside =>
    rw [List.append_nil, next_of_quote]
    exact string_unclosed inside

theorem Reading.next_eq {lexer : Lexer} {step : Step} (reading : Reading lexer step) :
    lexer.next = step := by
  obtain ⟨text, offset⟩ := lexer
  cases reading with
  | token blank formed ends split place =>
    simp only at split place
    rw [split, List.append_assoc, next_gap blank, ← place]
    exact next_token formed ends
  | finish blank =>
    have all : next ⟨text ++ [], offset⟩ = next ⟨[], offset + byteLength text⟩ := next_gap blank
    rw [List.append_nil] at all
    rw [all]
    rfl
  | fault blank split fault =>
    simp only at split fault
    rw [split, List.append_assoc, next_gap blank]
    exact next_fault fault

/-- What opens with no blank opens with a token or is at fault. -/
theorem exists_token_or_fault (c : Char) (cs : List Char) (offset : Nat)
    (solid : isBlank c = false) :
    (∃ (token : Token) (rest : List Char), token.WellFormed ∧ token.EndsBefore rest ∧
      token.offset = offset ∧ c :: cs = token.text.toList ++ rest) ∨
    ∃ error taken rest, Fault offset error taken rest ∧ c :: cs = taken ++ rest := by
  by_cases word : startsWord c = true
  · obtain ⟨more, rest, split, inside, stop⟩ := exists_run continuesWord cs
    left
    refine ⟨⟨_, _, offset⟩, rest, .word word inside, ?_, rfl, ?_⟩
    · rw [Token.EndsBefore, TokenKind.extendedBy_ofWord]
      exact stop
    · simp [Token.text, TokenKind.ofWord_ne_quoted, split]
  by_cases number : startsNumber c = true
  · obtain ⟨more, rest, split, inside, stop⟩ := exists_run continuesNumber cs
    obtain points | points | points :
        (c :: more).count '.' = 0 ∨ (c :: more).count '.' = 1 ∨ 2 ≤ (c :: more).count '.' := by
      omega
    · left
      refine ⟨⟨_, _, offset⟩, rest, .integer number inside points, stop, rfl, ?_⟩
      simp [Token.text, split]
    · left
      refine ⟨⟨_, _, offset⟩, rest, .floating number inside points, stop, rfl, ?_⟩
      simp [Token.text, split]
    · right
      exact ⟨_, _, rest, .malformedNumber number inside stop points, by simp [split]⟩
  by_cases string : startsString c = true
  · obtain rfl : c = '"' := by simpa [startsString] using string
    obtain ⟨content, rest, split, inside, stop⟩ := exists_run continuesString cs
    have noQuote : '"' ∉ content := all_continuesString_iff.mp inside
    cases rest with
    | nil =>
      right
      exact ⟨_, _, [], .unterminatedString noQuote, by simp [split]⟩
    | cons d rest =>
      obtain rfl : d = '"' := continuesString_eq_false_iff.mp (stop d rfl)
      left
      refine ⟨⟨_, _, offset⟩, rest, .quoted noQuote, ?_, rfl, ?_⟩
      · intro c head
        rfl
      · simp [Token.text, split]
  rw [Bool.not_eq_true] at word number string
  cases found : Symbol.ofChar? c with
  | some symbol =>
    left
    refine ⟨⟨_, _, offset⟩, cs, .symbol found, ?_, rfl, ?_⟩
    · intro c head
      rfl
    · simp [Token.text]
  | none =>
    right
    exact ⟨_, [], c :: cs, .invalidCharacter solid word number string found, rfl⟩

theorem exists_reading (lexer : Lexer) : ∃ step, Reading lexer step := by
  obtain ⟨gap, text, split, blank, stop⟩ := exists_run isBlank lexer.rest
  cases text with
  | nil =>
    rw [List.append_nil] at split
    exact ⟨_, .finish (split ▸ blank)⟩
  | cons c cs =>
    have solid : isBlank c = false := stop c rfl
    rcases exists_token_or_fault c cs (lexer.offset + byteLength gap) solid with
      ⟨token, rest, formed, ends, place, spelled⟩ | ⟨error, taken, rest, fault, spelled⟩
    · refine ⟨_, .token blank formed ends ?_ place⟩
      rw [split, spelled, List.append_assoc]
    · refine ⟨_, .fault blank ?_ fault⟩
      rw [split, spelled, List.append_assoc]

theorem reading_iff {lexer : Lexer} {step : Step} : Reading lexer step ↔ lexer.next = step := by
  constructor
  · exact Reading.next_eq
  · rintro rfl
    obtain ⟨step, reading⟩ := exists_reading lexer
    rw [reading.next_eq]
    exact reading

end Lexer

end TypedDecl
