import TypedDecl.Token.Lexer

/-!
Tokens as the lexical grammar has them: words, numbers, strings and symbols.  No character opens
tokens of two of these kinds, and a blank opens none and makes none longer.
-/

namespace TypedDecl

open Text

/-- What stands between two tokens and at both ends of a source. -/
def AllBlank (cs : List Char) : Prop := ∀ c ∈ cs, isBlank c = true

theorem allBlank_nil : AllBlank [] := nofun

inductive Token.WellFormed : Token → Prop where
  | word {c cs offset} : startsWord c = true → (∀ d ∈ cs, continuesWord d = true) →
      WellFormed ⟨.ofWord (String.ofList (c :: cs)), String.ofList (c :: cs), offset⟩
  | integer {c cs offset} : startsNumber c = true → (∀ d ∈ cs, continuesNumber d = true) →
      (c :: cs).count '.' = 0 → WellFormed ⟨.integer, String.ofList (c :: cs), offset⟩
  | floating {c cs offset} : startsNumber c = true → (∀ d ∈ cs, continuesNumber d = true) →
      (c :: cs).count '.' = 1 → WellFormed ⟨.floating, String.ofList (c :: cs), offset⟩
  | quoted {cs offset} : '"' ∉ cs → WellFormed ⟨.quoted, String.ofList cs, offset⟩
  | symbol {c symbol offset} : Symbol.ofChar? c = some symbol →
      WellFormed ⟨.symbol symbol, String.singleton c, offset⟩

/-- Where a token stands does not matter. -/
theorem Token.WellFormed.at {token : Token} (formed : token.WellFormed) (offset : Nat) :
    WellFormed ⟨token.kind, token.lexeme, offset⟩ := by
  cases formed with
  | word starts inside => exact .word starts inside
  | integer starts inside points => exact .integer starts inside points
  | floating starts inside points => exact .floating starts inside points
  | quoted inside => exact .quoted inside
  | symbol found => exact .symbol found

/-- Whether a character that touches the end of a token of this kind would be read with it. -/
def TokenKind.extendedBy : TokenKind → Char → Bool
  | .reserved _ | .type _ | .truth _ | .identifier => continuesWord
  | .integer | .floating => continuesNumber
  | .quoted | .symbol _ | .endOfInput => fun _ => false

/-- The token ends where it does although the rest follows without a gap. -/
def Token.EndsBefore (token : Token) (rest : List Char) : Prop :=
  ∀ c ∈ rest.head?, token.kind.extendedBy c = false

namespace TokenKind

theorem ofWord_eq_identifier_or_mem (word : String) :
    ofWord word = .identifier ∨ ofWord word ∈ keywords.map Prod.snd := by
  cases found : ofKeyword? word with
  | none => simp [ofWord, found]
  | some kind =>
    obtain ⟨before, after, split, _⟩ := List.lookup_eq_some_iff.mp found
    right
    simp [ofWord, found, split]

theorem extendedBy_ofWord (word : String) : (ofWord word).extendedBy = continuesWord := by
  have table : ∀ kind ∈ keywords.map Prod.snd, kind.extendedBy = continuesWord := by
    simp [keywords, extendedBy]
  rcases ofWord_eq_identifier_or_mem word with same | mem
  · rw [same]
    rfl
  · exact table _ mem

theorem ofWord_ne {kind : TokenKind} (other : kind ≠ .identifier)
    (absent : kind ∉ keywords.map Prod.snd) (word : String) : ofWord word ≠ kind := by
  rintro rfl
  rcases ofWord_eq_identifier_or_mem word with same | mem
  · exact other same
  · exact absent mem

theorem ofWord_ne_quoted (word : String) : ofWord word ≠ .quoted :=
  ofWord_ne (by decide) (by decide) word

end TokenKind

namespace Text

theorem eq_of_isBlank {c : Char} (blank : isBlank c = true) :
    c = ' ' ∨ c = '\t' ∨ c = '\n' ∨ c = '\r' := by
  simpa [isBlank, or_assoc] using blank

theorem continuesWord_of_isBlank {c : Char} (blank : isBlank c = true) :
    continuesWord c = false := by
  rcases eq_of_isBlank blank with rfl | rfl | rfl | rfl <;> decide

theorem continuesNumber_of_isBlank {c : Char} (blank : isBlank c = true) :
    continuesNumber c = false := by
  rcases eq_of_isBlank blank with rfl | rfl | rfl | rfl <;> decide

theorem isBlank_of_startsWord {c : Char} (starts : startsWord c = true) : isBlank c = false := by
  rw [← Bool.not_eq_true]
  intro blank
  have := continuesWord_of_isBlank blank
  simp [continuesWord_of_startsWord starts] at this

theorem isBlank_of_startsNumber {c : Char} (starts : startsNumber c = true) :
    isBlank c = false := by
  rw [← Bool.not_eq_true]
  intro blank
  have := continuesNumber_of_isBlank blank
  simp [continuesNumber_of_startsNumber starts] at this

/-- The digits that open numbers are no letters, although words may go on with them. -/
theorem startsWord_of_startsNumber {c : Char} (starts : startsNumber c = true) :
    startsWord c = false := by
  have ascii : c.toNat < 128 := by
    have := (Char.isDigit_iff_toNat.mp starts).2
    exact Nat.lt_of_le_of_lt this (by decide)
  have table : ∀ n : Fin 128, startsNumber (Char.ofNat n) = true →
      startsWord (Char.ofNat n) = false := by decide +kernel
  have here := table ⟨c.toNat, ascii⟩
  rw [Char.ofNat_toNat] at here
  exact here starts

/-- A symbol opens nothing else. -/
theorem opens_of_symbol {c : Char} {symbol : Symbol} (found : Symbol.ofChar? c = some symbol) :
    isBlank c = false ∧ startsWord c = false ∧ startsNumber c = false ∧ startsString c = false := by
  unfold Symbol.ofChar? at found
  split at found <;> first | decide | cases found

end Text

end TypedDecl
