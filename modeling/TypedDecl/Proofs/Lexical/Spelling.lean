import TypedDecl.Proofs.Lexical.WellFormed

/-!
How the lexemes of well-formed tokens are spelled.  A word that is no keyword is an identifier, and
the lexemes of identifiers and literals are the texts that can be read as such.
-/

namespace TypedDecl

open Text

def IsWord (word : String) : Prop :=
  ∃ c cs, word.toList = c :: cs ∧ startsWord c = true ∧ ∀ d ∈ cs, continuesWord d = true

/-- Digits, with so many points among them and none in front. -/
def IsNumeral (points : Nat) (numeral : String) : Prop :=
  ∃ c cs, numeral.toList = c :: cs ∧ startsNumber c = true ∧
    (∀ d ∈ cs, continuesNumber d = true) ∧ numeral.toList.count '.' = points

theorem IsWord.of_spelled {word : String} (c : Char) (cs : List Char)
    (spelled : word.toList = c :: cs) (starts : startsWord c = true)
    (inside : cs.all continuesWord = true) : IsWord word :=
  ⟨c, cs, spelled, starts, List.all_eq_true.mp inside⟩

theorem IsWord.continues {word : String} (isWord : IsWord word) :
    ∀ c ∈ word.toList, continuesWord c = true := by
  obtain ⟨c, cs, spelled, starts, inside⟩ := isWord
  rw [spelled, List.forall_mem_cons]
  exact ⟨continuesWord_of_startsWord starts, inside⟩

namespace TokenKind

theorem ofWord_eq_identifier_iff (word : String) :
    ofWord word = .identifier ↔ word ∉ keywords.map Prod.fst := by
  have table : ∀ entry ∈ keywords, entry.2 ≠ .identifier := by decide
  cases found : ofKeyword? word with
  | none =>
    have absent : word ∉ keywords.map Prod.fst := by
      intro mem
      obtain ⟨entry, inTable, rfl⟩ := List.mem_map.mp mem
      simpa using List.lookup_eq_none_iff.mp found entry inTable
    simp [ofWord, found, absent]
  | some kind =>
    obtain ⟨before, after, split, -⟩ := List.lookup_eq_some_iff.mp found
    have mem : (word, kind) ∈ keywords := by simp [split]
    have : word ∈ keywords.map Prod.fst := List.mem_map_of_mem mem
    simp [ofWord, found, table _ mem, this]

theorem ofWord_keyword (type : Ty) : ofWord type.keyword = .type type := by
  rw [ofWord, ofKeyword?_keyword, Option.getD_some]

end TokenKind

namespace Token.WellFormed

variable {token : Token}

theorem isWord (formed : token.WellFormed) (kind : token.kind = .identifier) :
    IsWord token.lexeme ∧ token.lexeme ∉ TokenKind.keywords.map Prod.fst := by
  cases formed with
  | word starts inside =>
    exact ⟨⟨_, _, String.toList_ofList, starts, inside⟩,
      (TokenKind.ofWord_eq_identifier_iff _).mp kind⟩
  | _ => cases kind

theorem isNumeral_integer (formed : token.WellFormed) (kind : token.kind = .integer) :
    IsNumeral 0 token.lexeme := by
  cases formed with
  | word => exact absurd kind (TokenKind.ofWord_ne (by decide) (by decide) _)
  | integer starts inside points =>
    exact ⟨_, _, String.toList_ofList, starts, inside, by rwa [String.toList_ofList]⟩
  | _ => cases kind

theorem isNumeral_floating (formed : token.WellFormed) (kind : token.kind = .floating) :
    IsNumeral 1 token.lexeme := by
  cases formed with
  | word => exact absurd kind (TokenKind.ofWord_ne (by decide) (by decide) _)
  | floating starts inside points =>
    exact ⟨_, _, String.toList_ofList, starts, inside, by rwa [String.toList_ofList]⟩
  | _ => cases kind

theorem quote_not_mem (formed : token.WellFormed) (kind : token.kind = .quoted) :
    '"' ∉ token.lexeme.toList := by
  cases formed with
  | word => exact absurd kind (TokenKind.ofWord_ne_quoted _)
  | quoted inside => rwa [String.toList_ofList]
  | _ => cases kind

end Token.WellFormed

theorem IsWord.wellFormed {word : String} (isWord : IsWord word) :
    Token.WellFormed ⟨.ofWord word, word, 0⟩ := by
  obtain ⟨c, cs, spelled, starts, inside⟩ := isWord
  rw [← String.ofList_toList (s := word), spelled]
  exact .word starts inside

end TypedDecl
