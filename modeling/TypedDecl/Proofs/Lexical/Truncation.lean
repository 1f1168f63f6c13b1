import TypedDecl.Proofs.Lexical.Faults
import TypedDecl.Proofs.Lexical.Offsets

/-!
Texts that break off.  A beginning of a laid out text has some of its tokens, and behind them blanks
or the beginning of one more token.  What is left of a word is a word and what is left of a number
is a number; only a string has to be read to its end.
-/

namespace TypedDecl

open Text

namespace Token

def EndsBy (token : Token) (place : Nat) : Prop := token.offset + token.extent ≤ place

instance (token : Token) (place : Nat) : Decidable (token.EndsBy place) :=
  inferInstanceAs (Decidable (_ ≤ _))

/-- The place is inside of the token. -/
def Straddles (token : Token) (place : Nat) : Prop :=
  token.offset < place ∧ place < token.offset + token.extent

theorem EndsBy.not_straddles {token : Token} {place : Nat} (ends : token.EndsBy place) :
    ¬ token.Straddles place := fun inside => Nat.not_lt.mpr ends inside.2

theorem not_straddles_of_le {token : Token} {place : Nat} (behind : place ≤ token.offset) :
    ¬ token.Straddles place := fun inside => Nat.not_lt.mpr behind inside.1

/-- What can be read where a token breaks off behind its first characters. -/
inductive Remnant (token : Token) (begun : List Char) : Prop where
  | token {kept : Token} : token.kind ≠ .quoted → kept.WellFormed → kept.text.toList = begun →
      kept.offset = token.offset → kept.kind ≠ .symbol .semicolon → Remnant token begun
  | openString {cs : List Char} : token.kind = .quoted → begun = '"' :: cs → '"' ∉ cs →
      Remnant token begun

section Remnants

variable {c : Char} {cs begun left : List Char}

theorem exists_number (starts : startsNumber c = true) (inside : ∀ d ∈ cs, continuesNumber d = true)
    (points : (c :: cs).count '.' ≤ 1) (offset : Nat) :
    ∃ kept : Token, kept.WellFormed ∧ kept.text.toList = c :: cs ∧ kept.offset = offset ∧
      kept.kind ≠ .symbol .semicolon := by
  rcases Nat.le_one_iff_eq_zero_or_eq_one.mp points with none | one
  · exact ⟨_, .integer starts inside none, by simp [text], rfl, by simp⟩
  · exact ⟨_, .floating starts inside one, by simp [text], rfl, by simp⟩

theorem remnant_number {token : Token} (starts : startsNumber c = true)
    (inside : ∀ d ∈ cs, continuesNumber d = true) (points : (c :: cs).count '.' ≤ 1)
    (plain : token.kind ≠ .quoted) (split : c :: cs = begun ++ left) (nonempty : begun ≠ []) :
    Remnant token begun := by
  obtain ⟨rfl, -⟩ | ⟨bs, rfl, rfl⟩ := List.cons_eq_append_iff.mp split
  · exact absurd rfl nonempty
  · have fewer : (c :: bs).count '.' ≤ 1 := by
      rw [split, List.count_append] at points
      omega
    obtain ⟨kept, formed, spelled, place, other⟩ :=
      exists_number starts (List.forall_mem_append.mp inside).1 fewer token.offset
    exact .token plain formed spelled place other

theorem WellFormed.remnant {token : Token} (formed : token.WellFormed)
    (split : token.text.toList = begun ++ left) (nonempty : begun ≠ []) (more : left ≠ []) :
    Remnant token begun := by
  cases formed with
  | @word c cs offset starts inside =>
    have plain := TokenKind.ofWord_ne_quoted (String.ofList (c :: cs))
    simp only [text, plain, ↓reduceIte, String.toList_ofList] at split
    obtain ⟨rfl, -⟩ | ⟨bs, rfl, rfl⟩ := List.cons_eq_append_iff.mp split
    · exact absurd rfl nonempty
    · refine .token plain (.word starts (List.forall_mem_append.mp inside).1) ?_ rfl ?_
      · simp [text, TokenKind.ofWord_ne_quoted]
      · exact TokenKind.ofWord_ne (by decide) (by decide) _
  | @integer c cs offset starts inside points =>
    exact remnant_number starts inside (by omega) (by simp) (by simpa [text] using split) nonempty
  | @floating c cs offset starts inside points =>
    exact remnant_number starts inside (by omega) (by simp) (by simpa [text] using split) nonempty
  | @quoted cs offset inside =>
    have spelled : '"' :: (cs ++ ['"']) = begun ++ left := by simpa [text] using split
    obtain ⟨rfl, -⟩ | ⟨bs, rfl, content⟩ := List.cons_eq_append_iff.mp spelled
    · exact absurd rfl nonempty
    · -- something is left, and the closing quote is the last of it
      refine .openString rfl rfl ?_
      obtain ⟨extra, rfl, closing⟩ | ⟨rest, rfl, -⟩ := List.append_eq_append_iff.mp content
      · obtain ⟨rfl, -⟩ | ⟨extra, rfl, none⟩ := List.cons_eq_append_iff.mp closing
        · simpa using inside
        · exact absurd (List.append_eq_nil_iff.mp none.symm).2 more
      · exact fun mem => inside (List.mem_append_left _ mem)
  | @symbol c symbol offset found =>
    have spelled : [c] = begun ++ left := by simpa [text] using split
    obtain ⟨rfl, -⟩ | ⟨bs, rfl, none⟩ := List.cons_eq_append_iff.mp spelled
    · exact absurd rfl nonempty
    · exact absurd (List.append_eq_nil_iff.mp none.symm).2 more

end Remnants

end Token

/-- A laid out text breaks off between two of its tokens, or inside of one. -/
inductive Severed (offset : Nat) (pieces : List Piece) (front : List Char) : Prop where
  | between {whole others : List Piece} {gap : List Char} : pieces = whole ++ others →
      front = spell whole ++ gap → AllBlank gap →
      (∀ token ∈ others.map Piece.token, offset + byteLength front ≤ token.offset) →
      Severed offset pieces front
  | inside {whole others : List Piece} {gap begun left : List Char} {token : Token} :
      pieces = whole ++ ⟨gap, token⟩ :: others → front = spell whole ++ (gap ++ begun) →
      token.text.toList = begun ++ left → begun ≠ [] → left ≠ [] → Severed offset pieces front

section Laid

variable {offset : Nat} {piece : Piece} {pieces : List Piece} {front back closing : List Char}

theorem WellLaid.gap_le_offset (laid : WellLaid offset (piece :: pieces)) :
    ∀ token ∈ (piece :: pieces).map Piece.token, offset + byteLength piece.gap ≤ token.offset := by
  obtain ⟨-, -, here, -, later⟩ := wellLaid_cons.mp laid
  rw [List.map_cons, List.forall_mem_cons]
  refine ⟨Nat.le_of_eq here.symm, ?_⟩
  intro token mem
  have behind := later.le_offset token mem
  omega

theorem Severed.cons (here : piece.token.offset = offset + byteLength piece.gap)
    (severed : Severed (piece.token.offset + piece.token.extent) pieces front) :
    Severed offset (piece :: pieces) (piece.gap ++ (piece.token.text.toList ++ front)) := by
  have text := byteLength_text piece.token
  cases severed with
  | @between whole others gap split spelled blank beyond =>
    subst split spelled
    refine .between (List.cons_append ..).symm ?_ blank ?_
    · simp
    · intro token mem
      have := beyond token mem
      simp only [byteLength_append] at this ⊢
      omega
  | @inside whole others gap begun left token split spelled parts nonempty more =>
    subst split spelled
    refine .inside (List.cons_append ..).symm ?_ parts nonempty more
    simp

/-- Wherever a laid out text is broken off, it is broken off between tokens or inside of one. -/
theorem severed_of_laid (laid : WellLaid offset pieces) (blank : AllBlank closing)
    (split : spell pieces ++ closing = front ++ back) : Severed offset pieces front := by
  induction pieces generalizing offset front with
  | nil =>
    rw [spell_nil, List.nil_append] at split
    rw [split] at blank
    exact .between (List.nil_append _).symm rfl (List.forall_mem_append.mp blank).1 nofun
  | cons piece pieces ih =>
    obtain ⟨gapBlank, -, here, -, later⟩ := wellLaid_cons.mp laid
    rw [spell_cons, List.append_assoc, List.append_assoc] at split
    obtain ⟨onward, rfl, behind⟩ | ⟨left, gap, -⟩ := List.append_eq_append_iff.mp split
    case inr =>
      rw [gap] at gapBlank
      refine .between (List.nil_append _).symm rfl (List.forall_mem_append.mp gapBlank).1 ?_
      intro token mem
      have := laid.gap_le_offset token mem
      rw [gap, byteLength_append] at this
      omega
    obtain ⟨further, rfl, beyond⟩ | ⟨left, text, after⟩ := List.append_eq_append_iff.mp behind
    case inl => exact (ih later beyond).cons here
    -- the break is behind some of the token's characters: none, all, or others
    by_cases none : onward = []
    · subst none
      refine .between (List.nil_append _).symm (List.append_nil _) gapBlank ?_
      simpa using laid.gap_le_offset
    by_cases all : left = []
    · subst all
      rw [List.append_nil] at text
      have done : spell pieces ++ closing = [] ++ back := after.symm
      simpa [text] using (ih later done).cons here
    · exact .inside (List.nil_append _).symm rfl text none all

end Laid

/-- What is read of a text up to the place: the tokens that end by it and what was begun of the next
one, or a fault at a string that goes on behind it. -/
inductive Cropped (place : Nat) (tokens : List Token) : Except LexError (List Token) → Prop where
  | tokens {whole others remainder : List Token} : tokens = whole ++ others →
      (∀ token ∈ whole, token.EndsBy place) → (∀ token ∈ others, ¬ token.EndsBy place) →
      (∀ token ∈ tokens, token.kind = .quoted → ¬ token.Straddles place) →
      (∀ token ∈ remainder, token.kind ≠ .symbol .semicolon) →
      Cropped place tokens (.ok (whole ++ remainder ++ [.endAt place]))
  | openString {token : Token} : token ∈ tokens → token.kind = .quoted → token.Straddles place →
      Cropped place tokens (.error (.unterminatedString token.offset))

section Reading

variable {offset : Nat} {whole others pieces : List Piece} {gap begun left front : List Char}
  {token : Token}

/-- The first characters of a piece keep the pieces before it as they are. -/
theorem WellLaid.endBefore (laid : WellLaid offset (whole ++ ⟨gap, token⟩ :: others))
    (text : token.text.toList = begun ++ left) (nonempty : begun ≠ []) :
    EndBefore whole (gap ++ begun) := by
  have blank : AllBlank gap := laid.blank ⟨gap, token⟩ (by simp)
  rw [endBefore_gap_iff blank]
  intro none piece last c head
  have apart := (List.isChain_append.mp laid.apart).2.2 piece last ⟨gap, token⟩ (by simp)
  have starts : c ∈ token.text.toList.head? := by
    rwa [text, List.head?_append_of_ne_nil _ nonempty]
  rw [← Bool.not_eq_true]
  intro longer
  exact apart c starts longer none

theorem WellLaid.not_endsBy {place : Nat} (laid : WellLaid offset pieces)
    (mem : token ∈ pieces.map Piece.token) (behind : place ≤ token.offset) :
    ¬ token.EndsBy place := by
  obtain ⟨piece, here, rfl⟩ := List.mem_map.mp mem
  have := (laid.formed piece here).extent_pos
  simp only [Token.EndsBy]
  omega

theorem straddles_of_text (text : token.text.toList = begun ++ left) (nonempty : begun ≠ [])
    (more : left ≠ []) : token.Straddles (token.offset + byteLength begun) := by
  have parts := byteLength_text token
  rw [text, byteLength_append] at parts
  have := Nat.pos_iff_ne_zero.mpr (mt byteLength_eq_zero.mp nonempty)
  have := Nat.pos_iff_ne_zero.mpr (mt byteLength_eq_zero.mp more)
  constructor <;> omega

theorem tokens_remnant (blank : AllBlank gap) (here : token.offset = offset + byteLength gap)
    (remnant : token.Remnant begun) :
    (∃ kept : Token, token.kind ≠ .quoted ∧ kept.kind ≠ .symbol .semicolon ∧
      Lexer.tokens ⟨gap ++ begun, offset⟩ =
        .ok [kept, .endAt (token.offset + byteLength begun)]) ∨
    (token.kind = .quoted ∧
      Lexer.tokens ⟨gap ++ begun, offset⟩ = .error (.unterminatedString token.offset)) := by
  cases remnant with
  | @token kept plain formed spelled place other =>
    refine .inl ⟨kept, plain, other, ?_⟩
    have laid : WellLaid offset [⟨gap, kept⟩] :=
      wellLaid_cons.mpr ⟨blank, formed, place.trans here, nofun, wellLaid_nil _⟩
    have read := Lexer.tokens_spell_blank laid allBlank_nil
    simpa [spelled, here, Nat.add_assoc] using read
  | openString quoted opens inside =>
    refine .inr ⟨quoted, ?_⟩
    subst opens
    have fault : Lexer.Fault (offset + byteLength gap) _ _ _ := .unterminatedString inside
    have read := Lexer.tokens_fault blank fault
    rwa [List.append_nil, ← here] at read

/-- Between two tokens everything in front of the place is read as it was. -/
theorem cropped_between (laid : WellLaid offset (whole ++ others)) (blank : AllBlank gap)
    (beyond : ∀ token ∈ others.map Piece.token,
      offset + byteLength (spell whole ++ gap) ≤ token.offset) :
    Cropped (offset + byteLength (spell whole ++ gap)) ((whole ++ others).map Piece.token)
      (Lexer.tokens ⟨spell whole ++ gap, offset⟩) := by
  obtain ⟨laidWhole, laidOthers⟩ := laid.of_append
  have ended : ∀ t ∈ whole.map Piece.token,
      t.EndsBy (offset + byteLength (spell whole ++ gap)) := laidWhole.ends_le gap
  rw [Lexer.tokens_spell_blank laidWhole blank, ← List.append_nil (whole.map Piece.token)]
  refine .tokens (List.map_append ..) ended ?_ ?_ nofun
  · intro t mem
    exact laidOthers.not_endsBy mem (beyond t mem)
  · rw [List.map_append, List.forall_mem_append]
    constructor
    · intro t mem _
      exact (ended t mem).not_straddles
    · intro t mem _
      exact Token.not_straddles_of_le (beyond t mem)

/-- Inside of a token everything in front of it is read as it was, and then what it has left. -/
theorem cropped_inside (laid : WellLaid offset (whole ++ ⟨gap, token⟩ :: others))
    (text : token.text.toList = begun ++ left) (nonempty : begun ≠ []) (more : left ≠ []) :
    Cropped (offset + byteLength (spell whole ++ (gap ++ begun)))
      ((whole ++ ⟨gap, token⟩ :: others).map Piece.token)
      (Lexer.tokens ⟨spell whole ++ (gap ++ begun), offset⟩) := by
  obtain ⟨laidWhole, laidRest⟩ := laid.of_append
  obtain ⟨blank, formed, here, -, laidOthers⟩ := wellLaid_cons.mp laidRest
  dsimp only at blank formed here laidOthers
  have place : offset + byteLength (spell whole ++ (gap ++ begun)) =
      token.offset + byteLength begun := by
    simp only [here, byteLength_append]
    omega
  have straddles := straddles_of_text text nonempty more
  have ended : ∀ t ∈ whole.map Piece.token, t.EndsBy (token.offset + byteLength begun) := by
    intro t mem
    rw [← place]
    exact laidWhole.ends_le _ t mem
  have beyond : ∀ t ∈ others.map Piece.token, token.offset + byteLength begun ≤ t.offset := by
    intro t mem
    exact Nat.le_trans (Nat.le_of_lt straddles.2) (laidOthers.le_offset t mem)
  rw [place, Lexer.tokens_spell laidWhole (laid.endBefore text nonempty), List.map_append,
    List.map_cons]
  rcases tokens_remnant blank here (formed.remnant text nonempty more) with
    ⟨kept, plain, other, read⟩ | ⟨quoted, read⟩
  · have single : ∀ t ∈ [kept], t.kind ≠ .symbol .semicolon := by simpa using other
    rw [read, Except.map, List.append_cons _ kept]
    refine .tokens rfl ended ?_ ?_ single
    · rw [List.forall_mem_cons]
      refine ⟨Nat.not_le.mpr straddles.2, ?_⟩
      intro t mem
      exact laidOthers.not_endsBy mem (beyond t mem)
    · rw [List.forall_mem_append, List.forall_mem_cons]
      refine ⟨?_, fun quoted => absurd quoted plain, ?_⟩
      · intro t mem _
        exact (ended t mem).not_straddles
      · intro t mem _
        exact Token.not_straddles_of_le (beyond t mem)
  · rw [read]
    exact .openString (by simp) quoted straddles

theorem cropped_of_severed (laid : WellLaid offset pieces) (severed : Severed offset pieces front) :
    Cropped (offset + byteLength front) (pieces.map Piece.token) (Lexer.tokens ⟨front, offset⟩) := by
  cases severed with
  | between split spelled blank beyond =>
    subst split spelled
    exact cropped_between laid blank beyond
  | inside split spelled text nonempty more =>
    subst split spelled
    exact cropped_inside laid text nonempty more

end Reading

/-- Of a source with tokens, any beginning has the tokens that end in it. -/
theorem cropped_of_tokenize {front back : String} {ts : TokenSequence}
    (found : tokenize (front ++ back) = .ok ts) :
    Cropped front.utf8ByteSize ts.body (Lexer.ofSource front).tokens := by
  obtain ⟨pieces, closing, laid, blank, spelled, body⟩ := exists_laid_of_tokenize found
  rw [String.toList_append] at spelled
  have cropped := cropped_of_severed laid (severed_of_laid laid blank spelled.symm)
  rwa [byteLength_toList, Nat.zero_add, ← body] at cropped

end TypedDecl
