import TypedDecl.Proofs.Grammar.Reports
import TypedDecl.Proofs.Lexical.Faults
import TypedDecl.Proofs.Lexical.Offsets

/-!
Places of errors.  Every error stands in the source where a character begins, a lexical one before
the end and an error of grammar at the token it is about.  The errors of a recovering run stand one
behind the other, so only the last of them may stand at the end.
-/

namespace TypedDecl

/-- The kind of the token that stood where another was wanted. -/
def ParseError.found? : ParseError → Option TokenKind
  | .unexpected _ found _ => some found
  | .typeMismatch .. => none

/-- The error stands at a token of the source, and at the end of the source if it has found the end
of input and no other token. -/
structure Placed (source : String) (ts : TokenSequence) (error : ParseError) : Prop where
  token : ∃ token ∈ ts.toList, error.PointsAt token
  isValid : (⟨error.offset⟩ : String.Pos.Raw).IsValid source
  le_size : error.offset ≤ source.utf8ByteSize
  eq_size_iff : error.offset = source.utf8ByteSize ↔ error.found? = some .endOfInput

theorem ParseError.PointsAt.found?_eq_end_iff {error : ParseError} {token : Token}
    (points : error.PointsAt token) :
    error.found? = some .endOfInput ↔ token.kind = .endOfInput := by
  cases points with
  | unexpected => simp [found?]
  | @mismatch declared literal _ kind =>
    constructor
    · intro absent
      cases absent
    · intro isEnd
      simp [isEnd, TokenKind.literalKind?] at kind

section Places

variable {source : String}

/-- A fault has a character of its own. -/
theorem lexError_placed {error : LexError} (found : tokenize source = .error error) :
    (⟨error.offset⟩ : String.Pos.Raw).IsValid source ∧ error.offset < source.utf8ByteSize := by
  obtain ⟨before, rest, rfl, breaks⟩ := exists_breaksOff (tokenize_eq_error_iff_yield.mp found)
  obtain ⟨taken, later, split, fault⟩ := breaks.fault
  rw [breaks.place]
  constructor
  · apply String.Pos.Raw.isValid_iff_exists_append.mpr
    exact ⟨before, rest, rfl, rfl⟩
  · have more : rest.utf8ByteSize ≠ 0 := by
      rw [← Text.byteLength_toList, Ne, Text.byteLength_eq_zero, split]
      exact fault.ne_nil
    rw [String.utf8ByteSize_append]
    omega

variable {ts : TokenSequence}

theorem placed_of_pointsAt (found : tokenize source = .ok ts) {token : Token} {error : ParseError}
    (mem : token ∈ ts.toList) (points : error.PointsAt token) : Placed source ts error := by
  have valid := isValid_of_tokenize found token mem
  have size := offset_eq_size_iff found mem
  rw [← points.offset_eq] at valid size
  refine ⟨⟨token, mem, points⟩, valid, ?_, ?_⟩
  · exact valid.le_rawEndPos
  · rw [size, points.found?_eq_end_iff]

theorem placed_of_mem_errors (found : tokenize source = .ok ts) {error : ParseError}
    (mem : error ∈ (parseRecovering ts).errors) : Placed source ts error := by
  obtain ⟨token, here, points⟩ := exists_token_of_mem_errors mem
  exact placed_of_pointsAt found here points

/-- The reported tokens come in order, and so do their places. -/
theorem errors_ascending (found : tokenize source = .ok ts) :
    (parseRecovering ts).errors.Pairwise (·.offset < ·.offset) := by
  obtain ⟨tokens, each, inside⟩ := List.sublistForall₂_iff.mp (sublistForall₂_errors ts)
  have places : (parseRecovering ts).errors.map ParseError.offset = tokens.map Token.offset := by
    rw [← List.forall₂_eq_eq_eq, List.forall₂_map_left_iff, List.forall₂_map_right_iff]
    apply each.imp
    intro error token points
    exact points.offset_eq
  have ascending := (ascending_of_tokenize found).sublist inside
  apply List.pairwise_map.mp
  rw [places]
  exact List.pairwise_map.mpr ascending

theorem offset_lt_of_mem_dropLast (found : tokenize source = .ok ts) {error : ParseError}
    (mem : error ∈ (parseRecovering ts).errors.dropLast) : error.offset < source.utf8ByteSize := by
  have ascending := errors_ascending found
  rcases (parseRecovering ts).errors.eq_nil_or_concat with none | ⟨earlier, last, all⟩
  · simp [none] at mem
  · rw [List.concat_eq_append] at all
    have here : last ∈ (parseRecovering ts).errors := by simp [all]
    rw [all, List.dropLast_concat] at mem
    rw [all] at ascending
    have before := (List.pairwise_append.mp ascending).2.2 error mem last (.head _)
    exact Nat.lt_of_lt_of_le before (placed_of_mem_errors found here).le_size

end Places

/-- Errors stand in the source, at tokens, and one behind the other. -/
theorem errors_placed (source : String) :
    match tokenize source with
    | .error error =>
      (⟨error.offset⟩ : String.Pos.Raw).IsValid source ∧ error.offset < source.utf8ByteSize
    | .ok ts =>
      (∀ error, parse ts = .error error → Placed source ts error) ∧
        (∀ error ∈ (parseRecovering ts).errors, Placed source ts error) ∧
        (parseRecovering ts).errors.Pairwise (·.offset < ·.offset) ∧
        ∀ error ∈ (parseRecovering ts).errors.dropLast, error.offset < source.utf8ByteSize := by
  cases found : tokenize source with
  | error error => exact lexError_placed found
  | ok ts =>
    refine ⟨?_, ?_, errors_ascending found, ?_⟩
    · intro error failed
      exact placed_of_mem_errors found (mem_errors_of_parse failed)
    · intro error mem
      exact placed_of_mem_errors found mem
    · intro error mem
      exact offset_lt_of_mem_dropLast found mem

end TypedDecl
