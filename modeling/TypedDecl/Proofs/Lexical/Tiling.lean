import TypedDecl.Proofs.Lexical.Layout

/-!
Calls on one lexer, going on after faults.  What they read tiles the source: nothing is read twice
or passed over but blanks.  Once a call takes up no bytes, all later ones say the same.
-/

namespace TypedDecl

open Text

/-- The bytes from one offset up to another. -/
structure Span where
  first : Nat
  last : Nat

namespace Span

/-- In the source this text is what the span takes up. -/
def Holds (span : Span) (source : String) (text : List Char) : Prop :=
  ∃ before after, source.toList = before ++ text ++ after ∧ byteLength before = span.first ∧
    byteLength (before ++ text) = span.last

/-- Where the last of the spans ends. -/
def reach (start : Nat) : List Span → Nat
  | [] => start
  | span :: spans => reach span.last spans

end Span

namespace Lexer

/-- What a call takes up of a source of that size.  The end of input and an invalid character are
only looked at. -/
def span? (size : Nat) : Except LexError Token → Option Span
  | .ok token => if token.isEnd then none else some ⟨token.offset, token.offset + token.extent⟩
  | .error (.malformedNumber lexeme offset) => some ⟨offset, offset + lexeme.utf8ByteSize⟩
  | .error (.unterminatedString offset) => some ⟨offset, size⟩
  | .error (.invalidCharacter ..) => none

def text? : Except LexError Token → Option (List Char)
  | .ok token => some token.text.toList
  | .error (.malformedNumber lexeme _) => some lexeme.toList
  | .error _ => none

def isStop : Except LexError Token → Bool
  | .ok token => token.isEnd
  | .error (.invalidCharacter ..) => true
  | .error _ => false

def isUnterminated : Except LexError Token → Bool
  | .error (.unterminatedString _) => true
  | _ => false

def spans (source : String) (results : List (Except LexError Token)) : List Span :=
  results.filterMap (span? source.utf8ByteSize)

/-- What the calls on a lexer come to, from some offset of the source on. -/
structure Tiled (source : String) (start : Nat) (results : List (Except LexError Token)) :
    Prop where
  nonempty : ∀ span ∈ spans source results, span.first < span.last
  disjoint : (⟨start, start⟩ :: spans source results).Pairwise fun span next =>
    span.last ≤ next.first
  holds : ∀ result ∈ results, ∀ span ∈ span? source.utf8ByteSize result, ∀ text ∈ text? result,
    span.Holds source text
  /-- There are only blanks in front of the first span and between one span and the next. -/
  gaps : (⟨start, start⟩ :: spans source results).IsChain fun span next =>
    ∃ gap, AllBlank gap ∧ Span.Holds ⟨span.last, next.first⟩ source gap
  /-- A call that does not stop takes up a byte or more. -/
  bounded : start + results.countP (!isStop ·) ≤ source.utf8ByteSize
  /-- Behind a call that stops all are answered as it was. -/
  repeats : results.Pairwise fun earlier later => isStop earlier = true → later = earlier
  finish : ∀ token, .ok token ∈ results → token.kind = .endOfInput →
    token = .endAt source.utf8ByteSize ∧ ∃ gap, AllBlank gap ∧
      Span.Holds ⟨Span.reach start (spans source results), token.offset⟩ source gap
  invalid : ∀ c offset, .error (.invalidCharacter c offset) ∈ results →
    isBlank c = false ∧ Span.Holds ⟨offset, offset + c.utf8Size⟩ source [c] ∧
      ∃ gap, AllBlank gap ∧
        Span.Holds ⟨Span.reach start (spans source results), offset⟩ source gap
  unterminated : results.Pairwise fun earlier later => isUnterminated earlier = true →
    later = .ok (.endAt source.utf8ByteSize)

/-- The lexer has read the source up to its offset. -/
def StandsIn (lexer : Lexer) (source : String) : Prop :=
  ∃ before, source.toList = before ++ lexer.rest ∧ byteLength before = lexer.offset

section Spans

variable {size : Nat} {result : Except LexError Token} {span : Span}

theorem isStop_of_span? (takes : span? size result = some span) : isStop result = false := by
  unfold span? at takes
  unfold isStop
  split at takes <;> simp_all

theorem span?_of_isStop (stops : isStop result = true) : span? size result = none := by
  unfold isStop at stops
  unfold span?
  split at stops <;> simp_all

end Spans

namespace StandsIn

variable {source : String} {lexer : Lexer} {front text rest : List Char}

theorem ofSource (source : String) : (Lexer.ofSource source).StandsIn source := ⟨[], rfl, rfl⟩

theorem size_eq (stands : lexer.StandsIn source) :
    source.utf8ByteSize = lexer.offset + byteLength lexer.rest := by
  obtain ⟨before, split, place⟩ := stands
  rw [← byteLength_toList, split, byteLength_append, place]

theorem onward (stands : lexer.StandsIn source) (split : lexer.rest = front ++ rest) :
    StandsIn ⟨rest, lexer.offset + byteLength front⟩ source := by
  obtain ⟨before, all, place⟩ := stands
  refine ⟨before ++ front, ?_, ?_⟩
  · rw [all, split, List.append_assoc]
  · rw [byteLength_append, place]

theorem holds_front (stands : lexer.StandsIn source) (split : lexer.rest = text ++ rest) :
    Span.Holds ⟨lexer.offset, lexer.offset + byteLength text⟩ source text := by
  obtain ⟨before, all, place⟩ := stands
  refine ⟨before, rest, ?_, place, ?_⟩
  · rw [all, split, List.append_assoc]
  · rw [byteLength_append, place]

theorem holds (stands : lexer.StandsIn source) (split : lexer.rest = front ++ text ++ rest) :
    Span.Holds ⟨lexer.offset + byteLength front, lexer.offset + byteLength (front ++ text)⟩
      source text := by
  rw [List.append_assoc] at split
  rw [byteLength_append, ← Nat.add_assoc]
  exact (stands.onward split).holds_front rfl

end StandsIn

section Steps

variable {source : String} {lexer : Lexer} {gap text rest : List Char}
  {result : Except LexError Token} {results : List (Except LexError Token)}

/-- A call that takes up some text, and the calls behind it. -/
theorem tiled_cons (stands : lexer.StandsIn source) (blank : AllBlank gap) (solid : text ≠ [])
    (split : lexer.rest = gap ++ text ++ rest)
    (takes : span? source.utf8ByteSize result =
      some ⟨lexer.offset + byteLength gap, lexer.offset + byteLength (gap ++ text)⟩)
    (shows : ∀ shown ∈ text? result, shown = text)
    (last : isUnterminated result = true →
      ∀ later ∈ results, later = .ok (.endAt source.utf8ByteSize))
    (tiled : Tiled source (lexer.offset + byteLength (gap ++ text)) results) :
    Tiled source lexer.offset (result :: results) := by
  have goesOn := isStop_of_span? takes
  have wide : 0 < byteLength text := by
    rw [Nat.pos_iff_ne_zero, Ne, byteLength_eq_zero]
    exact solid
  have places : lexer.offset + byteLength (gap ++ text) =
      lexer.offset + byteLength gap + byteLength text := by
    rw [byteLength_append, Nat.add_assoc]
  have all : spans source (result :: results) =
      ⟨lexer.offset + byteLength gap, lexer.offset + byteLength (gap ++ text)⟩ ::
        spans source results := List.filterMap_cons_some takes
  constructor
  case nonempty =>
    rw [all, List.forall_mem_cons]
    refine ⟨?_, tiled.nonempty⟩
    simp only
    omega
  case disjoint =>
    obtain ⟨behind, others⟩ := List.pairwise_cons.mp tiled.disjoint
    rw [all, List.pairwise_cons, List.pairwise_cons]
    refine ⟨?_, behind, others⟩
    intro span mem
    rcases List.mem_cons.mp mem with rfl | mem
    · simp only
      omega
    · have := behind span mem
      simp only at this ⊢
      omega
  case holds =>
    intro later mem span taken shown isShown
    rcases List.mem_cons.mp mem with rfl | mem
    · obtain rfl := Option.some.inj (takes.symm.trans taken)
      rw [shows shown isShown]
      exact stands.holds split
    · exact tiled.holds later mem span taken shown isShown
  case gaps =>
    rw [all]
    apply List.IsChain.cons_cons
    · refine ⟨gap, blank, ?_⟩
      rw [List.append_assoc] at split
      exact stands.holds_front split
    · exact List.isChain_cons.mpr (List.isChain_cons.mp tiled.gaps)
  case bounded =>
    have := tiled.bounded
    rw [List.countP_cons_of_pos (by simp [goesOn])]
    omega
  case repeats =>
    apply List.Pairwise.cons _ tiled.repeats
    intro later mem stops
    simp [goesOn] at stops
  case finish =>
    intro token mem isEnd
    rw [all]
    rcases List.mem_cons.mp mem with rfl | mem
    · simp [isStop, isEnd] at goesOn
    · exact tiled.finish token mem isEnd
  case invalid =>
    intro c offset mem
    rw [all]
    rcases List.mem_cons.mp mem with rfl | mem
    · cases goesOn
    · exact tiled.invalid c offset mem
  case unterminated =>
    apply List.Pairwise.cons _ tiled.unterminated
    intro later mem isLast
    exact last isLast later mem

theorem tiled_nil (stands : lexer.StandsIn source) : Tiled source lexer.offset [] where
  nonempty := nofun
  disjoint := List.pairwise_singleton _ _
  holds := nofun
  gaps := .singleton _
  bounded := by simp [stands.size_eq]
  repeats := .nil
  finish := nofun
  invalid := nofun
  unterminated := .nil

/-- A call that takes up nothing is answered alike again and again. -/
theorem tiled_replicate (stands : lexer.StandsIn source) (stops : isStop result = true)
    (finish : ∀ token, result = .ok token → token = .endAt source.utf8ByteSize ∧
      AllBlank lexer.rest)
    (invalid : ∀ c offset, result = .error (.invalidCharacter c offset) → isBlank c = false ∧
      ∃ gap later, AllBlank gap ∧ lexer.rest = gap ++ [c] ++ later ∧
        offset = lexer.offset + byteLength gap) (n : Nat) :
    Tiled source lexer.offset (List.replicate n result) := by
  have none : spans source (List.replicate n result) = [] :=
    List.filterMap_replicate_of_none (span?_of_isStop stops)
  constructor
  case nonempty =>
    rw [none]
    nofun
  case disjoint =>
    rw [none]
    exact List.pairwise_singleton _ _
  case holds =>
    intro later mem span taken
    rw [List.eq_of_mem_replicate mem, span?_of_isStop stops] at taken
    cases taken
  case gaps =>
    rw [none]
    exact .singleton _
  case bounded =>
    simp [List.countP_replicate, stops, stands.size_eq]
  case repeats =>
    apply List.pairwise_replicate.mpr
    right
    intro _
    rfl
  case finish =>
    intro token mem _
    obtain ⟨rfl, blank⟩ := finish token (List.eq_of_mem_replicate mem).symm
    refine ⟨rfl, lexer.rest, blank, ?_⟩
    rw [none, Token.endAt, stands.size_eq]
    exact stands.holds_front (List.append_nil _).symm
  case invalid =>
    intro c offset mem
    obtain ⟨solid, gap, later, blank, split, rfl⟩ :=
      invalid c offset (List.eq_of_mem_replicate mem).symm
    refine ⟨solid, ?_, gap, blank, ?_⟩
    · have here := stands.holds split
      rw [byteLength_append, ← Nat.add_assoc] at here
      exact here
    · rw [none]
      rw [List.append_assoc] at split
      exact stands.holds_front split
  case unterminated =>
    apply List.pairwise_replicate.mpr
    right
    intro isLast
    unfold isUnterminated at isLast
    split at isLast
    · cases stops
    · cases isLast

theorem tiled_token {token : Token} (stands : lexer.StandsIn source) (blank : AllBlank gap)
    (formed : token.WellFormed) (split : lexer.rest = gap ++ token.text.toList ++ rest)
    (place : token.offset = lexer.offset + byteLength gap)
    (tiled : Tiled source (lexer.offset + byteLength (gap ++ token.text.toList)) results) :
    Tiled source lexer.offset (.ok token :: results) := by
  have other := formed.kind_ne_endOfInput
  apply tiled_cons stands blank formed.text_ne_nil split _ _ _ tiled
  · simp [span?, other, place, token.utf8ByteSize_text, Nat.add_assoc]
  · intro shown isShown
    exact (Option.some.inj isShown).symm
  · intro isLast
    cases isLast

theorem tiled_finish (stands : lexer.StandsIn source) (blank : AllBlank lexer.rest) (n : Nat) :
    Tiled source lexer.offset (List.replicate n (.ok (.endAt source.utf8ByteSize))) := by
  apply tiled_replicate stands rfl
  · intro token same
    cases same
    exact ⟨rfl, blank⟩
  · nofun

theorem tiled_invalid {c : Char} (stands : lexer.StandsIn source) (blank : AllBlank gap)
    (solid : isBlank c = false) (split : lexer.rest = gap ++ c :: rest) (n : Nat) :
    Tiled source lexer.offset
      (List.replicate n (.error (.invalidCharacter c (lexer.offset + byteLength gap)))) := by
  apply tiled_replicate stands rfl
  · nofun
  · intro d offset same
    cases same
    refine ⟨solid, gap, rest, blank, ?_, rfl⟩
    rw [split, List.append_assoc, List.singleton_append]

theorem tiled_number (stands : lexer.StandsIn source) (blank : AllBlank gap) (solid : text ≠ [])
    (split : lexer.rest = gap ++ text ++ rest)
    (tiled : Tiled source (lexer.offset + byteLength (gap ++ text)) results) :
    Tiled source lexer.offset
      (.error (.malformedNumber (.ofList text) (lexer.offset + byteLength gap)) :: results) := by
  apply tiled_cons stands blank solid split _ _ _ tiled
  · rw [span?, utf8ByteSize_ofList, byteLength_append, Nat.add_assoc]
  · intro shown isShown
    rw [← Option.some.inj isShown, String.toList_ofList]
  · intro isLast
    cases isLast

/-- An open string takes up all that is left, and only the end of input is read behind it. -/
theorem tiled_string (stands : lexer.StandsIn source) (blank : AllBlank gap) (solid : text ≠ [])
    (split : lexer.rest = gap ++ text) (n : Nat) :
    Tiled source lexer.offset (.error (.unterminatedString (lexer.offset + byteLength gap)) ::
      List.replicate n (.ok (.endAt source.utf8ByteSize))) := by
  have size := stands.size_eq
  rw [split] at size
  rw [← List.append_nil (gap ++ text)] at split
  apply tiled_cons stands blank solid split
  · rw [span?, size]
  · intro shown isShown
    cases isShown
  · intro _ later mem
    exact List.eq_of_mem_replicate mem
  · exact tiled_finish (stands.onward split) allBlank_nil n

end Steps

section Runs

variable {source : String} {lexer after : Lexer} {result : Except LexError Token}

theorem reads_of_again (again : after.next = (result, after)) (n : Nat) :
    after.reads n = List.replicate n result := by
  induction n with
  | zero => rfl
  | succ n ih => rw [reads, again, ih, List.replicate_succ]

theorem reads_of_stop (read : lexer.next = (result, after)) (again : after.next = (result, after))
    (n : Nat) : lexer.reads (n + 1) = List.replicate (n + 1) result := by
  rw [reads, read, reads_of_again again, List.replicate_succ]

theorem next_nil (offset : Nat) : next ⟨[], offset⟩ = (.ok (.endAt offset), ⟨[], offset⟩) :=
  reading_iff.mp (.finish allBlank_nil)

theorem tiled_reads (stands : lexer.StandsIn source) (n : Nat) :
    Tiled source lexer.offset (lexer.reads n) := by
  induction n generalizing lexer with
  | zero => exact tiled_nil stands
  | succ n ih =>
    obtain ⟨step, reading⟩ := exists_reading lexer
    have read := reading.next_eq
    cases reading with
    | @token gap token rest blank formed ends split place =>
      have onward : token.offset + token.extent =
          lexer.offset + byteLength (gap ++ token.text.toList) := by
        rw [place, byteLength_append, byteLength_text, Nat.add_assoc]
      rw [reads, read, onward]
      apply tiled_token stands blank formed split place
      exact ih (stands.onward split)
    | finish blank =>
      rw [reads_of_stop read (next_nil _), ← stands.size_eq]
      exact tiled_finish stands blank (n + 1)
    | @fault gap error taken rest blank split fault =>
      cases fault with
      | @invalidCharacter c later solid word number string unknown =>
        -- the lexer is left in front of the character, which it finds again
        have again : next ⟨c :: later, lexer.offset + byteLength gap⟩ =
            (.error (.invalidCharacter c (lexer.offset + byteLength gap)),
              ⟨c :: later, lexer.offset + byteLength gap⟩) :=
          reading_iff.mp (.fault allBlank_nil rfl
            (.invalidCharacter solid word number string unknown))
        rw [List.append_nil] at split
        rw [reads_of_stop read again]
        exact tiled_invalid stands blank solid split (n + 1)
      | @malformedNumber c cs rest starts inside stop points =>
        rw [reads, read, Nat.add_assoc, ← byteLength_append]
        apply tiled_number stands blank (List.cons_ne_nil c cs) split
        exact ih (stands.onward split)
      | @unterminatedString cs inside =>
        rw [List.append_nil] at split
        rw [reads, read, reads_of_again (next_nil _), Nat.add_assoc, ← byteLength_append, ← split,
          ← stands.size_eq]
        exact tiled_string stands blank (List.cons_ne_nil '"' cs) split n

end Runs

/-- However often a lexer is called, and whatever it meets, what it reads tiles the source. -/
theorem reads_tiled (source : String) (n : Nat) :
    Tiled source 0 ((Lexer.ofSource source).reads n) :=
  tiled_reads (.ofSource source) n

end Lexer

end TypedDecl
