import Mathlib.Data.String.Basic
import TypedDecl.Proofs.Lexical.Offsets
import TypedDecl.Proofs.Lexical.Tiling

/-!
Lexemes cut out of the source by their bytes.  A slicer goes through the characters of a source,
each with the byte where it stands, and cuts where it has stopped; it cannot cut inside of a
character, or behind the end, or backwards.  In every state that readings can lead to, faults
included, it reads what the lexer reads, and each of its cuts can be made.
-/

namespace TypedDecl

open Text

/-- The characters of a text, each with the byte where it stands. -/
def Text.indices (offset : Nat) : List Char → List (Nat × Char)
  | [] => []
  | c :: cs => (offset, c) :: indices (offset + c.utf8Size) cs

/-- The span begins and ends between characters of the source, and ends where it begins or later. -/
structure Span.Cuts (span : Span) (source : String) : Prop where
  ordered : span.first ≤ span.last
  within : span.last ≤ source.utf8ByteSize
  first_valid : (⟨span.first⟩ : String.Pos.Raw).IsValid source
  last_valid : (⟨span.last⟩ : String.Pos.Raw).IsValid source

instance (span : Span) (source : String) : Decidable (span.Cuts source) :=
  decidable_of_iff (span.first ≤ span.last ∧ span.last ≤ source.utf8ByteSize ∧
      (⟨span.first⟩ : String.Pos.Raw).IsValid source ∧
      (⟨span.last⟩ : String.Pos.Raw).IsValid source)
    ⟨fun ⟨ordered, within, first, last⟩ => ⟨ordered, within, first, last⟩,
      fun ⟨ordered, within, first, last⟩ => ⟨ordered, within, first, last⟩⟩

/-- The text of the span, if the source can be cut there. -/
def Span.slice? (span : Span) (source : String) : Option String :=
  if span.Cuts source then
    some (String.Pos.Raw.extract source ⟨span.first⟩ ⟨span.last⟩)
  else none

/-- A source, and those of its characters that are still to come. -/
structure Slicer where
  source : String
  left : List (Nat × Char)

namespace Slicer

/-- Nothing is read where a cut cannot be made. -/
abbrev Step := Option (Except LexError Token × Slicer)

def ofSource (source : String) : Slicer := ⟨source, indices 0 source.toList⟩

/-- The byte of the next character, or the size of the source where none is left. -/
def place (slicer : Slicer) : Nat :=
  (slicer.left.head?.map Prod.fst).getD slicer.source.utf8ByteSize

def skip (inClass : Char → Bool) (slicer : Slicer) : Slicer :=
  ⟨slicer.source, slicer.left.dropWhile fun (_, c) => inClass c⟩

def drop (slicer : Slicer) : Slicer := ⟨slicer.source, slicer.left.tail⟩

/-- From a byte up to the first character that is not of the class. -/
def span (inClass : Char → Bool) (start : Nat) (slicer : Slicer) : Span :=
  ⟨start, (slicer.skip inClass).place⟩

/-- The content of a string begins behind the one byte of its opening quote. -/
def content (start : Nat) (slicer : Slicer) : Span := slicer.drop.span continuesString (start + 1)

def word (start : Nat) (slicer : Slicer) : Step := do
  let text ← (slicer.span continuesWord start).slice? slicer.source
  return (.ok ⟨.ofWord text, text, start⟩, slicer.skip continuesWord)

def number (start : Nat) (slicer : Slicer) : Step := do
  let text ← (slicer.span continuesNumber start).slice? slicer.source
  return (match text.toList.count '.' with
    | 0 => .ok ⟨.integer, text, start⟩
    | 1 => .ok ⟨.floating, text, start⟩
    | _ => .error (.malformedNumber text start), slicer.skip continuesNumber)

def string (start : Nat) (slicer : Slicer) : Step :=
  let closing := slicer.drop.skip continuesString
  match closing.left with
  | [] => some (.error (.unterminatedString start), closing)
  | _ :: _ => do
    let text ← (slicer.content start).slice? slicer.source
    return (.ok ⟨.quoted, text, start⟩, closing.drop)

def next (slicer : Slicer) : Step :=
  let slicer := slicer.skip isBlank
  match slicer.left with
  | [] => some (.ok (.endAt slicer.source.utf8ByteSize), slicer)
  | (start, c) :: _ =>
    if startsWord c then slicer.word start
    else if startsNumber c then slicer.number start
    else if startsString c then slicer.string start
    else match Symbol.ofChar? c with
      | some symbol => some (.ok ⟨.symbol symbol, String.singleton c, start⟩, slicer.drop)
      | none => some (.error (.invalidCharacter c start), slicer)

/-- What the next reading cuts, or would cut if the string that opens there were closed. -/
def span? (slicer : Slicer) : Option Span :=
  let slicer := slicer.skip isBlank
  match slicer.left with
  | [] => none
  | (start, c) :: _ =>
    if startsWord c then some (slicer.span continuesWord start)
    else if startsNumber c then some (slicer.span continuesNumber start)
    else if startsString c then some (slicer.content start)
    else none

/-- Read a number of times, going on after faults. -/
def reads : Nat → Slicer → Option (List (Except LexError Token) × Slicer)
  | 0, slicer => some ([], slicer)
  | n + 1, slicer => do
    let (result, after) ← slicer.next
    let (results, last) ← after.reads n
    return (result :: results, last)

end Slicer

section Cuts

variable {source : String} {span : Span} {text : List Char}

theorem utf8Len_eq (cs : List Char) : String.utf8Len cs = byteLength cs := by
  induction cs with
  | nil => rfl
  | cons c cs ih => rw [String.utf8Len_cons, byteLength_cons, ih, Nat.add_comm]

theorem Span.Holds.cuts (holds : span.Holds source text) : span.Cuts source := by
  obtain ⟨before, after, split, first, last⟩ := holds
  have whole := congrArg byteLength split
  rw [byteLength_toList, byteLength_append, last] at whole
  rw [byteLength_append, first] at last
  refine ⟨by omega, by omega, ?_, ?_⟩
  · rw [← first]
    exact isValid_of_split (split.trans (List.append_assoc ..))
  · rw [← last, ← first, ← byteLength_append]
    exact isValid_of_split split

theorem Span.Holds.slice?_eq (holds : span.Holds source text) :
    span.slice? source = some (.ofList text) := by
  rw [slice?, if_pos holds.cuts]
  obtain ⟨before, after, split, first, last⟩ := holds
  have valid := String.extract_of_valid before text after
  rw [← split, String.ofList_toList, utf8Len_eq, utf8Len_eq, ← byteLength_append, first, last]
    at valid
  rw [valid]

end Cuts

theorem Text.dropWhile_indices (inClass : Char → Bool) (offset : Nat) (cs : List Char) :
    (indices offset cs).dropWhile (fun (_, c) => inClass c) =
      indices (offset + byteLength (cs.takeWhile inClass)) (cs.dropWhile inClass) := by
  induction cs generalizing offset with
  | nil => rfl
  | cons c cs ih =>
    cases mem : inClass c with
    | true => simp [indices, mem, ih, Nat.add_assoc]
    | false => simp [indices, mem]

namespace Lexer

variable {source : String} {lexer : Lexer}

namespace StandsIn

theorem skip (stands : lexer.StandsIn source) (inClass : Char → Bool) :
    (lexer.skip inClass).StandsIn source :=
  stands.onward List.takeWhile_append_dropWhile.symm

theorem drop (stands : lexer.StandsIn source) : lexer.drop.StandsIn source := by
  apply stands.onward
  rw [← List.drop_one, List.take_append_drop]

theorem holds_run (stands : lexer.StandsIn source) (inClass : Char → Bool) :
    Span.Holds ⟨lexer.offset, (lexer.skip inClass).offset⟩ source (lexer.run inClass) :=
  stands.holds_front List.takeWhile_append_dropWhile.symm

theorem string (stands : lexer.StandsIn source) : lexer.string.2.StandsIn source := by
  have closing := stands.drop.skip continuesString
  simp only [Lexer.string]
  split
  · exact closing
  · exact closing.drop

theorem next (stands : lexer.StandsIn source) : lexer.next.2.StandsIn source := by
  have here := stands.skip isBlank
  simp only [Lexer.next]
  split
  · exact here
  · split
    · exact here.skip continuesWord
    · split
      · exact here.skip continuesNumber
      · split
        · exact here.string
        · split
          · exact here.drop
          · exact here

end StandsIn

/-- The slicer that has as much left as the lexer. -/
def slicer (source : String) (lexer : Lexer) : Slicer :=
  ⟨source, indices lexer.offset lexer.rest⟩

@[simp] theorem source_slicer : (lexer.slicer source).source = source := rfl

@[simp] theorem left_slicer : (lexer.slicer source).left = indices lexer.offset lexer.rest := rfl

theorem skip_slicer (inClass : Char → Bool) :
    (lexer.slicer source).skip inClass = (lexer.skip inClass).slicer source := by
  rw [slicer, Slicer.skip, dropWhile_indices]
  rfl

theorem drop_slicer : (lexer.slicer source).drop = lexer.drop.slicer source := by
  obtain ⟨rest, offset⟩ := lexer
  cases rest with
  | nil => rfl
  | cons c cs => simp [slicer, Slicer.drop, drop, indices]

/-- Where no character is left the lexer has come to the end of the source. -/
theorem place_slicer (stands : lexer.StandsIn source) :
    (lexer.slicer source).place = lexer.offset := by
  have size := stands.size_eq
  obtain ⟨rest, offset⟩ := lexer
  cases rest with
  | nil => simpa [slicer, Slicer.place, indices] using size
  | cons c cs => simp [slicer, Slicer.place, indices]

theorem span_slicer (stands : lexer.StandsIn source) (inClass : Char → Bool) (start : Nat) :
    (lexer.slicer source).span inClass start = ⟨start, (lexer.skip inClass).offset⟩ := by
  rw [Slicer.span, skip_slicer, place_slicer (stands.skip inClass)]

theorem content_slicer {cs : List Char} (stands : lexer.StandsIn source)
    (opens : lexer.rest = '"' :: cs) : (lexer.slicer source).content lexer.offset =
      ⟨lexer.drop.offset, (lexer.drop.skip continuesString).offset⟩ := by
  have behind : lexer.drop.offset = lexer.offset + 1 := by
    simp only [drop, opens, List.take_succ_cons, List.take_zero, byteLength_cons, byteLength_nil]
    rfl
  rw [Slicer.content, drop_slicer, span_slicer stands.drop, behind]

theorem word_slicer (stands : lexer.StandsIn source) :
    (lexer.slicer source).word lexer.offset =
      some (lexer.word.1, lexer.word.2.slicer source) := by
  have cut := (stands.holds_run continuesWord).slice?_eq
  simp only [Slicer.word, span_slicer stands, source_slicer, skip_slicer, cut]
  rfl

theorem number_slicer (stands : lexer.StandsIn source) :
    (lexer.slicer source).number lexer.offset =
      some (lexer.number.1, lexer.number.2.slicer source) := by
  have cut := (stands.holds_run continuesNumber).slice?_eq
  simp only [Slicer.number, span_slicer stands, source_slicer, skip_slicer, cut]
  simp only [number, Option.bind_eq_bind, Option.bind_some, String.toList_ofList]
  rfl

theorem string_slicer {cs : List Char} (stands : lexer.StandsIn source)
    (opens : lexer.rest = '"' :: cs) : (lexer.slicer source).string lexer.offset =
      some (lexer.string.1, lexer.string.2.slicer source) := by
  have cut := (stands.drop.holds_run continuesString).slice?_eq
  simp only [Slicer.string, content_slicer stands opens, source_slicer, drop_slicer, skip_slicer,
    cut, string]
  cases closing : (lexer.drop.skip continuesString).rest with
  | nil => simp only [left_slicer, closing, indices]
  | cons c later =>
    simp only [left_slicer, closing, indices]
    rfl

theorem next_slicer (stands : lexer.StandsIn source) :
    (lexer.slicer source).next = some (lexer.next.1, lexer.next.2.slicer source) := by
  have here := stands.skip isBlank
  simp only [Slicer.next, next, skip_slicer, source_slicer, left_slicer]
  generalize lexer.skip isBlank = solid at here ⊢
  cases opens : solid.rest with
  | nil =>
    have size := here.size_eq
    rw [opens, byteLength_nil, Nat.add_zero] at size
    simp only [indices, size]
    rfl
  | cons c cs =>
    simp only [indices]
    by_cases word : startsWord c = true
    · simp only [if_pos word, word_slicer here]
    by_cases number : startsNumber c = true
    · simp only [if_neg word, if_pos number, number_slicer here]
    by_cases quote : startsString c = true
    · obtain rfl : c = '"' := by simpa [startsString] using quote
      simp only [if_neg word, if_neg number, if_pos quote, string_slicer here opens]
    simp only [if_neg word, if_neg number, if_neg quote, drop_slicer]
    cases Symbol.ofChar? c <;> rfl

/-- Wherever the lexer stands, all that the next reading cuts can be cut. -/
theorem cuts_span? (stands : lexer.StandsIn source) :
    ∀ span ∈ (lexer.slicer source).span?, span.Cuts source := by
  have here := stands.skip isBlank
  simp only [Slicer.span?, skip_slicer, left_slicer]
  generalize lexer.skip isBlank = solid at here ⊢
  cases opens : solid.rest with
  | nil => simp [indices]
  | cons c cs =>
    simp only [indices]
    intro span mem
    by_cases word : startsWord c = true
    · simp only [if_pos word, span_slicer here, Option.mem_some_iff] at mem
      subst mem
      exact (here.holds_run continuesWord).cuts
    by_cases number : startsNumber c = true
    · simp only [if_neg word, if_pos number, span_slicer here, Option.mem_some_iff] at mem
      subst mem
      exact (here.holds_run continuesNumber).cuts
    by_cases quote : startsString c = true
    · obtain rfl : c = '"' := by simpa [startsString] using quote
      simp only [if_neg word, if_neg number, if_pos quote, content_slicer here opens,
        Option.mem_some_iff] at mem
      subst mem
      exact (here.drop.holds_run continuesString).cuts
    · simp [word, number, quote] at mem

theorem reads_slicer (stands : lexer.StandsIn source) (n : Nat) :
    ∃ last : Lexer, last.StandsIn source ∧
      (lexer.slicer source).reads n = some (lexer.reads n, last.slicer source) := by
  induction n generalizing lexer with
  | zero => exact ⟨lexer, stands, rfl⟩
  | succ n ih =>
    obtain ⟨last, there, later⟩ := ih stands.next
    refine ⟨last, there, ?_⟩
    simp [Slicer.reads, next_slicer stands, later, reads]

end Lexer

/-- However often a source is read from, and whatever is met, no lexeme is cut where the source
cannot be cut, and what is cut is what the lexer reads. -/
theorem slices_within (source : String) (n : Nat) :
    ∃ slicer : Slicer, (Slicer.ofSource source).reads n =
        some ((Lexer.ofSource source).reads n, slicer) ∧
      ∀ span ∈ slicer.span?, span.Cuts source := by
  obtain ⟨last, stands, done⟩ := Lexer.reads_slicer (.ofSource source) n
  exact ⟨last.slicer source, done, Lexer.cuts_span? stands⟩

/-- Behind a quote that ends the source there is still a place where a string may begin. -/
example : (Slicer.ofSource "\"").span? = some ⟨1, 1⟩ := rfl

end TypedDecl
