import TypedDecl.Proofs.CommandLine.Refinement

/-!
How the flags of the command line work together.  What is printed is put together from two parts,
each of which a flag of its own asks for; recovery only adds to it, and the log has no part in it.
-/

namespace TypedDecl.CommandLine

namespace Options

/-- The options, with these kinds of output asked for. -/
def showing (tokens ast : Bool) (options : Options) : Options := { options with tokens, ast }

/-- The options, with or without recovery. -/
def recovering (recover : Bool) (options : Options) : Options := { options with recover }

/-- The options, with more log asked for so many times. -/
def verbose (verbosity : Nat) (options : Options) : Options := { options with verbosity }

/-- What is printed of a file. -/
def output (options : Options) (given : Option Threshold) (contents : Option ByteArray) : String :=
  (options.response given contents).output

section Output

variable (options : Options) (given : Option Threshold) {contents : Option ByteArray}
  {source : String} {ts : TokenSequence}

theorem output_of_unreadable (unreadable : contents.bind String.fromUTF8? = none) :
    options.output given contents = "" := by
  rw [output, response_eq, transcript_of_unreadable options unreadable]
  rfl

theorem output_of_source (read : contents.bind String.fromUTF8? = some source) :
    options.output given contents = options.printed source := by
  rw [output, response_eq, transcript_of_source options read]
  rfl

/-- With no kind of output asked for there is as much as with both. -/
theorem printed_showing (source : String) :
    (options.showing false false).printed source = (options.showing true true).printed source ∧
      (options.showing true true).printed source =
        (options.showing true false).printed source ++
          (options.showing false true).printed source := by
  cases found : tokenize source with
  | error error => simp [printed_of_fault _ found]
  | ok ts =>
    simp only [printed_of_tokens _ found]
    constructor
    · rfl
    · have tokensOnly : (options.showing true false).programOutput
          ((options.showing true false).shown ts) = "" := rfl
      have programOnly : (options.showing false true).tokenOutput ts = "" := rfl
      rw [tokensOnly, programOnly, String.append_empty, String.empty_append]
      rfl

/-- The two parsers show the same program where there is nothing to recover from. -/
theorem shown_of_accepted {program : Program} (accepted : TypedDecl.parse ts = .ok program) :
    options.shown ts = program := by
  have recovered := parse_eq_first_error ts
  rw [accepted] at recovered
  cases errors : (parseRecovering ts).errors with
  | cons error errors => simp [errors] at recovered
  | nil =>
    rw [errors] at recovered
    rw [shown, accepted, ← Except.ok.inj recovered]
    exact ite_self _

theorem printed_recovering (source : String) :
    (∃ rest, (options.recovering true).printed source =
      (options.recovering false).printed source ++ rest) ∧
    ((∃ program, parseSource source = .ok program) →
      (options.recovering true).printed source = (options.recovering false).printed source) := by
  cases found : tokenize source with
  | error error => simp [printed_of_fault _ found]
  | ok ts =>
    simp only [printed_of_tokens _ found]
    cases parsed : TypedDecl.parse ts with
    | ok program =>
      simp only [fun recover => shown_of_accepted (options.recovering recover) parsed]
      refine ⟨⟨"", ?_⟩, fun _ => rfl⟩
      rw [String.append_empty]
      rfl
    | error error =>
      have nothing : (options.recovering false).shown ts = ⟨[]⟩ := by
        simp [shown, recovering, parsed, Except.toOption]
      constructor
      · refine ⟨(options.recovering true).programOutput ((options.recovering true).shown ts), ?_⟩
        rw [nothing, programOutput_nil, String.append_empty]
        rfl
      · rintro ⟨program, accepted⟩
        rw [parseSource_eq_parse found, parsed] at accepted
        cases accepted

/-- Neither the output nor the exit code is a matter of the log. -/
theorem response_verbose (contents : Option ByteArray) (verbosity : Nat)
    (given' : Option Threshold) :
    ((options.verbose verbosity).response given' contents).output =
        (options.response given contents).output ∧
      ((options.verbose verbosity).response given' contents).exitCode =
        (options.response given contents).exitCode := ⟨rfl, rfl⟩

end Output

end Options

/-- The kinds of output follow each other, recovery adds to the end, and the log changes nothing. -/
theorem output_composes (options : Options) (given : Option Threshold)
    (contents : Option ByteArray) :
    (options.showing false false).output given contents =
        (options.showing true true).output given contents ∧
      (options.showing true true).output given contents =
        (options.showing true false).output given contents ++
          (options.showing false true).output given contents ∧
      (∃ rest, (options.recovering true).output given contents =
        (options.recovering false).output given contents ++ rest) ∧
      (∀ recover, ((options.recovering recover).response given contents).exitCode = 0 →
        (options.recovering true).output given contents =
          (options.recovering false).output given contents) ∧
      ∀ verbosity given',
        ((options.verbose verbosity).response given' contents).output =
            (options.response given contents).output ∧
          ((options.verbose verbosity).response given' contents).exitCode =
            (options.response given contents).exitCode := by
  cases read : contents.bind String.fromUTF8? with
  | none =>
    have nothing := fun options : Options => options.output_of_unreadable given read
    refine ⟨?_, ?_, ⟨"", ?_⟩, fun _ _ => ?_, options.response_verbose given contents⟩ <;>
      simp [nothing]
  | some source =>
    have printed := fun options : Options => options.output_of_source given read
    simp only [printed, exitCode_of_source _ given read]
    obtain ⟨both, parts⟩ := options.printed_showing source
    obtain ⟨longer, equal⟩ := options.printed_recovering source
    exact ⟨both, parts, longer, fun _ => equal, options.response_verbose given contents⟩

end TypedDecl.CommandLine
