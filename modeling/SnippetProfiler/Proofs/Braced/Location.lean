import Mathlib.Data.List.Forall2
import SnippetProfiler.Braced.Handler
import SnippetProfiler.Proofs.Braced.Alignment
import SnippetProfiler.Proofs.Sandbox.Stream

/-!
# The lines of failures

A program that ends without a terminal frame fails at a line that is not known.  The handler takes
the line from the first place in the program that the standard error names, less the header lines.

A place in the header counts as none.  Nothing excludes the footer: the line of a failure lies in the
snippet exactly when the place is not behind the lines of the snippet.
-/

namespace SnippetProfiler

/-! ### Silent children -/

namespace Sandbox

/-- A child is silent when it starts and exits, its lines may have octets, none of them breaks the
run, and none of them has a terminal frame. -/
structure Child.IsSilent (child : Child) (limit : Int) : Prop where
  started : child.refused = none
  readable : 0 < limit
  closed : (child.lines limit).2 = .closed
  lines : ∀ line ∈ child.texts limit, ¬ Breaks line
  terminal : firstTerminal (child.texts limit) = none

variable {host : Host} {s : Sandbox} {child : Child}

/-- A run of a silent child fails with its exit code and its standard error. -/
theorem run_of_silent (hs : s.state = .instrumented) (hthere : s.files.isSome = true)
    {arguments : List String} (hstarts : host.Starts s.limits arguments)
    (h : child.IsSilent s.limits.lineLength) (input : List String) :
  (s.run host child arguments input Reading.takesAll).2.outcome
    = .ok (silentOutcome child.exitCode (textOf child.errors))
  := by
  have horderly : child.IsOrderly s.limits.lineLength := by
    refine ⟨h.readable, h.lines, fun _ t ht => ?_⟩
    have hnone := h.terminal
    rw [firstTerminal, ht] at hnone
    cases hnone
  obtain ⟨outcome, hrun⟩ := (run_isOk_iff s child input host arguments hs).mpr
    ⟨hthere, hstarts, fun _ => horderly⟩
  obtain ⟨r, hread, houtcome, -⟩ := run_of_closed h.started h.closed hrun
  have hterminal : r.terminal = none := by
    rw [Reading.lines_of_read hread, Reading.terminal_foldl_after, h.terminal]
    rfl
  rw [Reading.outcome, hterminal] at houtcome
  rw [hrun, ← houtcome]

/-- A file whose path is a name is put into the directory under this name. -/
theorem stage_of_name (file : String) {names : List String} (hfiles : s.files = some names)
    (hnull : file.toList.contains '\x00' = false)
    (hparts : (Text.splitOnChar '/' file.toList).map String.ofList = [file])
    (hname : nameAt [] [file] = .ok (some file)) :
  (s.stage file false).1 = { s with files := some (insertName names file) }
    ∧ (s.state = .created → (s.stage file true).1
        = { s with files := some (insertName names file), state := .instrumented })
  := by
  have hname : nameAt names [file] = .ok (some file) := hname
  constructor
  · simp only [Sandbox.stage, hfiles, hnull, hparts, hname, Bool.false_eq_true, if_false,
      Option.map_some, Option.getD_some]
  · intro hstate
    have hmove : State.move .created .instrumented = .ok (.instrumented, true) := rfl
    simp only [Sandbox.stage, hfiles, hnull, hparts, hname, Bool.false_eq_true, if_false, if_true,
      Option.map_some, Option.getD_some, Sandbox.move, hstate, hmove, Except.map]

/-- A program runs in the sandbox with its files. -/
theorem runProgram_eq (host : Host) (s : Sandbox) (program : Program) (child : Child)
    (input : List String) (accepts : TraceEvent Float → Bool) :
  s.runProgram host program child input accepts
    = ((s.stage program.hooks false).1.stage program.script true).1.run host child
        (program.arguments
          (((s.stage program.hooks false).1.stage program.script true).1.path program.script))
        input accepts
  := rfl

end Sandbox

namespace Braced

open Sandbox (Child Host)

variable {host : Host} {limits : Sandbox.Limits} {child : Child}

/-- The files of a program can be staged, and then the sandbox is instrumented. -/
theorem stage_program (directory executable : String) (limits : Sandbox.Limits) :
  ∃ files, ((({ directory, limits } : Sandbox).stage
      (program executable).hooks false).1.stage (program executable).script true).1
    = { directory, limits, files := some files, state := .instrumented }
  := by
  have hhooks := Sandbox.stage_of_name (s := { directory, limits }) "_perfscope_probe.js"
    rfl (by decide) (by decide) (by decide)
  have hscript := Sandbox.stage_of_name
    (s := { directory, limits, files := some (Sandbox.insertName [] "_perfscope_probe.js") })
    scriptName rfl (by decide) (by decide) (by decide)
  rw [program, hhooks.1, hscript.2 rfl]
  exact ⟨_, rfl⟩

/-- The command of a snippet in a directory. -/
def commandIn (directory executable : String) : List String :=
  (program executable).arguments (directory ++ "/" ++ scriptName)

/-- An execution of a silent child fails with its exit code and its standard error. -/
theorem execute_of_silent (hpos : ¬ limits.timeout ≤ 0) {directory executable : String}
    (hstarts : host.Starts limits (commandIn directory executable))
    (h : child.IsSilent limits.lineLength) (input : List String) :
  ∃ s run, Sandbox.execute host directory limits (program executable) child input
      Sandbox.Reading.takesAll = .ok (s, run)
    ∧ run.outcome = .ok (Sandbox.silentOutcome child.exitCode (Sandbox.textOf child.errors))
  := by
  obtain ⟨files, hstaged⟩ := stage_program directory executable limits
  have houtcome : (({ directory, limits } : Sandbox).runProgram host (program executable)
      child input Sandbox.Reading.takesAll).2.outcome
    = .ok (Sandbox.silentOutcome child.exitCode (Sandbox.textOf child.errors)) := by
    rw [Sandbox.runProgram_eq, hstaged]
    exact Sandbox.run_of_silent
      (s := { directory, limits, files := some files, state := .instrumented }) rfl rfl hstarts h
      input
  rw [Sandbox.execute, Sandbox.create, if_neg hpos]
  exact ⟨_, _, rfl, houtcome⟩

/-! ### Places in standard errors -/

/-- The line of the program that a standard error names first. -/
def namedLine? (errors : String) : Option Nat := (namedDigits? errors.toList).map numberOf

/-- The line of a failure is one of the `n` lines of a snippet, or it is not known. -/
def IsWithin (n : Nat) (f : Failure) : Prop :=
  f.line = some unknownLine ∨ ∃ k : Nat, f.line = some (.number k) ∧ 1 ≤ k ∧ k ≤ n

/-- An execution that leaves a standard error ends with a failure, unless the place that is named
has too many digits to be read.  The line of the failure is not in the header. -/
structure Locates (errors : String) (ending : Except Problem Outcome) : Prop where
  fails_iff : (∃ f, ending = .ok (.failure f))
    ↔ ∀ digits, namedDigits? errors.toList = some digits → digits.length ≤ Json.digitLimit
  line : ∀ f, ending = .ok (.failure f) →
    (f.line = some unknownLine ∧ ∀ place, namedLine? errors = some place → place ≤ headerLines)
      ∨ ∃ k : Nat, f.line = some (.number k) ∧ 1 ≤ k ∧ namedLine? errors = some (headerLines + k)

/-- A failure locates a standard error in which the place can be read. -/
theorem Locates.of_failure {errors : String} {f : Failure}
    (hfew : ∀ digits, namedDigits? errors.toList = some digits → digits.length ≤ Json.digitLimit)
    (hline : (f.line = some unknownLine
        ∧ ∀ place, namedLine? errors = some place → place ≤ headerLines)
      ∨ ∃ k : Nat, f.line = some (.number k) ∧ 1 ≤ k ∧ namedLine? errors = some (headerLines + k)) :
  Locates errors (.ok (.failure f))
  := by
  constructor
  · constructor
    · intro _
      exact hfew
    · intro _
      use f
  · rintro g ⟨⟩
    exact hline

/-- A failure is within a snippet exactly when the place that is named is not behind the lines of
the snippet. -/
theorem Locates.within_iff {errors : String} {ending : Except Problem Outcome}
    (h : Locates errors ending) {f : Failure} (hf : ending = .ok (.failure f)) (n : Nat) :
  IsWithin n f ↔ ∀ place, namedLine? errors = some place → place ≤ headerLines + n
  := by
  obtain ⟨hline, hplace⟩ | ⟨k, hline, hk, hplace⟩ := h.line f hf
  · constructor
    · intro _ place hnamed
      have := hplace place hnamed
      omega
    · intro _
      left
      exact hline
  · constructor
    · rintro (hunknown | ⟨j, hj, -, hjn⟩) place hnamed
      · rw [hline] at hunknown
        cases hunknown
      · rw [hline] at hj
        cases hj
        rw [hplace] at hnamed
        cases hnamed
        omega
    · intro hn
      right
      have := hn _ hplace
      exact ⟨k, hline, hk, by omega⟩

/-- The line of a failure that is not known is taken from the place that the stack names. -/
theorem locate_of_unknown {f : Failure} (hkind : f.kind = .runtimeError)
    (hline : f.line = some unknownLine) :
  locate f = match namedDigits? (f.stack.getD "").toList with
    | some digits =>
      if Json.digitLimit < digits.length then .error (.tooManyDigits digits.length)
      else .ok (if headerLines < numberOf digits then
        { f with line := some (.number (numberOf digits - headerLines)) } else f)
    | none => .ok f
  := by
  have hunknown : (f.kind = .runtimeError && f.line = some unknownLine) = true := by
    rw [hkind, hline]
    rfl
  exact if_pos hunknown

/-- The stack of a silent child is its standard error. -/
theorem silentOutcome_eq (exitCode : Int) (errors : String) :
  ∃ f : Failure, Sandbox.silentOutcome exitCode errors = .failure f ∧ f.kind = .runtimeError
    ∧ f.line = some unknownLine ∧ f.stack.getD "" = errors
  := by
  refine ⟨_, rfl, rfl, rfl, ?_⟩
  show (if errors.isEmpty then none else some errors).getD "" = errors
  cases hempty : errors.isEmpty with
  | true =>
      rw [String.isEmpty_iff] at hempty
      rw [hempty]
      rfl
  | false => rfl

/-- The failure of a silent child is located by its standard error. -/
theorem locates_of_silent {run : Sandbox.Run} {exitCode : Int} {errors : String}
    (h : run.outcome = .ok (Sandbox.silentOutcome exitCode errors)) (gate : Option String) :
  Locates errors (performance gate run).ending
  := by
  obtain ⟨f, hsilent, hkind, hunknown, hstack⟩ := silentOutcome_eq exitCode errors
  have hending : (performance gate run).ending
      = ((locate f).map .failure).mapError fun e => .handler (e.message []) := by
    simp only [performance, Performance.ofRun, h, hsilent, Except.mapError, Except.bind,
      locateOutcome]
  rw [hending, locate_of_unknown hkind hunknown, hstack]
  cases hdigits : namedDigits? errors.toList with
  | none =>
      apply Locates.of_failure
      · rw [hdigits]
        rintro digits ⟨⟩
      · left
        use hunknown
        rw [namedLine?, hdigits]
        rintro place ⟨⟩
  | some digits =>
      have hnamed : namedLine? errors = some (numberOf digits) := by
        rw [namedLine?, hdigits]
        rfl
      by_cases hmany : Json.digitLimit < digits.length
      · simp only [if_pos hmany]
        constructor
        · constructor
          · rintro ⟨f, ⟨⟩⟩
          · intro hfew
            have := hfew digits hdigits
            omega
        · rintro f ⟨⟩
      · simp only [if_neg hmany]
        apply Locates.of_failure
        · rw [hdigits]
          rintro _ ⟨⟩
          omega
        · rw [hnamed]
          by_cases hplace : headerLines < numberOf digits
          · right
            have hsplit : headerLines + (numberOf digits - headerLines) = numberOf digits := by
              omega
            rw [if_pos hplace]
            refine ⟨numberOf digits - headerLines, ?_, by omega, by rw [hsplit]⟩
            show some (FailureLine.number (numberOf digits - headerLines)) = _
            rw [Int.ofNat_sub hplace.le]
          · left
            rw [if_neg hplace]
            use hunknown
            rintro place ⟨⟩
            omega

/-! ### Failures of snippets -/

/-- A program is aligned with its snippet, whether or not it was rewritten. -/
theorem prepare_isAligned (check : CheckAnswer) (source : String) (o : TrackingOptions) :
  ∃ strict hooks, IsAligned source o strict hooks (prepare check source o)
  := by
  have hplain : IsAligned source o (beginsStrict source) [] (plain source o) := by
    apply isAligned_assemble _ o (interleaved_self _)
    rintro _ ⟨⟩
  rw [prepare]
  split
  · exact ⟨_, _, hplain⟩
  · cases hfound : analyse source with
    | error e =>
        rw [instrument, hfound]
        exact ⟨_, _, hplain⟩
    | ok found =>
        obtain ⟨tokens, hooks⟩ := found
        obtain ⟨hscan, hplan⟩ := analyse_eq_ok.mp hfound
        obtain ⟨hinserts, hwoven⟩ := inserts_of_plan hscan hplan
        rw [← String.toList_ofList (l := weave source.toList hooks)] at hwoven
        rw [instrument, hfound]
        refine ⟨_, _, isAligned_assemble _ o hwoven ?_⟩
        rw [List.forall_mem_map]
        intro i hi
        apply hinserts.newline_notMem i (List.mem_mergeSort.mp hi)

/-- A program has the lines of the snippet, the header lines, and those of the footer. -/
theorem IsAligned.length_lines {source program : String} {o : TrackingOptions} {strict : Bool}
    {hooks : List Hook} (h : IsAligned source o strict hooks program) :
  (program.toList.splitOn '\n').length
    = headerLines + (source.toList.splitOn '\n').length + (footer.length + 1)
  := by
  obtain ⟨body, hlines, hheader, -, hbody⟩ := h
  rw [hlines, hbody.length_eq]
  simp only [List.length_append, List.length_map, hheader, List.length_cons, List.length_nil]

/-- A silent child makes an execution fail, unless a place with too many digits cannot be read.  The
line of the failure is a line of the snippet or not known exactly when the standard error names no
line of the program behind the lines of the snippet. -/
theorem failure_isWithin_iff (check : CheckAnswer) (source : String) (o : TrackingOptions)
    (hpos : ¬ limits.timeout ≤ 0) {directory executable : String}
    (hstarts : host.Starts limits (commandIn directory executable))
    (h : child.IsSilent limits.lineLength) (input : List String) (gate : Option String) :
  (∃ strict hooks, IsAligned source o strict hooks (prepare check source o))
    ∧ ∃ s run, Sandbox.execute host directory limits (program executable) child input
        Sandbox.Reading.takesAll = .ok (s, run)
      ∧ Locates (Sandbox.textOf child.errors) (performance gate run).ending
      ∧ ∀ f n, (performance gate run).ending = .ok (.failure f) →
          (IsWithin n f ↔ ∀ place, namedLine? (Sandbox.textOf child.errors) = some place →
            place ≤ headerLines + n)
  := by
  obtain ⟨s, run, hrun, houtcome⟩ := execute_of_silent hpos hstarts h input
  have hlocates := locates_of_silent houtcome gate
  use prepare_isAligned check source o, s, run, hrun, hlocates
  intro f n hf
  apply hlocates.within_iff hf

/-- The limits of a snippet that may take a second. -/
def brief : Sandbox.Limits := { timeout := 1 }

/-- A child that complains of the first line behind a snippet with one line, as an engine does of a
construct that is not closed. -/
def complaining : Child :=
  { errors := Sandbox.octetsOf "/tmp/snippet.js:6\n\x7d catch (__probeError) \x7b\n", exitCode := 1 }

theorem complaining_isSilent :
  complaining.IsSilent brief.lineLength
  := by
  constructor
  · rfl
  · decide
  · decide
  · have hnone : complaining.texts brief.lineLength = [] := by decide
    rw [hnone]
    rintro line ⟨⟩
  · decide

theorem namedLine?_complaining :
  namedLine? (Sandbox.textOf complaining.errors) = some 6
  := by
  decide

theorem brief_hasTime :
  ¬ brief.timeout ≤ 0
  := by decide

theorem starts_brief :
  Host.bare.Starts brief (commandIn "/tmp" "node")
  := by
  constructor
  · apply List.cons_ne_nil
  · decide
  · apply Option.isSome_iff_exists.mp
    decide +kernel

/-- The sixth line is behind a snippet with one line, and within a snippet with two lines. -/
theorem failure_isWithin_iff_complaining :
  ∃ s run, Sandbox.execute .bare "/tmp" brief (program "node") complaining []
      Sandbox.Reading.takesAll = .ok (s, run)
    ∧ ∃ f, (performance none run).ending = .ok (.failure f) ∧ ¬ IsWithin 1 f ∧ IsWithin 2 f
  := by
  obtain ⟨-, s, run, hrun, hlocates, hwithin⟩ := failure_isWithin_iff .silent "function f() \x7b" {}
    brief_hasTime starts_brief complaining_isSilent [] none
  obtain ⟨f, hf⟩ := hlocates.fails_iff.mpr (by decide)
  refine ⟨s, run, hrun, f, hf, ?_, ?_⟩
  · rw [hwithin f 1 hf, namedLine?_complaining]
    decide
  · rw [hwithin f 2 hf, namedLine?_complaining]
    decide

/-- A failure may have a line behind the snippet, the standard error naming a line of the
program. -/
theorem failure_not_always_isWithin :
  ¬ ∀ (check : CheckAnswer) (source : String) (o : TrackingOptions) (limits : Sandbox.Limits)
      (child : Child) (host : Host) (directory executable : String) (input : List String)
      (gate : Option String) (s : Sandbox) (run : Sandbox.Run) (f : Failure),
        ¬ limits.timeout ≤ 0 → child.IsSilent limits.lineLength →
        (∀ place, namedLine? (Sandbox.textOf child.errors) = some place →
          place ≤ ((prepare check source o).toList.splitOn '\n').length) →
        Sandbox.execute host directory limits (program executable) child input
          Sandbox.Reading.takesAll = .ok (s, run) →
        (performance gate run).ending = .ok (.failure f) →
        IsWithin (source.toList.splitOn '\n').length f
  := by
  intro h
  obtain ⟨s, run, hrun, houtcome⟩ := execute_of_silent brief_hasTime starts_brief
    complaining_isSilent []
  have hlocates := locates_of_silent houtcome none
  obtain ⟨f, hf⟩ := hlocates.fails_iff.mpr (by decide)
  obtain ⟨strict, hooks, haligned⟩ := prepare_isAligned .silent "function f() \x7b" {}
  have hplace : ∀ place, namedLine? (Sandbox.textOf complaining.errors) = some place →
      place ≤ ((prepare .silent "function f() \x7b" {}).toList.splitOn '\n').length := by
    rw [namedLine?_complaining, haligned.length_lines]
    rintro place ⟨⟩
    decide
  have hwithin := h .silent "function f() \x7b" {} brief complaining .bare "/tmp" "node" [] none s run f
    brief_hasTime complaining_isSilent hplace hrun hf
  rw [hlocates.within_iff hf, namedLine?_complaining] at hwithin
  revert hwithin
  decide

end Braced

end SnippetProfiler
