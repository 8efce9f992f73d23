import WorkspaceSchema.Program
import WorkspaceSchema.Proofs.CommandLine
import WorkspaceSchema.Proofs.Run.DryRun

/-!
# What the program changes

The program changes a directory only by sending a document there, and only a run sends anything.  From
the command line down to the wire, nothing turns a dry run into one in earnest: the settings are those
of a dry run wherever one is asked for (`dryRun_of_parse`), and the run of such settings sends no
document (`exists_trail_of_dry`).

The exit code is read off the three ways in which the program may end before or after the run.  Whether there
was a run can be told from the first line of the error stream, which begins with the configuration if there was
one (`run_eq_execute_iff`).
-/

namespace WorkspaceSchema.Program

variable (env : CommandLine.Environment) (arguments : List String) (files : Files) (b : Session)

/-- The program gets to its run: the command line is understood, and its settings make sense. -/
def Starts (s : Settings) : Prop :=
  CommandLine.parse env arguments = .ok s ∧ s.fault? = none

/-- The program was only asked about itself. -/
def Informs : Prop :=
  (∃ long, CommandLine.parse env arguments = .error (.help long)) ∨
    CommandLine.parse env arguments = .error .version

/-- A program that gets to its run leaves behind what the run leaves. -/
lemma run_of_starts {s : Settings} (starts : Starts env arguments s) :
    run env arguments files b = execute s files b := by
  unfold run
  rw [starts.1]
  dsimp only
  rw [starts.2]

/-- A program that does not get to its run does nothing, and says by its exit code whether it was only
asked about itself. -/
lemma run_of_not_starts (short : ∀ s, ¬Starts env arguments s) :
    (run env arguments files b).2 = b ∧
      ((run env arguments files b).1.exitCode = 0 ↔ Informs env arguments) := by
  unfold Informs run
  rcases parsed : CommandLine.parse env arguments with stop | s
  · rcases stop with long | ⟨⟩ | refusal
    · exact ⟨rfl, iff_of_true rfl (.inl ⟨long, rfl⟩)⟩
    · exact ⟨rfl, iff_of_true rfl (.inr rfl)⟩
    · exact ⟨rfl, iff_of_false (Nat.succ_ne_zero 1) (by simp)⟩
  · dsimp only
    rcases fault : s.fault? with _ | fault
    · exact absurd ⟨parsed, fault⟩ (short s)
    · exact ⟨rfl, iff_of_false Nat.one_ne_zero (by simp)⟩

/-- A run tells its configuration first. -/
lemma head?_stderr_execute (s : Settings) :
    (execute s files b).1.stderr.head? = some (info ("Configuration: " ++ s.describe)) := by
  unfold execute
  rcases Run.run s files b with ⟨e | outcome, after⟩ <;> rfl

/-- A refusal of settings begins otherwise. -/
lemma head?_errorLines_ne (message text : String) : (errorLines message []).head? ≠ some (info text) := by
  unfold errorLines causeLines
  cases (lines message.toList).map String.ofList with
  | nil => simp
  | cons line others =>
    intro same
    have same := congrArg String.toList (Option.some.inj same)
    have mark : "Error: ".toList = 'E' :: "rror: ".toList := rfl
    have level : "INFO ".toList = 'I' :: "NFO ".toList := rfl
    unfold info at same
    rw [String.toList_append, String.toList_append, String.toList_append, mark, level] at same
    simp at same

/-- Of a command line that is understood comes a run exactly if nothing is wrong with the settings, and nothing at
all is done otherwise. -/
lemma run_eq_execute_iff {s : Settings} (parsed : CommandLine.parse env arguments = .ok s) :
    (run env arguments files b = execute s files b ↔ s.fault? = none) ∧
      (s.fault? ≠ none → (run env arguments files b).2 = b) := by
  cases fault : s.fault? with
  | none => exact ⟨iff_of_true (run_of_starts env arguments files b ⟨parsed, fault⟩) rfl, fun h => absurd rfl h⟩
  | some f =>
    have refused : run env arguments files b = ({ exitCode := 1, stderr := errorLines f.message [] }, b) := by
      unfold run
      rw [parsed]
      dsimp only
      rw [fault]
    rw [refused]
    refine ⟨iff_of_false ?_ (fun h => nomatch h), fun _ => rfl⟩
    intro same
    have first := head?_stderr_execute files b s
    rw [← same] at first
    exact head?_errorLines_ne _ _ first

/-- The session after a run is that of the run. -/
lemma execute_snd (s : Settings) : (execute s files b).2 = (Run.run s files b).2 := by
  unfold execute
  rcases Run.run s files b with ⟨e | outcome, after⟩ <;> rfl

/-- The exit code after a run says whether it succeeded. -/
lemma exitCode_execute_eq_zero_iff (s : Settings) :
    (execute s files b).1.exitCode = 0 ↔ ∃ outcome, (Run.run s files b).1 = .ok outcome := by
  unfold execute
  rcases Run.run s files b with ⟨e | outcome, after⟩
  · exact iff_of_false Nat.one_ne_zero fun ⟨_, h⟩ => nomatch h
  · exact iff_of_true rfl ⟨outcome, rfl⟩

/-- A program that is asked for a dry run, by its arguments or by an environment that says anything
about it but that it is none, sends no document.  In any case nothing at all is sent unless the command
line is understood and the settings make sense, and the exit code is zero only if then the run succeeds,
or if the program is only asked about itself. -/
theorem run_spares_directory (clock : Clock) (network : Http.Network) :
    let b : Session := { clock, network }
    ("--dry-run" ∈ arguments ∨ (∃ v, env "DRYRUN" = some v ∧ v ≠ "false") →
      ∃ trail, (run env arguments files b).2.network.sent = network.sent ++ trail ∧
        ∀ sent ∈ trail, ∀ text, sent.body ≠ some (.json text)) ∧
      ((∃ s, Starts env arguments s) ∨ (run env arguments files b).2 = b) ∧
      ((run env arguments files b).1.exitCode = 0 ↔ Informs env arguments ∨
        ∃ s outcome, Starts env arguments s ∧ (Run.run s files b).1 = .ok outcome) := by
  intro b
  by_cases begun : ∃ s, Starts env arguments s
  · obtain ⟨s, starts⟩ := begun
    rw [run_of_starts env arguments files b starts, execute_snd, exitCode_execute_eq_zero_iff]
    refine ⟨fun asked => ?_, .inl ⟨s, starts⟩, ?_⟩
    · exact Run.exists_trail_of_dry (CommandLine.dryRun_of_parse starts.1 asked) files rfl
    · constructor
      · rintro ⟨outcome, ended⟩
        exact .inr ⟨s, outcome, starts, ended⟩
      · rintro ((⟨long, asked⟩ | asked) | ⟨s', outcome, starts', ended⟩)
        · exact absurd (starts.1.symm.trans asked) (fun h => nomatch h)
        · exact absurd (starts.1.symm.trans asked) (fun h => nomatch h)
        · obtain rfl : s = s' := Except.ok.inj (starts.1.symm.trans starts'.1)
          exact ⟨outcome, ended⟩
  · have short : ∀ s, ¬Starts env arguments s := fun s starts => begun ⟨s, starts⟩
    obtain ⟨still, code⟩ := run_of_not_starts env arguments files b short
    rw [still, code]
    refine ⟨fun _ => ⟨[], (List.append_nil _).symm, by simp⟩, .inr rfl, ?_⟩
    refine (or_iff_left ?_).symm
    rintro ⟨s, outcome, starts, -⟩
    exact short s starts

end WorkspaceSchema.Program
