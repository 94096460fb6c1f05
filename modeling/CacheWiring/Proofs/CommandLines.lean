import CacheWiring.Command.Run
import CacheWiring.Proofs.Traces

namespace CacheWiring

variable {σ α β : Type} (h : Handler σ)

/-- A first part without a trace of its own leaves none. -/
theorem Run.andThen_silent (a : α) (s : σ) (next : α → σ → Run σ β) :
    (Run.mk (.ok a) s []).andThen next = next a s := rfl

theorem Run.andThen_assoc {γ : Type} (r : Run σ α) (next : α → σ → Run σ β)
    (last : β → σ → Run σ γ) :
    (r.andThen next).andThen last = r.andThen fun a s => (next a s).andThen last := by
  obtain ⟨outcome, s, trace⟩ := r
  cases outcome with
  | error fault => rfl
  | ok a => exact Run.andThen_prefixed (next a s) trace last

def Happening.isLog : Happening → Bool
  | .said (.log _) => true
  | _ => false

def Run.quiet (r : Run σ α) : Run σ α :=
  { r with trace := r.trace.filter fun happening => !happening.isLog }

theorem run_quiet (p : Program α) (s : σ) : p.quiet.run h s = (p.run h s).quiet := by
  induction p generalizing s with
  | done outcome => rfl
  | emit output next ih =>
    cases output with
    | log record => exact ih s
    | line text => simp only [Program.quiet, Program.run, ih]; rfl
    | complaint text => simp only [Program.quiet, Program.run, ih]; rfl
  | ask request next ih => simp only [Program.quiet, Program.run, ih]; rfl

theorem filterMap_quiet {γ : Type} {f : Happening → Option γ}
    (hf : ∀ record, f (.said (.log record)) = none) (r : Run σ α) :
    r.quiet.trace.filterMap f = r.trace.filterMap f := by
  simp only [Run.quiet, List.filterMap_filter]
  apply List.filterMap_congr
  intro happening _
  cases happening with
  | asked request reply => rfl
  | said output =>
    cases output with
    | log record => exact (hf record).symm
    | line text => rfl
    | complaint text => rfl

theorem requests_quiet (r : Run σ α) : requests r.quiet.trace = requests r.trace :=
  filterMap_quiet (fun _ => rfl) r

theorem spoken_quiet (r : Run σ α) : spoken r.quiet.trace = spoken r.trace :=
  filterMap_quiet (fun _ => rfl) r

/-- A stop ends a run with status 1 and its text. -/
def Run.stopped (r : Run σ Nat) : Run σ Nat :=
  match r.outcome with
  | .error (.stop reason) => ⟨.ok 1, r.state, r.trace ++ [.said (.complaint reason.message)]⟩
  | _ => r

theorem run_stopped (p : Program Nat) (s : σ) :
    (Command.stopped p).run h s = (p.run h s).stopped := by
  simp only [Command.stopped, Program.run_bind, Program.run_attempt, Run.andThen_ok]
  obtain ⟨outcome, s', trace⟩ := p.run h s
  unfold Run.stopped
  dsimp only
  split
  · rfl
  · simp only [Program.run_ofExcept, List.append_nil]

/-- The complaint about a stop is no request. -/
theorem requests_stopped (r : Run σ Nat) : requests r.stopped.trace = requests r.trace := by
  unfold Run.stopped
  split
  · rw [requests_append]
    exact List.append_nil _
  · rfl

/-- What is left of a run on a command line: stops have become complaints, and the log is kept only
if it is asked for. -/
def Run.shown (verbose : Bool) (r : Run σ Nat) : Run σ Nat :=
  if verbose then r.stopped else r.stopped.quiet

theorem run_command (engines : Engines) {texts : List Text} {setting : Option Text}
    {invocation : Invocation} (understood : Invocation.ofTexts texts = .ok invocation) (s : σ) :
    (Command.run engines setting texts).run h s =
      ((Command.carryOut engines setting invocation).run h s).shown invocation.verbose := by
  simp only [Command.run, understood, Run.shown]
  cases invocation.verbose with
  | true => exact run_stopped h _ s
  | false => rw [← run_stopped]; exact run_quiet h _ s

theorem requests_shown (verbose : Bool) (r : Run σ Nat) :
    requests (r.shown verbose).trace = requests r.trace := by
  cases verbose with
  | true => exact requests_stopped r
  | false => exact (requests_quiet r.stopped).trans (requests_stopped r)

/-- A run that ended with a status is shown as ending with it. -/
theorem Run.shown_ok {r : Run σ Nat} {status : Nat} (hr : r.outcome = .ok status)
    (verbose : Bool) : (r.shown verbose).outcome = .ok status := by
  have hstopped : r.stopped = r := by
    unfold Run.stopped
    rw [hr]
  cases verbose <;> simp [Run.shown, Run.quiet, hstopped, hr]

/-- One that failed ends in a complaint, or with a fault that is no stop; the user is told nothing
else. -/
theorem Run.shown_error {r : Run σ Nat} {fault : Fault} (hr : r.outcome = .error fault)
    (tacit : spoken r.trace = []) (verbose : Bool) :
    (∃ reason, fault = .stop reason ∧ (r.shown verbose).outcome = .ok 1 ∧
        spoken (r.shown verbose).trace = [.complaint reason.message]) ∨
      ((∀ reason, fault ≠ .stop reason) ∧ (r.shown verbose).outcome = .error fault ∧
        spoken (r.shown verbose).trace = []) := by
  have hspoken : spoken (r.shown verbose).trace = spoken r.stopped.trace := by
    cases verbose with
    | true => rfl
    | false => exact spoken_quiet r.stopped
  have houtcome : (r.shown verbose).outcome = r.stopped.outcome := by cases verbose <;> rfl
  rw [hspoken, houtcome]
  by_cases hs : ∃ reason, fault = .stop reason
  · obtain ⟨reason, rfl⟩ := hs
    left
    refine ⟨reason, rfl, ?_⟩
    unfold Run.stopped
    rw [hr]
    refine ⟨rfl, ?_⟩
    rw [spoken_append, tacit]
    rfl
  · right
    have hstopped : r.stopped = r := by
      unfold Run.stopped
      split
      · rename_i reason he
        rw [hr] at he
        exact absurd ⟨reason, Except.error.inj he⟩ hs
      · rfl
    rw [hstopped]
    exact ⟨fun reason he => hs ⟨reason, he⟩, hr, tacit⟩

/-- A fault of cache wiring as the stop that it is for a command. -/
def Fault.asStop (fault : Fault) : Fault :=
  if fault.isWiring then .stop (.resolutionFailed fault.message) else fault

theorem run_orStop (p : Program α) (s : σ) :
    (Command.orStop p).run h s =
      ⟨(p.run h s).outcome.mapError Fault.asStop, (p.run h s).state, (p.run h s).trace⟩ := by
  simp only [Command.orStop, Program.run_bind, Program.run_attempt, Run.andThen_ok]
  obtain ⟨outcome, s', trace⟩ := p.run h s
  cases outcome with
  | error fault => simp [Fault.asStop, Except.mapError]
  | ok a => simp [Except.mapError]

/-- The parts of a sequence are stopped one after the other. -/
theorem run_orStop_bind (p : Program α) (f : α → Program β) (s : σ) :
    (Command.orStop (p >>= f)).run h s =
      ((Command.orStop p).run h s).andThen fun a s => (Command.orStop (f a)).run h s := by
  simp only [run_orStop, Program.run_bind]
  obtain ⟨outcome, s', trace⟩ := p.run h s
  cases outcome <;> rfl

end CacheWiring
