import CacheWiring.Proofs.AllOrNothing
import CacheWiring.Proofs.CommandLines
import CacheWiring.Proofs.RoundTrips
import CacheWiring.Proofs.Startup

namespace CacheWiring

variable {σ : Type} (h : Handler σ)

theorem load_offline (path : Text) : (Configuration.load path).Only Happening.Offline := by
  refine (Program.Only.offline (by trivial)).bind fun there => .ite (.fail _) ?_
  exact ((Program.Only.offline (by trivial)).bind fun _ => .pure _).bind fun _ =>
    .ofExcept _

/-- The shipped factory connects a client but does not call it. -/
theorem bindCluster_aside (options : ClientOptions) (cluster : ResolvedCluster) :
    (Registry.bindCluster .shipped options cluster).Only Happening.Aside :=
  bindCluster_only (fun _ _ _ => ⟨rfl, rfl⟩) (fun _ => ⟨rfl, rfl⟩) options cluster

namespace Command

/-- What a command does before it connects to any cache, and then the startup. -/
def wiring (setting given : Option Text) : Program CachingContext := do
  let path ← Program.ofExcept (chosenPath given setting)
  let c ← Configuration.load path
  c.start .shipped ⟨none, none⟩

end Command

/-- A startup that returns a context has called no client and told the user nothing. -/
theorem start_aside {c : Configuration} {context : CachingContext} {s : σ}
    (hc : ((c.start .shipped ⟨none, none⟩).run h s).outcome = .ok context) :
    context.closed = false ∧ calls ((c.start .shipped ⟨none, none⟩).run h s).trace = [] ∧
      spoken ((c.start .shipped ⟨none, none⟩).run h s).trace = [] := by
  have hresolving := (resolveClusters_offline c .shipped ⟨none, none⟩).aside
  have hbinding (clusters : List ResolvedCluster) :=
    Program.Only.each (bindCluster_aside c.client) clusters
  rw [run_start] at hc ⊢
  obtain ⟨resolved, hr, hc⟩ := Run.andThen_outcome_ok.mp hc
  obtain ⟨registry, hb, hc⟩ := Run.andThen_outcome_ok.mp hc
  cases hc
  obtain ⟨record, htrace⟩ := Registry.build_ok_trace h .shipped c.client hb
  rw [Run.andThen_of_ok hr, Run.andThen_of_ok hb, htrace]
  refine ⟨rfl, ?_, ?_⟩
  · simp [hresolving.uncalled.calls_eq_nil, (hbinding _).uncalled.calls_eq_nil]
  · simp [hresolving.tacit.spoken_eq_nil, (hbinding _).tacit.spoken_eq_nil]

theorem wiring_aside {setting given : Option Text} {context : CachingContext} {s : σ}
    (hc : ((Command.wiring setting given).run h s).outcome = .ok context) :
    context.closed = false ∧ calls ((Command.wiring setting given).run h s).trace = [] ∧
      spoken ((Command.wiring setting given).run h s).trace = [] := by
  simp only [Command.wiring, Program.run_bind, Program.run_ofExcept] at hc ⊢
  obtain ⟨path, hp, hc⟩ := Run.andThen_outcome_ok.mp hc
  obtain ⟨c, hl, hc⟩ := Run.andThen_outcome_ok.mp hc
  obtain ⟨hopen, hcalls, hspoken⟩ := start_aside h hc
  rw [Run.andThen_of_ok hp, Run.andThen_of_ok hl]
  have hloading := (load_offline path).aside
  refine ⟨hopen, ?_, ?_⟩
  · simp [hloading.uncalled.calls_eq_nil, hcalls]
  · simp [hloading.tacit.spoken_eq_nil, hspoken]

/-- What can be seen of a run from outside. -/
@[ext]
structure Account (α : Type) where
  outcome : Except Fault α
  calls : List Called
  spoken : List Output

def Run.account {α : Type} (r : Run σ α) : Account α := ⟨r.outcome, calls r.trace, spoken r.trace⟩

theorem Run.account_outcome {α : Type} (r : Run σ α) : r.account.outcome = r.outcome := rfl

theorem run_sayAll (lines : List Text) (s : σ) :
    (Program.sayAll lines).run h s = ⟨.ok (), s, lines.map fun text => .said (.line text)⟩ := by
  have heach (s : σ) : (Program.each (fun text => Program.tell (.line text)) lines).run h s =
      ⟨.ok (lines.map fun _ => ()), s, lines.map fun text => .said (.line text)⟩ := by
    induction lines with
    | nil => rfl
    | cons text rest ih => simp [Program.run_each_cons, ih]
  simp [Program.sayAll, Program.run_bind, heach]

theorem spoken_lines (lines : List Text) :
    spoken (lines.map fun text => .said (.line text)) = lines.map Output.line := by
  rw [spoken, List.filterMap_map]
  exact congrFun (@List.filterMap_eq_map _ _ Output.line) lines

theorem calls_lines (lines : List Text) :
    calls (lines.map fun text => .said (.line text)) = [] := by
  rw [calls, List.filterMap_map]
  exact List.filterMap_eq_nil_iff.mpr fun _ _ => rfl

/-- A first part that ended well and of which nothing is seen can be left out. -/
theorem account_andThen {α β : Type} {r : Run σ α} {a : α} (hr : r.outcome = .ok a)
    (hcalls : calls r.trace = []) (hspoken : spoken r.trace = []) (next : α → σ → Run σ β) :
    (r.andThen next).account = (next a r.state).account := by
  rw [Run.andThen_of_ok hr, Run.account, calls_append, spoken_append, hcalls, hspoken]
  rfl

/-- Leaving the log out changes nothing of it. -/
theorem account_quiet {α : Type} (p : Program α) (s : σ) :
    (p.quiet.run h s).account = (p.run h s).account := by
  rw [run_quiet]
  exact Account.ext rfl (filterMap_quiet (fun _ => rfl) _) (spoken_quiet _)

/-- A stop ends a command line with status 1 and its text. -/
def Account.stopped (account : Account Nat) : Account Nat :=
  match account.outcome with
  | .error (.stop reason) =>
    ⟨.ok 1, account.calls, account.spoken ++ [.complaint reason.message]⟩
  | _ => account

theorem stopped_of_no_stop {account : Account Nat}
    (hno : ∀ reason, account.outcome ≠ .error (.stop reason)) : account.stopped = account := by
  unfold Account.stopped
  split
  · rename_i reason he
    exact absurd he (hno reason)
  · rfl

theorem account_stopped (p : Program Nat) (s : σ) :
    ((Command.stopped p).run h s).account = (p.run h s).account.stopped := by
  rw [run_stopped]
  obtain ⟨outcome, s', trace⟩ := p.run h s
  cases outcome with
  | ok status => rfl
  | error fault =>
    cases fault with
    | stop reason =>
      exact Account.ext rfl ((calls_append _ _).trans (List.append_nil _)) (spoken_append _ _)
    | _ => rfl

namespace Command

def checking (context : CachingContext) : Program (List CheckResult) := do
  let results ← (Program.each checkCache context.registry.caches).attempt
  let (outcome, _) ← context.leave results
  Program.ofExcept outcome

def reporting (results : List CheckResult) : Program Nat := do
  Program.sayAll (CheckResult.report results)
  return if results.any CheckResult.failed then 1 else 0

theorem showChecked_eq (engines : Engines) (c : Configuration) :
    showChecked engines c = (do
      let context ← orStop (c.start engines ⟨none, none⟩)
      checking context) >>= reporting := rfl

end Command

theorem run_reporting (results : List CheckResult) (s : σ) :
    (Command.reporting results).run h s =
      ⟨.ok (if results.any CheckResult.failed then 1 else 0), s,
        (CheckResult.report results).map fun text => .said (.line text)⟩ := by
  simp [Command.reporting, Program.run_bind, run_sayAll]

/-- Leaving an open context closes its caches, and a fault in that replaces the outcome. -/
theorem run_leave_open {α : Type} {context : CachingContext} (hopen : context.closed = false)
    (outcome : Except Fault α) (s : σ) :
    let closing := (Registry.closeAll context.registry.caches).run h s
    let leaving := (context.leave outcome).run h s
    (∃ after, leaving.outcome = .ok (closing.outcome >>= fun _ => outcome, after)) ∧
      calls leaving.trace = calls closing.trace ∧ spoken leaving.trace = spoken closing.trace := by
  simp only [run_leave, run_close_open h hopen]
  obtain ⟨closed, s', trace⟩ := (Registry.closeAll context.registry.caches).run h s
  cases closed with
  | error fault => exact ⟨⟨context, rfl⟩, rfl, rfl⟩
  | ok _ => exact ⟨⟨{ context with closed := true }, rfl⟩, by simp⟩

theorem closeAll_tacit (caches : List Cache) :
    (Registry.closeAll caches).Only Happening.Tacit := closeAll_only (fun _ _ => rfl) caches

/-- A context is done with when the round trips have been made and the caches been closed. A close
that fails spoils the results, whatever has become of them. -/
theorem account_checking {context : CachingContext} (hopen : context.closed = false) (s : σ) :
    let trips := (Program.each Command.checkCache context.registry.caches).run h s
    let closing := (Registry.closeAll context.registry.caches).run h trips.state
    let tried := trials h context.registry.caches s
    ((Command.checking context).run h s).account =
      ⟨closing.outcome >>= fun _ => gathered tried,
        tried.flatMap Trial.calls ++ calls closing.trace, []⟩ := by
  intro trips closing tried
  let leaving := (context.leave trips.outcome).run h trips.state
  obtain ⟨houtcome, hcalls⟩ :
      trips.outcome = gathered tried ∧ calls trips.trace = tried.flatMap Trial.calls :=
    run_checkEach h context.registry.caches s
  have hspoken : spoken trips.trace = [] :=
    (Program.Only.each checkCache_tacit context.registry.caches).spoken_eq_nil h s
  have hquiet : spoken closing.trace = [] :=
    (closeAll_tacit context.registry.caches).spoken_eq_nil h trips.state
  obtain ⟨⟨after, hleft⟩, hleftCalls, hleftSpoken⟩ :
      (∃ after, leaving.outcome = .ok (closing.outcome >>= fun _ => trips.outcome, after)) ∧
        calls leaving.trace = calls closing.trace ∧ spoken leaving.trace = spoken closing.trace :=
    run_leave_open h hopen trips.outcome trips.state
  have hrun : (Command.checking context).run h s =
      ⟨leaving.outcome >>= fun left => left.1, leaving.state, trips.trace ++ leaving.trace⟩ := by
    simp only [Command.checking, Program.run_bind, Program.run_attempt, Run.andThen_ok,
      Program.run_ofExcept, Run.andThen_except]
    rfl
  rw [hrun, hleft, houtcome, Run.account, calls_append, spoken_append, hleftCalls, hleftSpoken,
    hspoken, hquiet, hcalls]
  rfl

theorem run_orStop_of_ok {α : Type} {wiring : Program α} {a : α} {s : σ}
    (hw : (wiring.run h s).outcome = .ok a) :
    (Command.orStop wiring).run h s = wiring.run h s := by
  rw [run_orStop]
  generalize wiring.run h s = wired at hw ⊢
  obtain ⟨outcome, s', trace⟩ := wired
  cases hw
  rfl

/-- From the command line to the context, and then on to the results and their report. -/
theorem run_carryOut {setting given : Option Text} {verbose : Bool} {context : CachingContext}
    {s : σ} (hc : ((Command.wiring setting given).run h s).outcome = .ok context) :
    (Command.carryOut .shipped setting ⟨.check, given, verbose⟩).run h s =
      ((Command.wiring setting given).run h s).andThen fun context s =>
        (Command.checking context >>= Command.reporting).run h s := by
  simp only [Command.wiring, Command.carryOut, Program.run_bind, Program.run_ofExcept] at hc ⊢
  obtain ⟨path, hp, hc⟩ := Run.andThen_outcome_ok.mp hc
  obtain ⟨c, hl, hc⟩ := Run.andThen_outcome_ok.mp hc
  simp only [Run.andThen_of_ok hp, Run.andThen_of_ok hl, Run.andThen_of_ok hc,
    Command.showChecked_eq, Program.run_bind, run_orStop_of_ok h hc, List.nil_append,
    Run.andThen_prefixed]

/-- How a check ends that has come as far as a context: with a report, unless a close failed or a
round trip stopped the program. -/
def checkAccount (tried : List Trial) (closing : Run σ Unit) : Account Nat :=
  let called := tried.flatMap Trial.calls ++ calls closing.trace
  match closing.outcome >>= fun _ => gathered tried with
  | .ok results => ⟨.ok (if results.any CheckResult.failed then 1 else 0), called,
      (CheckResult.report results).map .line⟩
  | .error fault => ⟨.error fault, called, []⟩

section

variable {tried : List Trial} {closing : Run σ Unit}

theorem checkAccount_ok (hc : closing.outcome = .ok ()) (hno : ∀ t ∈ tried, t.stop? = none) :
    let results := tried.map Trial.result
    (checkAccount tried closing).stopped =
      ⟨.ok (if results.any CheckResult.failed then 1 else 0),
        tried.flatMap Trial.calls ++ calls closing.trace,
        (CheckResult.report results).map .line⟩ := by
  unfold checkAccount
  rw [hc, gathered_of_unstopped hno]
  rfl

theorem checkAccount_stop (hc : closing.outcome = .ok ()) {reason : Stop}
    (hs : tried.findSome? Trial.stop? = some reason) :
    (checkAccount tried closing).stopped =
      ⟨.ok 1, tried.flatMap Trial.calls ++ calls closing.trace, [.complaint reason.message]⟩ := by
  unfold checkAccount
  rw [hc, gathered_of_stop hs]
  rfl

theorem checkAccount_error {fault : Fault} (hc : closing.outcome = .error fault) :
    checkAccount tried closing =
      ⟨.error fault, tried.flatMap Trial.calls ++ calls closing.trace, []⟩ := by
  unfold checkAccount
  rw [hc]
  rfl

end

theorem account_reporting {context : CachingContext} (hopen : context.closed = false) (s : σ) :
    let trips := (Program.each Command.checkCache context.registry.caches).run h s
    ((Command.checking context >>= Command.reporting).run h s).account =
      checkAccount (trials h context.registry.caches s)
        ((Registry.closeAll context.registry.caches).run h trips.state) := by
  intro trips
  let closing := (Registry.closeAll context.registry.caches).run h trips.state
  let tried := trials h context.registry.caches s
  have hchecked := account_checking h hopen s
  rw [Program.run_bind]
  generalize (Command.checking context).run h s = checked at hchecked ⊢
  obtain ⟨outcome, s', trace⟩ := checked
  obtain ⟨houtcome, hcalls, hspoken⟩ :
      outcome = (closing.outcome >>= fun _ => gathered tried) ∧
        calls trace = tried.flatMap Trial.calls ++ calls closing.trace ∧ spoken trace = [] :=
    Account.ext_iff.mp hchecked
  change _ = checkAccount tried closing
  unfold checkAccount
  rw [← houtcome]
  cases outcome with
  | error fault => exact Account.ext rfl hcalls hspoken
  | ok results =>
    rw [Run.andThen_ok, run_reporting, Run.account, calls_append, spoken_append, calls_lines,
      spoken_lines, List.append_nil, hcalls, hspoken]
    rfl

/-- What a command line for a check comes to once the caches are wired. -/
theorem account_check {texts : List Text} {setting given : Option Text} {verbose : Bool}
    (understood : Invocation.ofTexts texts = .ok ⟨.check, given, verbose⟩)
    {context : CachingContext} {s : σ}
    (hc : ((Command.wiring setting given).run h s).outcome = .ok context) :
    let s' := ((Command.wiring setting given).run h s).state
    let trips := (Program.each Command.checkCache context.registry.caches).run h s'
    ((Command.run .shipped setting texts).run h s).account =
      (checkAccount (trials h context.registry.caches s')
        ((Registry.closeAll context.registry.caches).run h trips.state)).stopped := by
  obtain ⟨hopen, hcalls, hspoken⟩ := wiring_aside h hc
  have hrun : ((Command.run .shipped setting texts).run h s).account =
      ((Command.carryOut .shipped setting ⟨.check, given, verbose⟩).run h s).account.stopped := by
    rw [← account_stopped]
    simp only [Command.run, understood]
    -- Without the option the program is the same, less its log records.
    cases verbose with
    | true => rfl
    | false => exact account_quiet h _ s
  rw [hrun, run_carryOut h hc, account_andThen hc hcalls hspoken]
  exact congrArg Account.stopped (account_reporting h hopen _)

end CacheWiring
