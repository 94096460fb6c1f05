import CacheWiring.Proofs.HealthCheck
import CacheWiring.Proofs.Phases

namespace CacheWiring

variable {σ : Type} (h : Handler σ)

namespace Command

/-- The configuration that a command line names, and where its caches are. -/
def locating (engines : Engines) (setting given : Option Text) :
    Program (Configuration × List ResolvedCluster) := do
  let path ← Program.ofExcept (chosenPath given setting)
  let c ← Configuration.load path
  let resolved ← orStop (c.resolveClusters engines ⟨none, none⟩)
  return (c, resolved)

/-- What is left to do with resolved caches when they are to be shown. -/
def showing (resolved : List ResolvedCluster) : Program Nat := do
  Program.sayAll
    (if resolved.isEmpty then ["No caches declared."] else resolved.flatMap ResolvedCluster.report)
  return 0

def binding (engines : Engines) (c : Configuration) (resolved : List ResolvedCluster) :
    Program CachingContext := do
  let registry ← Registry.build engines resolved c.client
  return ⟨c, registry, resolved, false⟩

def trying (engines : Engines) (c : Configuration) (resolved : List ResolvedCluster) :
    Program Nat := do
  let context ← orStop (binding engines c resolved)
  let results ← checking context
  reporting results

end Command

theorem run_carryOut_resolve (engines : Engines) (setting given : Option Text) (verbose : Bool)
    (s : σ) :
    (Command.carryOut engines setting ⟨.resolve, given, verbose⟩).run h s =
      ((Command.locating engines setting given).run h s).andThen fun located s =>
        (Command.showing located.2).run h s := by
  simp only [Command.carryOut, Command.locating, Command.showResolved, Command.showing,
    Program.run_bind, Program.run_pure, Run.andThen_assoc, Run.andThen_silent]

theorem run_carryOut_check (engines : Engines) (setting given : Option Text) (verbose : Bool)
    (s : σ) :
    (Command.carryOut engines setting ⟨.check, given, verbose⟩).run h s =
      ((Command.locating engines setting given).run h s).andThen fun located s =>
        (Command.trying engines located.1 located.2).run h s := by
  have hstart (c : Configuration) : c.start engines ⟨none, none⟩ =
      c.resolveClusters engines ⟨none, none⟩ >>= Command.binding engines c := rfl
  simp only [Command.carryOut, Command.locating, Command.showChecked_eq, Command.trying, hstart,
    run_orStop_bind, Program.run_bind, Program.run_pure, Run.andThen_assoc, Run.andThen_silent]

theorem orStop_only {allowed : Happening → Prop} {p : Program α} (hp : p.Only allowed) :
    (Command.orStop p).Only allowed := by
  apply hp.attempt.bind
  intro outcome
  cases outcome with
  | ok a => exact .pure a
  | error fault => exact .fail _

theorem locating_offline (engines : Engines) (setting given : Option Text) :
    (Command.locating engines setting given).Only Happening.Offline := by
  apply (Program.Only.ofExcept _).bind
  intro path
  apply (load_offline path).bind
  intro c
  apply (orStop_only (resolveClusters_offline c engines ⟨none, none⟩)).bind
  intro resolved
  exact .pure _

/-- What is asked goes to cache servers and their clients, apart from tokens, which take no
service. -/
def Happening.Serving : Happening → Prop
  | .asked r _ => ¬ r.Offline ∨ r = .freshToken
  | .said _ => True

theorem Happening.Binding.serving {happening : Happening} (hb : happening.Binding) :
    happening.Serving := by
  cases happening with
  | asked r reply => exact .inl hb.request
  | said output => trivial

theorem closeAll_serving (caches : List Cache) :
    (Registry.closeAll caches).Only Happening.Serving := closeAll_only (fun _ _ => .inl id) caches

theorem checkCache_serving (cache : Cache) :
    (Command.checkCache cache).Only Happening.Serving := by
  have hprobe (token : Text) : (Command.probe cache token).Only Happening.Serving :=
    probe_only (fun _ _ => .inl id) token
  have htrip : (Command.roundTrip cache).Only Happening.Serving :=
    (Program.Only.request fun _ => .inr rfl).bind hprobe
  apply htrip.rescue.bind
  intro outcome
  cases outcome <;> exact .pure _

theorem leave_serving (context : CachingContext) (outcome : Except Fault α) :
    (context.leave outcome).Only Happening.Serving := by
  have hclose : context.close.Only Happening.Serving :=
    .ite (.pure _) ((closeAll_serving context.registry.caches).bind fun _ =>
      (Program.Only.log trivial).bind fun _ => .pure _)
  apply hclose.attempt.bind
  intro closed
  cases closed <;> exact .pure _

theorem sayAll_serving (lines : List Text) : (Program.sayAll lines).Only Happening.Serving := by
  have hline (text : Text) : (Program.tell (.line text)).Only Happening.Serving :=
    ⟨trivial, trivial⟩
  exact (Program.Only.each hline lines).bind fun _ => .pure _

theorem trying_serving (c : Configuration) (resolved : List ResolvedCluster) :
    (Command.trying .shipped c resolved).Only Happening.Serving := by
  have hbuild : (Registry.build .shipped resolved c.client).Only Happening.Serving :=
    (build_binding c.client resolved).mono fun _ hb => hb.serving
  apply (orStop_only (hbuild.bind fun _ => .pure _)).bind
  intro context
  have hchecking : (Command.checking context).Only Happening.Serving := by
    apply (Program.Only.each checkCache_serving context.registry.caches).attempt.bind
    intro results
    exact (leave_serving context results).bind fun _ => .ofExcept _
  apply hchecking.bind
  intro results
  exact (sayAll_serving _).bind fun _ => .pure _

theorem requests_lines (lines : List Text) :
    requests (lines.map fun text => .said (.line text)) = [] := by
  rw [requests, List.filterMap_map]
  exact List.filterMap_eq_nil_iff.mpr fun _ _ => rfl

/-- Showing what was resolved cannot fail and asks for nothing. -/
theorem run_showing (resolved : List ResolvedCluster) (s : σ) :
    ∃ lines : List Text, (Command.showing resolved).run h s =
      ⟨.ok 0, s, lines.map fun text => .said (.line text)⟩ := by
  rw [Command.showing, Program.run_bind, run_sayAll, Run.andThen_ok, Program.run_pure,
    List.append_nil]
  exact ⟨_, rfl⟩

/-- Of two commands on one configuration, started in the same state of the world, the one that shows
what it resolves never turns to a cache server or a client. When it fails, be it with a complaint or
with a fault that escapes, the one that checks ends in the same way after the very same happenings.
When it succeeds, it has asked for what the other asks for first, and all that the other asks for
after that goes to cache servers and clients. -/
theorem resolve_is_dry_run_of_check (h : Handler σ) {texts texts' : List Text}
    {setting given : Option Text} {verbose : Bool}
    (resolving : Invocation.ofTexts texts = .ok ⟨.resolve, given, verbose⟩)
    (checking : Invocation.ofTexts texts' = .ok ⟨.check, given, verbose⟩) (s : σ) :
    let shown := (Command.run .shipped setting texts).run h s
    let checked := (Command.run .shipped setting texts').run h s
    (∀ r ∈ requests shown.trace, r.Offline) ∧
      (shown.outcome ≠ .ok 0 →
        checked = shown ∧
          ((∃ reason : Stop, shown.outcome = .ok 1 ∧
              spoken shown.trace = [.complaint reason.message]) ∨
            ∃ fault, (∀ reason, fault ≠ .stop reason) ∧ shown.outcome = .error fault ∧
              spoken shown.trace = [])) ∧
      (shown.outcome = .ok 0 →
        ∃ more, requests checked.trace = requests shown.trace ++ more ∧
          ∀ r ∈ more, ¬ r.Offline ∨ r = .freshToken) := by
  intro shown checked
  have hshown : shown = _ := run_command h .shipped resolving s
  have hchecked : checked = _ := run_command h .shipped checking s
  rw [run_carryOut_resolve] at hshown
  rw [run_carryOut_check] at hchecked
  have hoffline := locating_offline .shipped setting given
  have hbefore : ∀ r ∈ requests ((Command.locating .shipped setting given).run h s).trace,
      r.Offline := by
    intro r hr
    obtain ⟨reply, hm⟩ := mem_of_mem_requests hr
    exact (hoffline.of_mem h hm).request
  have htacit := hoffline.aside.tacit.spoken_eq_nil h s
  generalize (Command.locating .shipped setting given).run h s = located at *
  cases ho : located.outcome with
  | error fault =>
    -- Neither command gets any further than this.
    rw [Run.andThen_of_error ho] at hshown hchecked
    have hsame : checked = shown := hchecked.trans hshown.symm
    have hended := Run.shown_error (r := ⟨.error fault, located.state, located.trace⟩) rfl htacit
      verbose
    rw [← hshown] at hended
    refine ⟨?_, fun _ => ⟨hsame, ?_⟩, ?_⟩
    · rw [hshown, requests_shown]
      exact hbefore
    · rcases hended with ⟨reason, -, hstatus, hspoken⟩ | ⟨hno, hfault, hspoken⟩
      · exact .inl ⟨reason, hstatus, hspoken⟩
      · exact .inr ⟨fault, hno, hfault, hspoken⟩
    · intro hok
      rcases hended with ⟨reason, -, hstatus, -⟩ | ⟨-, hfault, -⟩
      · cases hok.symm.trans hstatus
      · cases hok.symm.trans hfault
  | ok found =>
    obtain ⟨lines, hlines⟩ := run_showing h found.2 located.state
    rw [Run.andThen_of_ok ho, hlines] at hshown
    rw [Run.andThen_of_ok ho] at hchecked
    have hstatus : shown.outcome = .ok 0 := by
      rw [hshown]
      exact Run.shown_ok rfl verbose
    have hasked : requests shown.trace = requests located.trace := by
      rw [hshown, requests_shown, requests_append, requests_lines, List.append_nil]
    refine ⟨?_, fun hn => absurd hstatus hn, fun _ => ?_⟩
    · rw [hasked]
      exact hbefore
    · rw [hasked, hchecked, requests_shown, requests_append]
      refine ⟨_, rfl, ?_⟩
      intro r hr
      obtain ⟨reply, hm⟩ := mem_of_mem_requests hr
      exact (trying_serving found.1 found.2).of_mem h hm

theorem understood_resolve :
    Invocation.ofTexts ["resolve", "c.yaml"] = .ok ⟨.resolve, some "c.yaml", false⟩ := rfl

/-- The status that a command line ends with, if that is what computing it comes to. -/
theorem outcome_of_status {r : Run σ Nat} {status : Nat}
    (hr : (r.outcome.toOption == some status) = true) : r.outcome = .ok status := by
  cases ho : r.outcome with
  | error fault =>
    rw [ho] at hr
    cases hr
  | ok other =>
    rw [ho] at hr
    exact congrArg Except.ok (Option.some.inj (eq_of_beq hr))

/-- A cloud that has never heard of the only cluster. -/
def clusterless : Handler Unit where
  answer s
    | .describeCacheClusters .. => (.ok (.dict []), s)
    | r => forgetfulCache.answer s r

/-- Without its cluster the cache is neither shown nor checked. With it the check goes on where the
other command stops. -/
theorem only_cluster_decides :
    let resolve (h : Handler Unit) := (Command.run .shipped none ["resolve", "c.yaml"]).run h ()
    let check (h : Handler Unit) := (Command.run .shipped none ["check", "c.yaml"]).run h ()
    (resolve clusterless).outcome = .ok 1 ∧ check clusterless = resolve clusterless ∧
      (resolve forgetfulCache).outcome = .ok 0 ∧
      ∃ more, requests (check forgetfulCache).trace =
        requests (resolve forgetfulCache).trace ++ more := by
  intro resolve check
  have hfailed : (resolve clusterless).outcome = .ok 1 := outcome_of_status (by decide +kernel)
  have hshown : (resolve forgetfulCache).outcome = .ok 0 := outcome_of_status (by decide +kernel)
  obtain ⟨-, hsame, -⟩ :=
    resolve_is_dry_run_of_check clusterless understood_resolve understood_check ()
  obtain ⟨-, -, hmore⟩ :=
    resolve_is_dry_run_of_check forgetfulCache understood_resolve understood_check ()
  have hne : (resolve clusterless).outcome ≠ .ok 0 := by
    rw [hfailed]
    simp
  obtain ⟨more, hasked, -⟩ := hmore hshown
  exact ⟨hfailed, (hsame hne).1, hshown, more, hasked⟩

end CacheWiring
