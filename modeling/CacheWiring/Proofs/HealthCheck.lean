import CacheWiring.Proofs.Accounts

namespace CacheWiring

variable {σ : Type}

theorem cache_results {h : Handler σ} {caches : List Cache} {s : σ}
    (hno : ∀ t ∈ trials h caches s, t.stop? = none) :
    ((trials h caches s).map Trial.result).map CheckResult.cache =
      caches.map fun cache => cache.name.text := by
  rw [List.map_map]
  conv_rhs => rw [← cache_trials h hno, List.map_map]
  rfl

/-- A report is made of lines, so it is never a lone complaint. -/
theorem lines_ne_complaint (lines : List Text) (text : Text) :
    lines.map Output.line ≠ [.complaint text] := by
  cases lines <;> simp

section

variable (h : Handler σ) {texts : List Text} {setting given : Option Text} {verbose : Bool}
  (understood : Invocation.ofTexts texts = .ok ⟨.check, given, verbose⟩)
  {context : CachingContext} {s : σ}
  (wired : ((Command.wiring setting given).run h s).outcome = .ok context)

include understood wired

/-- The first close that fails ends the command line in place of the report. -/
theorem check_of_close_fault {fault : Fault}
    (hf : closeFault? (closeOutcomes h context.registry.caches
      ((Program.each Command.checkCache context.registry.caches).run h
        ((Command.wiring setting given).run h s).state).state) = some fault) :
    ∃ called, ((Command.run .shipped setting texts).run h s).account =
      Account.stopped ⟨.error fault, called, []⟩ := by
  have hclosing := (run_closeAll h context.registry.caches _).1.trans (closePass_error hf)
  exact ⟨_, (account_check h understood wired).trans
    (congrArg Account.stopped (checkAccount_error hclosing))⟩

/-- Without such a close there is a report, unless the program was stopped before. -/
theorem check_of_closes
    (hall : closeFault? (closeOutcomes h context.registry.caches
      ((Program.each Command.checkCache context.registry.caches).run h
        ((Command.wiring setting given).run h s).state).state) = none) :
    let tried := trials h context.registry.caches ((Command.wiring setting given).run h s).state
    let results := tried.map Trial.result
    ∃ called,
      ((∀ t ∈ tried, t.stop? = none) →
        ((Command.run .shipped setting texts).run h s).account =
          ⟨.ok (if results.any CheckResult.failed then 1 else 0), called,
            (CheckResult.report results).map .line⟩) ∧
      ∀ reason, tried.findSome? Trial.stop? = some reason →
        ((Command.run .shipped setting texts).run h s).account =
          ⟨.ok 1, called, [.complaint reason.message]⟩ := by
  intro tried results
  have hcloses := (closeFault?_eq_none_iff _).mp hall
  have hclosing :=
    (run_closeAll h context.registry.caches _).1.trans ((closePass_eq_ok_iff _).mpr hcloses)
  have haccount := account_check h understood wired
  exact ⟨_, fun hno => haccount.trans (checkAccount_ok hclosing hno),
    fun reason hs => haccount.trans (checkAccount_stop hclosing hs)⟩

end

/-- The caches are tried in order, and all of them unless a round trip stops the program. Whether
that is reported depends on the closes at the end as well: the report is made and the status is that
of the results exactly when there was no stop and all closes succeed. The first that fails ends the
command line instead, and when none fails a stop does. -/
theorem check_reports_iff (h : Handler σ) {texts : List Text} {setting given : Option Text}
    {verbose : Bool} (understood : Invocation.ofTexts texts = .ok ⟨.check, given, verbose⟩)
    {context : CachingContext} {s : σ}
    (wired : ((Command.wiring setting given).run h s).outcome = .ok context) :
    let start := (Command.wiring setting given).run h s
    let trips := (Program.each Command.checkCache context.registry.caches).run h start.state
    let tried := trials h context.registry.caches start.state
    let results := tried.map Trial.result
    let closes := closeOutcomes h context.registry.caches trips.state
    let run := (Command.run .shipped setting texts).run h s
    ((∀ t ∈ tried, t.stop? = none) → trips.outcome = .ok results ∧
        results.map CheckResult.cache =
          context.registry.caches.map (fun cache => cache.name.text)) ∧
      ((spoken run.trace = (CheckResult.report results).map .line ∧
          run.outcome = .ok (if results.any CheckResult.failed then 1 else 0)) ↔
        (∀ t ∈ tried, t.stop? = none) ∧ ∀ outcome ∈ closes, outcome = .ok ()) ∧
      (∀ fault, closeFault? closes = some fault → (∀ reason, fault ≠ .stop reason) →
        run.outcome = .error fault ∧ spoken run.trace = []) ∧
      ∀ reason, (closeFault? closes = some (.stop reason) ∨
          closeFault? closes = none ∧ tried.findSome? Trial.stop? = some reason) →
        run.outcome = .ok 1 ∧ spoken run.trace = [.complaint reason.message] := by
  intro start trips tried results closes run
  have hfault : ∀ fault, closeFault? closes = some fault → (∀ reason, fault ≠ .stop reason) →
      run.outcome = .error fault ∧ spoken run.trace = [] := by
    intro fault hf hno
    obtain ⟨called, haccount⟩ := check_of_close_fault h understood wired hf
    rw [stopped_of_no_stop fun reason he => hno reason (Except.error.inj he)] at haccount
    obtain ⟨houtcome, -, hspoken⟩ := Account.ext_iff.mp haccount
    exact ⟨houtcome, hspoken⟩
  have hstop : ∀ reason, (closeFault? closes = some (.stop reason) ∨
      closeFault? closes = none ∧ tried.findSome? Trial.stop? = some reason) →
        run.outcome = .ok 1 ∧ spoken run.trace = [.complaint reason.message] := by
    intro reason hs
    rcases hs with hf | ⟨hall, hs⟩
    · obtain ⟨called, haccount⟩ := check_of_close_fault h understood wired hf
      obtain ⟨houtcome, -, hspoken⟩ := Account.ext_iff.mp haccount
      exact ⟨houtcome, hspoken⟩
    · obtain ⟨called, -, hstopped⟩ := check_of_closes h understood wired hall
      obtain ⟨houtcome, -, hspoken⟩ := Account.ext_iff.mp (hstopped reason hs)
      exact ⟨houtcome, hspoken⟩
  refine ⟨fun hno => ⟨?_, cache_results hno⟩, ?_, hfault, hstop⟩
  · rw [← gathered_of_unstopped hno]
    exact (run_checkEach h context.registry.caches start.state).1
  constructor
  · intro hreported
    obtain ⟨hspoken, houtcome⟩ := hreported
    have hnone : closeFault? closes = none := by
      cases hf : closeFault? closes with
      | none => rfl
      | some fault =>
        rcases fault.stop_or_not with ⟨reason, rfl⟩ | hs
        · exact absurd (hspoken.symm.trans (hstop reason (.inl hf)).2) (lines_ne_complaint _ _)
        · have hended := (hfault fault hf (Fault.isStop_eq_false_iff.mp hs)).1
          cases hended.symm.trans houtcome
    have hunstopped : tried.findSome? Trial.stop? = none := by
      cases hs : tried.findSome? Trial.stop? with
      | none => rfl
      | some reason =>
        exact absurd (hspoken.symm.trans (hstop reason (.inr ⟨hnone, hs⟩)).2)
          (lines_ne_complaint _ _)
    exact ⟨List.findSome?_eq_none_iff.mp hunstopped, (closeFault?_eq_none_iff closes).mp hnone⟩
  · intro hp
    obtain ⟨hno, hall⟩ := hp
    obtain ⟨called, hreport, -⟩ :=
      check_of_closes h understood wired ((closeFault?_eq_none_iff closes).mpr hall)
    obtain ⟨houtcome, -, hspoken⟩ := Account.ext_iff.mp (hreport hno)
    exact ⟨hspoken, houtcome⟩

def oneCacheText : String :=
  "apiVersion: elasticache-caching/v1\nkind: CacheConfiguration\nspec: {clusters: [{name: a}]}\n"

def oneCacheAnswer : Value :=
  .dict [(.str "CacheClusters", .list [.dict [(.str "Engine", .str "memcached"),
    (.str "ConfigurationEndpoint", .dict [(.str "Address", .str "h"), (.str "Port", .int 1)])]])]

/-- A cloud with one cluster, whose client takes everything, finds always the same and closes as it
likes. -/
def Handler.oneCache (found : Value) (close : Except Fault Unit) : Handler Unit where
  answer s
    | .pathExists _ => (.ok true, s)
    | .fileBytes _ => (.ok oneCacheText.toUTF8, s)
    | .openCloud .. => (.ok (), s)
    | .describeCacheClusters .. => (.ok oneCacheAnswer, s)
    | .connect .. => (.ok (0 : Nat), s)
    | .freshToken => (.ok [], s)
    | .call _ (.set ..) => (.ok (), s)
    | .call _ (.get ..) => (.ok found, s)
    | .call _ (.delete ..) => (.ok (), s)
    | .call _ .close => (close, s)
    | _ => (.error .noFields, s)

theorem wired_of_names {h : Handler Unit}
    (hw : (((Command.wiring none (some "c.yaml")).run h ()).outcome.toOption.any fun context =>
      context.registry.caches.map (fun cache => cache.name.text) == [("a" : Text)]) = true) :
    ∃ context cache, ((Command.wiring none (some "c.yaml")).run h ()).outcome = .ok context ∧
      context.registry.caches = [cache] ∧ cache.name.text = "a" := by
  cases hc : ((Command.wiring none (some "c.yaml")).run h ()).outcome with
  | error fault =>
    rw [hc] at hw
    cases hw
  | ok context =>
    rw [hc] at hw
    obtain ⟨cache, hone, hname⟩ := List.map_eq_singleton_iff.mp (eq_of_beq hw)
    exact ⟨context, cache, rfl, hone, hname⟩

theorem understood_check :
    Invocation.ofTexts ["check", "c.yaml"] = .ok ⟨.check, some "c.yaml", false⟩ := rfl

/-- A cache whose round trip is fine, and that cannot be closed. -/
def stuckCache : Handler Unit := .oneCache (.str Command.probeText) (.error .wrongType)

theorem stuckCache_wired : ∃ context cache,
    ((Command.wiring none (some "c.yaml")).run stuckCache ()).outcome = .ok context ∧
      context.registry.caches = [cache] ∧ cache.name.text = "a" :=
  wired_of_names (by decide +kernel)

/-- Although its only cache passes, nothing is reported of the check. -/
theorem stuck_close_hides_the_report :
    let run := (Command.run .shipped none ["check", "c.yaml"]).run stuckCache ()
    run.outcome = .error .wrongType ∧ spoken run.trace = [] := by
  obtain ⟨context, cache, hc, hone, -⟩ := stuckCache_wired
  obtain ⟨-, -, hfault, -⟩ := check_reports_iff stuckCache understood_check hc
  refine hfault .wrongType ?_ ?_
  · rw [hone]
    rfl
  · intro reason he
    cases he

/-- Not every check that gets as far as a context is reported. -/
theorem not_every_check_reports :
    ¬ ∀ (h : Handler Unit) (texts : List Text) (setting given : Option Text) (verbose : Bool)
      (context : CachingContext), Invocation.ofTexts texts = .ok ⟨.check, given, verbose⟩ →
      ((Command.wiring setting given).run h ()).outcome = .ok context →
        ∃ results, spoken ((Command.run .shipped setting texts).run h ()).trace =
            (CheckResult.report results).map .line ∧
          ∃ status, ((Command.run .shipped setting texts).run h ()).outcome = .ok status := by
  intro hall
  obtain ⟨context, cache, hc, hone, -⟩ := stuckCache_wired
  obtain ⟨results, -, status, hended⟩ :=
    hall stuckCache _ none _ false context understood_check hc
  obtain ⟨called, haccount⟩ := check_of_close_fault stuckCache understood_check hc
    (by rw [hone]; rfl)
  -- The run stays folded: reducing it would evaluate the whole program.
  have hfault := congrArg Account.outcome haccount
  rw [Run.account_outcome, hended] at hfault
  cases hfault

/-- A cache that takes an entry and does not find it again. -/
def forgetfulCache : Handler Unit := .oneCache .null (.ok ())

end CacheWiring
