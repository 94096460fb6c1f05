import CacheWiring.Proofs.Building

namespace CacheWiring

variable {σ : Type}

def Handler.ClosesQuietly (h : Handler σ) : Prop :=
  ∀ (cache : Cache) (s : σ), (cache.close.run h s).outcome = .ok ()

theorem Handler.ClosesQuietly.outcomes {h : Handler σ} (quiet : h.ClosesQuietly)
    (caches : List Cache) (s : σ) : ∀ outcome ∈ closeOutcomes h caches s, outcome = .ok () := by
  induction caches generalizing s with
  | nil => simp [closeOutcomes]
  | cons cache rest ih =>
    intro outcome hm
    rcases List.mem_cons.mp hm with he | hm
    · exact he.trans (quiet cache s)
    · exact ih _ outcome hm

/-- A pass without a fault asks every cache. -/
theorem take_closeReach_of_quiet {h : Handler σ} {caches : List Cache} {s : σ}
    (hq : ∀ outcome ∈ closeOutcomes h caches s, outcome = .ok ()) :
    caches.take (closeReach (closeOutcomes h caches s)) = caches :=
  (take_closeReach_eq_iff h caches s).mpr fun outcome hm => hq outcome (List.dropLast_subset _ hm)

/-- Caches under names of the engine's own choice; the cache asked for as `a` is on client 0. -/
def Engine.naming (choice : Value → Except Fault Value) : Engine where
  factory name _ expiration _ := do
    let chosen ← Program.ofExcept (choice name)
    return ⟨chosen, if name.isStr ['a'] then 0 else 1, expiration⟩
  defaultPort := 0

def careless : Engines := ⟨[(['m'], Engine.naming fun _ => .ok (.str ['a']))]⟩

/-- No cache can be called `c`; who asks for it gets this fault. -/
def refusing (fault : Fault) : Engines :=
  ⟨[(['m'], Engine.naming fun name => if name.isStr ['c'] then .error fault else .ok name)]⟩

def picky : Engines := refusing .noCharacter

def clusterNamed (name : Text) : ResolvedCluster :=
  ⟨.str name, ⟨.null, .null, .str ['m'], []⟩, .null⟩

namespace Registry

variable (h : Handler σ) (engines : Engines) (options : ClientOptions)

/-- The factory calls of a build: none when logical names are in conflict, else one for each cluster
in order up to the first that fails. -/
def factoryCalls (clusters : List ResolvedCluster) : Program (List Cache) :=
  match nameConflict? [] (clusters.map ResolvedCluster.logicalName) with
  | some fault => Program.fail fault
  | none => Program.each (bindCluster engines options) clusters

def returned (clusters : List ResolvedCluster) (s : σ) : List Cache :=
  match nameConflict? [] (clusters.map ResolvedCluster.logicalName) with
  | some _ => []
  | none => Program.collected h (bindCluster engines options) clusters s

variable {h engines options} in
/-- Where no close fails, a factory that fails ends the build with its own fault. -/
theorem run_build_failing_quiet (quiet : h.ClosesQuietly) {clusters : List ResolvedCluster}
    {fault : Fault} {built : List Cache} {s s' : σ} {trace : List Happening}
    (hn : nameConflict? [] (clusters.map ResolvedCluster.logicalName) = none)
    (hc : (Program.each (bindCluster engines options) clusters).run h s =
      ⟨.error fault, s', trace⟩)
    (hb : Program.collected h (bindCluster engines options) clusters s = built) :
    ((build engines clusters options).run h s).outcome = .error fault ∧
      closings ((build engines clusters options).run h s).trace =
        closings trace ++ (closedAfter fault built).map Cache.client := by
  obtain ⟨houtcome, hasked⟩ := run_build_failing h engines options hn hc hb
  have hcloses := quiet.outcomes (closedAfter fault built) s'
  rw [(closeFault?_eq_none_iff _).mpr hcloses] at houtcome
  rw [take_closeReach_of_quiet hcloses] at hasked
  exact ⟨houtcome, hasked⟩

/-- A build that fails has closed each cache that a factory returned, once and in order, but for two
ways to fail. A factory that stops the program leaves the caches built before it as they are. And
when all factories returned and only then their caches turned out not to have distinct names, no
cache is closed. -/
theorem failed_build_closes_all_iff (quiet : h.ClosesQuietly) (clusters : List ResolvedCluster)
    (s : σ) :
    let run := (build engines clusters options).run h s
    let calls := (factoryCalls engines options clusters).run h s
    let built := returned h engines options clusters s
    ((∀ fault, run.outcome = .error fault →
          closings run.trace = closings calls.trace ++ built.map Cache.client) ↔
        (∀ caches, calls.outcome = .ok caches → DistinctNames (caches.map Cache.name)) ∧
          ∀ reason, calls.outcome = .error (.stop reason) → built = []) ∧
      (∀ caches, calls.outcome = .ok caches →
        built = caches ∧ closings run.trace = closings calls.trace) ∧
      ∀ reason, calls.outcome = .error (.stop reason) →
        run.outcome = .error (.stop reason) ∧ closings run.trace = closings calls.trace := by
  simp only [factoryCalls, returned]
  cases hn : nameConflict? [] (clusters.map ResolvedCluster.logicalName) with
  | some fault => simp [run_build_conflict h engines options hn s]
  | none =>
    dsimp only
    generalize hc : (Program.each (bindCluster engines options) clusters).run h s = calls
    obtain ⟨outcome, s', trace⟩ := calls
    cases outcome with
    | error fault =>
      obtain ⟨houtcome, hasked⟩ := run_build_failing_quiet quiet hn hc rfl
      rcases fault.stop_or_not with ⟨reason, rfl⟩ | hs
      · simp [houtcome, hasked]
      · simp [houtcome, hasked, closedAfter_error hs, Fault.isStop_eq_false_iff.mp hs]
    | ok caches =>
      have hbuilt := Program.collected_of_ok h (congrArg Run.outcome hc)
      simp only [hbuilt, Except.ok.injEq, forall_eq', true_and]
      rcases run_build_bound h engines options hn hc with
        ⟨registry, record, -, hdistinct, hrun⟩ | ⟨fault, hclash, hrun⟩
      · simp [hrun, hdistinct]
      · have hopen : caches ≠ [] := by
          rintro rfl
          exact hclash ⟨[], rfl, List.nodup_nil⟩
        simp [hrun, hclash, hopen]

/-- Two caches are built and get the same name, and neither of them is closed. -/
theorem clashing_caches_stay_open :
    let run := (build careless [clusterNamed ['a'], clusterNamed ['b']] {}).run
      (Handler.closing fun _ => .ok ()) ()
    run.outcome = .error (.duplicateName (.str ['a'])) ∧ closings run.trace = [] ∧
      (returned (Handler.closing fun _ => .ok ()) careless {}
        [clusterNamed ['a'], clusterNamed ['b']] ()).map Cache.client = [0, 1] := by
  have quiet : (Handler.closing fun _ => .ok ()).ClosesQuietly := fun _ _ => rfl
  obtain ⟨hbuilt, hclosed⟩ := (failed_build_closes_all_iff _ careless {} quiet
    [clusterNamed ['a'], clusterNamed ['b']] ()).2.1 _ rfl
  exact ⟨rfl, hclosed, hbuilt ▸ rfl⟩

/-- A build can fail and leave a cache open that a factory returned, although no cache fails to
close. -/
theorem not_every_failed_build_closes_all :
    ¬ ∀ (h : Handler Unit) (engines : Engines) (clusters : List ResolvedCluster),
      h.ClosesQuietly → ∀ fault,
        ((build engines clusters {}).run h ()).outcome = .error fault →
          ∀ cache ∈ returned h engines {} clusters (),
            cache.client ∈ closings ((build engines clusters {}).run h ()).trace := by
  intro hall
  have quiet : (Handler.closing fun _ => .ok ()).ClosesQuietly := fun _ _ => rfl
  have hclosed := hall _ careless [clusterNamed ['a'], clusterNamed ['b']] quiet
    (.duplicateName (.str ['a'])) rfl ⟨.str ['a'], 0, .null⟩ List.mem_cons_self
  cases hclosed

/-- The fault of a factory is what a build ends with, and each cache built before is asked to close,
exactly when it is no stop that passes them by and none of them fails to close. The first that fails
puts its fault in the place of the factory's, and no cache behind it is asked. -/
theorem factory_fault_survives_iff (before : List ResolvedCluster) (cluster : ResolvedCluster)
    (after : List ResolvedCluster) {built : List Cache} {fault : Fault} (s : σ)
    (distinct : DistinctNames ((before ++ cluster :: after).map ResolvedCluster.logicalName))
    (hbuilt : ((Program.each (bindCluster engines options) before).run h s).outcome = .ok built)
    (hfault : ((bindCluster engines options cluster).run h
      ((Program.each (bindCluster engines options) before).run h s).state).outcome =
        .error fault) :
    let calls := (Program.each (bindCluster engines options) before).run h s
    let failing := (bindCluster engines options cluster).run h calls.state
    let closed := closedAfter fault built
    let closes := closeOutcomes h closed failing.state
    let run := (build engines (before ++ cluster :: after) options).run h s
    run.outcome = .error ((closeFault? closes).getD fault) ∧
      closings run.trace =
        closings (calls.trace ++ failing.trace) ++
          (closed.take (closeReach closes)).map Cache.client ∧
      (.error fault ∉ closes →
        (run.outcome = .error fault ∧
            closings run.trace =
              closings (calls.trace ++ failing.trace) ++ built.map Cache.client ↔
          closed = built ∧ ∀ close ∈ closes, close = .ok ())) := by
  intro calls failing closed closes run
  have hn := ((distinctNames_iff _).mp distinct).1
  obtain ⟨hc, hcol⟩ := Program.run_each_stops h hbuilt hfault after
  have hrun := run_build_failing h engines options hn hc hcol
  obtain ⟨houtcome, hasked⟩ : run.outcome = .error ((closeFault? closes).getD fault) ∧
    closings run.trace = closings (calls.trace ++ failing.trace) ++
      (closed.take (closeReach closes)).map Cache.client := hrun
  refine ⟨houtcome, hasked, fun hapart => ?_⟩
  constructor
  · intro hp
    obtain ⟨hsurvives, hall⟩ := hp
    have hquiet : closeFault? closes = none := by
      cases hf : closeFault? closes with
      | none => rfl
      | some other =>
        rw [houtcome, hf] at hsurvives
        obtain rfl : other = fault := Except.error.inj hsurvives
        exact absurd (mem_of_closeFault? hf) hapart
    have hcloses := (closeFault?_eq_none_iff closes).mp hquiet
    refine ⟨?_, hcloses⟩
    rw [hasked, take_closeReach_of_quiet hcloses, List.append_cancel_left_eq] at hall
    rcases fault.stop_or_not with ⟨reason, rfl⟩ | hs
    · exact (List.map_eq_nil_iff.mp hall.symm).symm
    · exact closedAfter_error hs built
  · intro hp
    obtain ⟨hsame, hall⟩ := hp
    have hnone := (closeFault?_eq_none_iff closes).mpr hall
    have htake : closed.take (closeReach closes) = closed := take_closeReach_of_quiet hall
    rw [hnone] at houtcome
    rw [htake, hsame] at hasked
    exact ⟨houtcome, hasked⟩

/-- The first of two caches fails to close, so its fault hides that of the third cluster and the
second cache is left open. -/
theorem stuck_close_hides_the_fault :
    let run := (build picky [clusterNamed ['a'], clusterNamed ['b'], clusterNamed ['c']] {}).run
      firstStuck ()
    run.outcome = .error .wrongType ∧ closings run.trace = [0] := by
  obtain ⟨houtcome, hasked, -⟩ := factory_fault_survives_iff firstStuck picky {}
    [clusterNamed ['a'], clusterNamed ['b']] (clusterNamed ['c']) [] ()
    ⟨[['a'], ['b'], ['c']], rfl, by decide⟩ rfl rfl
  exact ⟨houtcome, hasked⟩

/-- The fault of a factory can be lost to that of a close. -/
theorem not_every_factory_fault_survives :
    ¬ ∀ (h : Handler Unit) (engines : Engines) (before : List ResolvedCluster)
      (cluster : ResolvedCluster) (built : List Cache) (fault : Fault),
      DistinctNames ((before ++ [cluster]).map ResolvedCluster.logicalName) →
      ((Program.each (bindCluster engines {}) before).run h ()).outcome = .ok built →
      ((bindCluster engines {} cluster).run h ()).outcome = .error fault →
        ((build engines (before ++ [cluster]) {}).run h ()).outcome = .error fault := by
  intro hall
  have hdistinct : DistinctNames
      (([clusterNamed ['a']] ++ [clusterNamed ['c']]).map ResolvedCluster.logicalName) :=
    ⟨[['a'], ['c']], rfl, by decide⟩
  have hlost : ((build picky ([clusterNamed ['a']] ++ [clusterNamed ['c']]) {}).run firstStuck
    ()).outcome = .error .wrongType := rfl
  cases hlost.symm.trans (hall firstStuck picky [clusterNamed ['a']] (clusterNamed ['c'])
    [⟨.str ['a'], 0, .null⟩] .noCharacter hdistinct rfl rfl)

end Registry

end CacheWiring
