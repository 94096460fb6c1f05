import CacheWiring.Proofs.AllOrNothing
import CacheWiring.Proofs.Entries
import CacheWiring.Proofs.Lookups

namespace CacheWiring

variable {σ : Type}

def Engine.bind (engine : Engine) (options : ClientOptions) (cluster : ResolvedCluster) :
    Program Cache :=
  engine.factory cluster.logicalName cluster.endpoint cluster.expiration options

/-- A factory returns a cache under the name it is given, if it returns at all, and that cache does
not fail to close. -/
structure Engines.KeepsNames (engines : Engines) (h : Handler σ) (options : ClientOptions) :
    Prop where
  named : ∀ {name engine cluster s cache}, engines.Registers name engine →
    ((engine.bind options cluster).run h s).outcome = .ok cache → cache.name = cluster.logicalName
  closes : ∀ {name engine cluster s cache}, engines.Registers name engine →
    ((engine.bind options cluster).run h s).outcome = .ok cache →
      ∀ s', (cache.close.run h s').outcome = .ok ()

namespace Registry

variable (h : Handler σ) (engines : Engines) (options : ClientOptions)

/-- Clusters that are bound one after another, each by one call of the factory of its engine. -/
inductive Binds : List ResolvedCluster → σ → List Cache → σ → List Happening → Prop
  | nil (s : σ) : Binds [] s [] s []
  | cons {cluster : ResolvedCluster} {rest : List ResolvedCluster} {engine : Engine} {cache : Cache}
      {built : List Cache} {s s' s'' : σ} {trace more : List Happening}
      (hr : engines.Registers cluster.endpoint.engine engine)
      (hf : (engine.bind options cluster).run h s = ⟨.ok cache, s', trace⟩)
      (hrest : Binds rest s' built s'' more) :
      Binds (cluster :: rest) s (cache :: built) s'' (trace ++ more)

/-- Why a cluster cannot be bound, and what happens on the way. Without an engine nothing does. -/
inductive Unbound (cluster : ResolvedCluster) (s : σ) : Fault → σ → List Happening → Prop
  | collection (hk : cluster.endpoint.engine.key? = none) : Unbound cluster s .wrongType s []
  | unregistered (hk : cluster.endpoint.engine.key? ≠ none)
      (hn : ∀ engine, ¬ engines.Registers cluster.endpoint.engine engine) :
      Unbound cluster s
        (.unsupportedEngine cluster.logicalName cluster.endpoint.engine engines.supported) s []
  | raised {engine : Engine} {fault : Fault} {s' : σ} {trace : List Happening}
      (hr : engines.Registers cluster.endpoint.engine engine)
      (hf : (engine.bind options cluster).run h s = ⟨.error fault, s', trace⟩) :
      Unbound cluster s fault s' trace

/-- The course of a build under given names. -/
inductive Builds (clusters : List ResolvedCluster) (texts : List Text) (s : σ) :
    Run σ Registry → Prop
  /-- The earliest name that has occurred before is refused, and no factory is called. -/
  | repeated {before after : List Text} {t : Text} (ht : texts = before ++ t :: after)
      (hbefore : before.Nodup) (hrepeated : t ∈ before) :
      Builds clusters texts s ⟨.error (.duplicateName (.str t)), s, []⟩
  /-- The first cluster that cannot be bound is the last one that is tried. Its error is followed by
  the closes of the caches built before it. -/
  | failed {before after : List ResolvedCluster} {cluster : ResolvedCluster} {built : List Cache}
      {fault : Fault} {s' s'' : σ} {trace failing : List Happening} (hn : texts.Nodup)
      (hs : clusters = before ++ cluster :: after)
      (hbefore : Binds h engines options before s built s' trace)
      (hfault : Unbound h engines options cluster s' fault s'' failing)
      (herror : ∀ reason, fault ≠ .stop reason) :
      Builds clusters texts s
        ⟨.error fault, ((closeAll built).run h s'').state,
          trace ++ failing ++ built.map Cache.closed⟩
  /-- A stop is the last that happens, and the caches built before it stay open. -/
  | stopped {before after : List ResolvedCluster} {cluster : ResolvedCluster} {built : List Cache}
      {reason : Stop} {s' s'' : σ} {trace failing : List Happening} (hn : texts.Nodup)
      (hs : clusters = before ++ cluster :: after)
      (hbefore : Binds h engines options before s built s' trace)
      (hstop : Unbound h engines options cluster s' (.stop reason) s'' failing) :
      Builds clusters texts s ⟨.error (.stop reason), s'', trace ++ failing⟩
  /-- Nothing is closed, and each name has the cache of its factory. -/
  | built {registry : Registry} {s' : σ} {trace : List Happening} (hn : texts.Nodup)
      (hbinds : Binds h engines options clusters s registry.caches s' trace)
      (hnames : registry.names = clusters.map ResolvedCluster.logicalName)
      (hget : List.Forall₂ (fun cluster cache => registry.get cluster.logicalName = .ok cache)
        clusters registry.caches) :
      Builds clusters texts s ⟨.ok registry, s', trace ++ [.said (.log (builtRecord texts))]⟩

variable {h engines options}

/-- With an engine the factory is called, and its run is all that happens. -/
theorem run_bindCluster_registered {cluster : ResolvedCluster} {engine : Engine}
    (hr : engines.Registers cluster.endpoint.engine engine) (s : σ) :
    (bindCluster engines options cluster).run h s = (engine.bind options cluster).run h s := by
  obtain ⟨text, he, hn⟩ := hr
  simp only [bindCluster, Program.run_bind, Program.run_ofExcept, Engines.find?, he, hn]
  rfl

theorem Unbound.run {cluster : ResolvedCluster} {s s' : σ} {fault : Fault}
    {trace : List Happening} (hu : Unbound h engines options cluster s fault s' trace) :
    (bindCluster engines options cluster).run h s = ⟨.error fault, s', trace⟩ := by
  cases hu with
  | raised hr hf => exact (run_bindCluster_registered hr s).trans hf
  | collection hk =>
    rcases find?_cases engines cluster.endpoint.engine with
      ⟨-, hf⟩ | ⟨hother, -⟩ | ⟨engine, ⟨text, he, -⟩, -⟩
    · simp only [bindCluster, Program.run_bind, Program.run_ofExcept, hf, Run.andThen_error]
    · exact absurd hk hother
    · rw [he] at hk
      cases hk
  | unregistered hk hn =>
    rcases find?_cases engines cluster.endpoint.engine with
      ⟨hother, -⟩ | ⟨-, -, hf⟩ | ⟨engine, hr, -⟩
    · exact absurd hother hk
    · simp only [bindCluster, Program.run_bind, Program.run_ofExcept, hf]
      rfl
    · exact absurd hr (hn engine)

theorem Binds.run {clusters : List ResolvedCluster} {built : List Cache} {s s' : σ}
    {trace : List Happening} (hb : Binds h engines options clusters s built s' trace) :
    (Program.each (bindCluster engines options) clusters).run h s = ⟨.ok built, s', trace⟩ := by
  induction hb with
  | nil => rfl
  | cons hr hf _ ih =>
    rw [Program.run_each_cons, run_bindCluster_registered hr, hf, Run.andThen_ok, ih]
    simp

/-- One cluster: its engine is looked up, and the factory is called when there is one. -/
theorem bound_or_not (cluster : ResolvedCluster) (s : σ) :
    (∃ fault s' trace, Unbound h engines options cluster s fault s' trace) ∨
      ∃ engine cache s' trace, engines.Registers cluster.endpoint.engine engine ∧
        (engine.bind options cluster).run h s = ⟨.ok cache, s', trace⟩ := by
  rcases find?_cases engines cluster.endpoint.engine with ⟨hk, -⟩ | ⟨hk, hn, -⟩ | ⟨engine, hr, -⟩
  · exact .inl ⟨_, _, _, .collection hk⟩
  · exact .inl ⟨_, _, _, .unregistered hk hn⟩
  · generalize hrun : (engine.bind options cluster).run h s = run
    obtain ⟨outcome, s', trace⟩ := run
    cases outcome with
    | error fault => exact .inl ⟨fault, s', trace, .raised hr hrun⟩
    | ok cache => exact .inr ⟨engine, cache, s', trace, hr, hrun⟩

/-- By induction on the clusters: either all of them are bound, or those before one that cannot be. -/
theorem binds_or_not (clusters : List ResolvedCluster) (s : σ) :
    (∃ built s' trace, Binds h engines options clusters s built s' trace) ∨
      ∃ before cluster after built fault s' s'' trace failing,
        clusters = before ++ cluster :: after ∧
        Binds h engines options before s built s' trace ∧
        Unbound h engines options cluster s' fault s'' failing := by
  induction clusters generalizing s with
  | nil => exact .inl ⟨[], s, [], .nil s⟩
  | cons cluster rest ih =>
    rcases bound_or_not cluster s with
      ⟨fault, s', trace, hfault⟩ | ⟨engine, cache, s', trace, hr, hf⟩
    · exact .inr ⟨[], cluster, rest, [], fault, s, s', [], trace, rfl, .nil s, hfault⟩
    · rcases ih s' with ⟨built, s'', more, hrest⟩ |
        ⟨before, last, after, built, fault, s₁, s₂, more, failing, rfl, hbefore, hfault⟩
      · exact .inl ⟨cache :: built, s'', trace ++ more, .cons hr hf hrest⟩
      · exact .inr ⟨cluster :: before, last, after, cache :: built, fault, s₁, s₂, trace ++ more,
          failing, rfl, .cons hr hf hbefore, hfault⟩

variable {clusters : List ResolvedCluster} {built : List Cache} {s s' : σ}
  {trace : List Happening}

theorem Binds.names (keeps : engines.KeepsNames h options)
    (hb : Binds h engines options clusters s built s' trace) :
    List.Forall₂ (fun cluster cache => cache.name = cluster.logicalName) clusters built := by
  induction hb with
  | nil => exact .nil
  | cons hr hf _ ih => exact .cons (keeps.named hr (congrArg Run.outcome hf)) ih

theorem Binds.closes (keeps : engines.KeepsNames h options)
    (hb : Binds h engines options clusters s built s' trace) :
    ∀ cache ∈ built, ∀ s, (cache.close.run h s).outcome = .ok () := by
  induction hb with
  | nil => simp
  | cons hr hf _ ih => exact List.forall_mem_cons.mpr ⟨keeps.closes hr (congrArg Run.outcome hf), ih⟩

theorem mem_of_closedAfter {fault : Fault} {cache : Cache} (hm : cache ∈ closedAfter fault built) :
    cache ∈ built := by
  cases hs : fault.isStop with
  | true => simp [closedAfter, hs] at hm
  | false => rwa [closedAfter_error hs] at hm

/-- A factory that fails ends the build with its own fault, when the caches before it do close. -/
theorem run_build_failed {before : List ResolvedCluster} {cluster : ResolvedCluster}
    (after : List ResolvedCluster) {fault : Fault} {s'' : σ} {failing : List Happening}
    (hn : nameConflict? [] ((before ++ cluster :: after).map ResolvedCluster.logicalName) = none)
    (hbefore : Binds h engines options before s built s' trace)
    (hfault : Unbound h engines options cluster s' fault s'' failing)
    (hcloses : ∀ cache ∈ built, ∀ s, (cache.close.run h s).outcome = .ok ()) :
    (build engines (before ++ cluster :: after) options).run h s =
      ⟨.error fault, ((closeAll (closedAfter fault built)).run h s'').state,
        trace ++ failing ++ (closedAfter fault built).map Cache.closed⟩ := by
  have hclosed : ∀ cache ∈ closedAfter fault built, ∀ s, (cache.close.run h s).outcome = .ok () :=
    fun cache hm => hcloses cache (mem_of_closedAfter hm)
  have hfirst := hbefore.run
  obtain ⟨hc, hcol⟩ := @Program.run_each_stops _ _ _ h _ before cluster built fault s
    (by rw [hfirst]) (by rw [hfirst, hfault.run]) after
  rw [hfirst, hfault.run] at hc
  have hbind := run_bindAll_error h engines options [] hc
  rw [hcol, List.nil_append, Run.andThen_ok, run_closeAll_closed hclosed s'', Run.andThen_ok]
    at hbind
  simp only [build, hn, Program.run_bind, hbind, Run.andThen_error, List.append_nil]

theorem get_of_mem {r : Registry} {known : List Text} (hk : r.names = known.map Value.str)
    {cache : Cache} (hm : cache ∈ r.caches) : r.get cache.name = .ok cache := by
  obtain ⟨name, -, hn⟩ := name_of_mem hk hm
  rw [hn]
  simp only [get, get?, Value.key?, find?_of_mem hk hm hn]
  rfl

theorem get_of_binds (keeps : engines.KeepsNames h options) {registry : Registry}
    {texts : List Text} (hnames : registry.names = texts.map Value.str)
    (hb : Binds h engines options clusters s registry.caches s' trace) :
    List.Forall₂ (fun cluster cache => registry.get cluster.logicalName = .ok cache) clusters
      registry.caches := by
  have hget : ∀ cache ∈ registry.caches, registry.get cache.name = .ok cache :=
    fun cache hm => get_of_mem hnames hm
  have hpairs :=
    (List.forall₂_and_left registry.caches clusters).mpr ⟨hget, (hb.names keeps).flip⟩
  apply List.Forall₂.flip
  refine hpairs.imp fun cache cluster hp => ?_
  obtain ⟨hfound, hname⟩ := hp
  change registry.get cluster.logicalName = .ok cache
  rw [← hname]
  exact hfound

/-- Clusters under distinct texts that can all be bound become a registry. -/
theorem run_build_binds (keeps : engines.KeepsNames h options) {texts : List Text}
    (named : clusters.map ResolvedCluster.logicalName = texts.map Value.str) (hd : texts.Nodup)
    (hb : Binds h engines options clusters s built s' trace) :
    ∃ registry, registry.caches = built ∧
      registry.names = clusters.map ResolvedCluster.logicalName ∧
      (build engines clusters options).run h s =
        ⟨.ok registry, s', trace ++ [.said (.log (builtRecord texts))]⟩ := by
  have hn : nameConflict? [] (clusters.map ResolvedCluster.logicalName) = none :=
    (no_conflict_iff named).mpr hd
  have hsame : built.map Cache.name = clusters.map ResolvedCluster.logicalName :=
    (forall₂_agree_iff _ _ _ _).mp (hb.names keeps)
  obtain ⟨registry, rfl, hrun⟩ :=
    run_build_distinct h engines options hn hb.run (hsame.trans named) hd
  exact ⟨registry, rfl, hsame, hrun⟩

/-- The run of a build of clusters under texts is the one that takes its course: a name that is
repeated ends it before any factory is called, then the first cluster that cannot be bound ends it
with its own fault, and otherwise there is a registry. The caches built before such a cluster are
closed unless its factory stops the program. -/
theorem build_course_iff (h : Handler σ) (engines : Engines) (options : ClientOptions)
    (keeps : engines.KeepsNames h options) (clusters : List ResolvedCluster) (texts : List Text)
    (named : clusters.map ResolvedCluster.logicalName = texts.map Value.str) (s : σ)
    (run : Run σ Registry) :
    (build engines clusters options).run h s = run ↔
      Builds h engines options clusters texts s run := by
  have hconflict : nameConflict? [] (clusters.map ResolvedCluster.logicalName) =
      nameConflict? [] (texts.map Value.str) := by rw [named]
  constructor
  · rintro rfl
    cases hn : nameConflict? [] (texts.map Value.str) with
    | some fault =>
      obtain ⟨before, t, after, ht, hbefore, hrepeated, rfl⟩ :=
        repetition_of_conflict List.nodup_nil hn
      rw [run_build_conflict h engines options (hconflict.trans hn) s]
      exact .repeated ht hbefore hrepeated
    | none =>
      have hd : texts.Nodup := (no_conflict_iff rfl).mp hn
      rcases @binds_or_not _ h engines options clusters s with
        ⟨built, s', trace, hbinds⟩ |
        ⟨before, cluster, after, built, fault, s', s'', trace, failing, rfl, hbefore, hfault⟩
      · obtain ⟨registry, rfl, hnames, hrun⟩ := run_build_binds keeps named hd hbinds
        rw [hrun]
        exact .built hd hbinds hnames (get_of_binds keeps (hnames.trans named) hbinds)
      · have hrun :=
          run_build_failed after (hconflict.trans hn) hbefore hfault (hbefore.closes keeps)
        rcases fault.stop_or_not with ⟨reason, rfl⟩ | hs
        · rw [hrun, closedAfter_stop, List.map_nil, List.append_nil]
          exact .stopped hd rfl hbefore hfault
        · rw [hrun, closedAfter_error hs]
          exact .failed hd rfl hbefore hfault (Fault.isStop_eq_false_iff.mp hs)
  · intro hcourse
    cases hcourse with
    | repeated ht hbefore hrepeated =>
      apply run_build_conflict h engines options
      rw [hconflict, ht]
      exact @conflict_of_repetition [] _ _ _ hbefore hrepeated
    | failed hd hs hbefore hfault herror =>
      subst hs
      have hn := (no_conflict_iff named).mpr hd
      have hrun := run_build_failed _ hn hbefore hfault (hbefore.closes keeps)
      rwa [closedAfter_error (Fault.isStop_eq_false_iff.mpr herror)] at hrun
    | stopped hd hs hbefore hstop =>
      subst hs
      have hn := (no_conflict_iff named).mpr hd
      have hrun := run_build_failed _ hn hbefore hstop (hbefore.closes keeps)
      rwa [closedAfter_stop, List.map_nil, List.append_nil] at hrun
    | built hd hbinds hnames hget =>
      obtain ⟨registry, hcaches, -, hrun⟩ := run_build_binds keeps named hd hbinds
      rw [hrun, caches_inj hcaches]

theorem refusing_keepsNames (fault : Fault) :
    (refusing fault).KeepsNames (Handler.closing fun _ => .ok ()) {} where
  named := by
    intro name engine cluster s cache hr hc
    obtain ⟨text, rfl, hn⟩ := hr
    have he : engine = Engine.naming fun name =>
        if name.isStr ['c'] then .error fault else .ok name := by
      simp only [refusing, Engines.named?, List.find?_cons] at hn
      split at hn
      · exact (Option.some.inj hn).symm
      · cases hn
    subst he
    simp only [Engine.bind, Engine.naming, Program.run_bind, Program.run_ofExcept] at hc
    split at hc
    · cases hc
    · cases hc
      rfl
  closes := fun _ _ _ => rfl

/-- The third cache cannot be made, so the two before it are closed. -/
theorem third_factory_fails :
    let clusters := [clusterNamed ['a'], clusterNamed ['b'], clusterNamed ['c']]
    let run := (build picky clusters {}).run (Handler.closing fun _ => .ok ()) ()
    Builds (Handler.closing fun _ => .ok ()) picky {} clusters [['a'], ['b'], ['c']] () run ∧
      run.outcome = .error .noCharacter ∧ closings run.trace = [0, 1] := by
  intro clusters run
  have hcourse := (build_course_iff (Handler.closing fun _ => .ok ()) picky {}
    (refusing_keepsNames .noCharacter) clusters [['a'], ['b'], ['c']] rfl () run).mp rfl
  exact ⟨hcourse, rfl, rfl⟩

/-- A factory that stops the program, say because a setting is missing, leaves a cache open that was
built before. -/
theorem not_every_failing_factory_closes :
    ¬ ∀ (h : Handler Unit) (engines : Engines) (before : List ResolvedCluster)
      (cluster : ResolvedCluster) (texts : List Text) (built : List Cache) (fault : Fault)
      (trace failing : List Happening), engines.KeepsNames h {} →
      (before ++ [cluster]).map ResolvedCluster.logicalName = texts.map Value.str → texts.Nodup →
      Binds h engines {} before () built () trace →
      Unbound h engines {} cluster () fault () failing →
        closings ((build engines (before ++ [cluster]) {}).run h ()).trace =
          closings (trace ++ failing) ++ built.map Cache.client := by
  intro hall
  let stopping : Engines := refusing (.stop .pathNotSet)
  have hregisters : stopping.Registers (.str ['m']) _ := ⟨['m'], rfl, rfl⟩
  have hbefore : Binds (Handler.closing fun _ => .ok ()) stopping {} [clusterNamed ['a']] ()
      [⟨.str ['a'], 0, .null⟩] () ([] ++ []) := .cons hregisters rfl (.nil ())
  have hstop : Unbound (Handler.closing fun _ => .ok ()) stopping {} (clusterNamed ['c']) ()
      (.stop .pathNotSet) () [] := .raised hregisters rfl
  have hclosed := hall _ stopping _ _ [['a'], ['c']] _ _ _ _ (refusing_keepsNames _) rfl (by decide)
    hbefore hstop
  cases hclosed

end Registry

end CacheWiring
