import CacheWiring.Proofs.Building
import CacheWiring.Proofs.Resolution

namespace CacheWiring

variable {σ : Type} (h : Handler σ)

/-- A located target with the client that its cache is on. -/
structure Wire extends Located where
  client : Nat

namespace Wire

def cache (default : Value) (w : Wire) : Cache :=
  ⟨w.target.logicalName, w.client, w.expiration default⟩

/-- The connection that the client was made for; it is pooled when a pool size is given. -/
def connection (options : ClientOptions) (w : Wire) : Connection :=
  ⟨w.servers, ⟨options.connectTimeout, options.timeout, !options.maxPoolSize.isNull,
    options.maxPoolSize⟩, .ok w.client⟩

end Wire

def connect (options : ClientOptions) (servers : List NodeEndpoint) : Program Nat :=
  Program.request (.connect servers (Engine.settings options))

theorem run_connectMemcached (name expiration : Value) (endpoint : ClusterEndpoint)
    (options : ClientOptions) (s : σ) :
    ∃ output, (Engine.connectMemcached name endpoint expiration options).run h s =
      ((connect options endpoint.servers).run h s).andThen fun client s =>
        ⟨.ok ⟨name, client, expiration⟩, s, [.said output]⟩ := by
  refine ⟨.log ⟨.debug, .memcached, "memcached client for " ++ name.text ++ " bound to " ++
    Engine.serversText endpoint.servers⟩, ?_⟩
  exact Program.run_bind h (connect options endpoint.servers) _ s

/-- The factory of a memcached cluster connects a client to its servers and says so. -/
theorem run_bindCluster_memcached (options : ClientOptions) {cluster : ResolvedCluster}
    (hengine : cluster.endpoint.engine = .str "memcached") (s : σ) :
    ∃ output, (Registry.bindCluster .shipped options cluster).run h s =
      ((connect options cluster.endpoint.servers).run h s).andThen fun client s =>
        ⟨.ok ⟨cluster.logicalName, client, cluster.expiration⟩, s, [.said output]⟩ := by
  obtain ⟨output, hrun⟩ := run_connectMemcached h cluster.logicalName cluster.expiration
    cluster.endpoint options s
  have hfound := (find?_shipped_iff cluster.endpoint.engine Engine.memcached).mpr ⟨hengine, rfl⟩
  refine ⟨output, ?_⟩
  rw [← hrun]
  simp only [Registry.bindCluster, hfound, Program.run_bind, Program.run_ofExcept, Run.andThen_ok]
  rfl

theorem run_bindCluster_located (options : ClientOptions) (default : Value) (l : Located) (s : σ) :
    ∃ output, (Registry.bindCluster .shipped options (l.cluster default)).run h s =
      ((connect options l.servers).run h s).andThen fun client s =>
        ⟨.ok ⟨l.target.logicalName, client, l.expiration default⟩, s, [.said output]⟩ := by
  rw [← servers_located default l]
  exact run_bindCluster_memcached h options rfl s

theorem bindCluster_expiration {options : ClientOptions} {cluster : ResolvedCluster} {s : σ}
    {cache : Cache}
    (hb : ((Registry.bindCluster .shipped options cluster).run h s).outcome = .ok cache) :
    (cache.name, cache.expiration) = (cluster.logicalName, cluster.expiration) := by
  simp only [Registry.bindCluster, Program.run_bind, Run.andThen_outcome_ok,
    Program.run_ofExcept] at hb
  obtain ⟨found, hfound, hb⟩ := hb
  cases found with
  | none => cases hb
  | some engine =>
    obtain ⟨-, rfl⟩ := (find?_shipped_iff _ _).mp hfound
    obtain ⟨output, hrun⟩ := run_connectMemcached h cluster.logicalName cluster.expiration
      cluster.endpoint options s
    change ((Engine.connectMemcached _ _ _ _).run h s).outcome = .ok cache at hb
    rw [hrun, Run.andThen_outcome_ok] at hb
    obtain ⟨client, -, hb⟩ := hb
    cases hb
    rfl

/-- Binding a cluster to the shipped engine takes a connection at most, and the log of it. -/
theorem bindCluster_only {allowed : Happening → Prop}
    (hconnect : ∀ servers settings reply, allowed (.asked (.connect servers settings) reply))
    (hlog : ∀ record, allowed (.said (.log record))) (options : ClientOptions)
    (cluster : ResolvedCluster) : (Registry.bindCluster .shipped options cluster).Only allowed := by
  unfold Registry.bindCluster
  cases hf : Engines.shipped.find? cluster.endpoint.engine with
  | error fault => exact trivial
  | ok found =>
    cases found with
    | none => exact trivial
    | some engine =>
      obtain ⟨-, rfl⟩ := (find?_shipped_iff _ _).mp hf
      exact (Program.Only.request (hconnect _ _)).bind fun _ =>
        (Program.Only.log (hlog _)).bind fun _ => .pure _

theorem connections_connect_ok {options : ClientOptions} {servers : List NodeEndpoint} {s : σ}
    {client : Nat} (hc : ((connect options servers).run h s).outcome = .ok client) :
    connections ((connect options servers).run h s).trace =
      [⟨servers, Engine.settings options, .ok client⟩] :=
  congrArg (fun reply => [Connection.mk servers (Engine.settings options) reply]) hc

/-- Binding located targets succeeds exactly when a client can be connected for each of them. -/
theorem bind_located_ok_iff (options : ClientOptions) (default : Value) (located : List Located)
    (s : σ) (caches : List Cache) :
    ((Program.each (Registry.bindCluster .shipped options)
        (located.map (Located.cluster default))).run h s).outcome = .ok caches ↔
      ∃ wires : List Wire, wires.map Wire.toLocated = located ∧
        ((Program.each (connect options) (located.map Located.servers)).run h s).outcome =
          .ok (wires.map Wire.client) ∧
        wires.map (Wire.cache default) = caches := by
  induction located generalizing s caches with
  | nil =>
    constructor
    · intro hp
      cases hp
      exact ⟨[], rfl, rfl, rfl⟩
    · intro hp
      obtain ⟨wires, hw, -, rfl⟩ := hp
      rw [List.map_eq_nil_iff.mp hw]
      rfl
  | cons l rest ih =>
    obtain ⟨output, hbind⟩ := run_bindCluster_located h options default l s
    simp only [List.map_cons, Program.run_each_cons, hbind]
    generalize (connect options l.servers).run h s = first
    obtain ⟨outcome, s', trace⟩ := first
    cases outcome with
    | error fault => simp
    | ok client =>
      simp only [Run.andThen_ok, Run.andThen_outcome_ok, ih, Except.ok.injEq]
      constructor
      · intro hp
        obtain ⟨_, ⟨wires, rfl, hclients, rfl⟩, rfl⟩ := hp
        exact ⟨⟨l, client⟩ :: wires, rfl, ⟨_, hclients, rfl⟩, rfl⟩
      · intro hp
        obtain ⟨wires, hw, ⟨clients, hclients, hcons⟩, rfl⟩ := hp
        obtain ⟨w, others, rfl, rfl, rfl⟩ := List.map_eq_cons_iff.mp hw
        obtain ⟨rfl, rfl⟩ := List.cons.inj hcons
        exact ⟨_, ⟨others, rfl, hclients, rfl⟩, rfl⟩

/-- The connections of these bindings are those of the clients. -/
theorem connections_bind_located (options : ClientOptions) (default : Value) (wires : List Wire)
    (s : σ) (hc : ((Program.each (connect options)
      ((wires.map Wire.toLocated).map Located.servers)).run h s).outcome =
        .ok (wires.map Wire.client)) :
    connections ((Program.each (Registry.bindCluster .shipped options)
        ((wires.map Wire.toLocated).map (Located.cluster default))).run h s).trace =
      wires.map (Wire.connection options) := by
  induction wires generalizing s with
  | nil => rfl
  | cons w rest ih =>
    obtain ⟨output, hbind⟩ := run_bindCluster_located h options default w.toLocated s
    have hfirst := @connections_connect_ok _ h options w.servers s w.client
    simp only [List.map_cons, Program.run_each_cons, hbind] at hc ⊢
    generalize (connect options w.servers).run h s = first at hc hfirst ⊢
    obtain ⟨outcome, s', trace⟩ := first
    cases outcome with
    | error fault => cases hc
    | ok client =>
      simp only [Run.andThen_ok] at hc ⊢
      obtain ⟨others, ho, he⟩ := Run.andThen_outcome_ok.mp hc
      obtain ⟨rfl, rfl⟩ := List.cons.inj (Except.ok.inj he)
      have hrest := ih s' ho
      simp only [Run.andThen_trace, connections_append, connections_said, connections_nil,
        hfirst rfl, hrest]
      rfl

/-- What startup goes through when it succeeds: the wires are on the targets in order, under
distinct names, each located by the directory, and their clients are connected in order once
everything is resolved. -/
structure Wired (c : Configuration) (directory : ClusterDirectory) (stack : Option StackDirectory)
    (answers : Value → Except Fault (List ClusterDescription)) (s : σ) (wires : List Wire) :
    Prop where
  targets : HasTargets h c.clusters stack s (wires.map fun w => w.target)
  names : DistinctNames (wires.map fun w => w.target.logicalName)
  known : ∀ w ∈ wires, w.Known answers
  connected : ((Program.each (connect c.client) (wires.map fun w => w.servers)).run h
    ((c.resolveClusters .shipped ⟨some directory, stack⟩).run h s).state).outcome =
      .ok (wires.map Wire.client)

/-- Startup resolves, then builds. -/
theorem run_start (c : Configuration) (engines : Engines) (given : Supplied) (s : σ) :
    (c.start engines given).run h s =
      ((c.resolveClusters engines given).run h s).andThen fun resolved s =>
        ((Registry.build engines resolved c.client).run h s).andThen fun registry s =>
          ⟨.ok ⟨c, registry, resolved, false⟩, s, []⟩ := by
  simp only [Configuration.start, Program.run_bind, Program.run_pure]

variable {h} {c : Configuration} {directory : ClusterDirectory} {stack : Option StackDirectory}
  {answers : Value → Except Fault (List ClusterDescription)} {s : σ}

/-- A startup that returned a context has gone through this for some wires. -/
theorem wired_of_start (answering : h.Answers directory answers)
    (given : stack = none → c.stack = none) (timed : c.Timed) {context : CachingContext}
    (hc : ((c.start .shipped ⟨some directory, stack⟩).run h s).outcome = .ok context) :
    ∃ wires, Wired h c directory stack answers s wires := by
  rw [run_start] at hc
  obtain ⟨resolved, hr, hc⟩ := Run.andThen_outcome_ok.mp hc
  obtain ⟨registry, hb, -⟩ := Run.andThen_outcome_ok.mp hc
  have hresolved := hr
  rw [resolveClusters_given c .shipped directory given, resolve_ok_iff answering timed] at hresolved
  obtain ⟨located, ht, hknown, rfl⟩ := hresolved
  obtain ⟨hn, hcaches, hdistinct⟩ := (Registry.build_ok_iff h _ _ _ _ registry).mp hb
  obtain ⟨wires, rfl, hclients, hwires⟩ := (bind_located_ok_iff h _ _ _ _ _).mp hcaches
  rw [List.map_map] at ht hclients
  rw [Registry.names, ← hwires, List.map_map] at hdistinct
  exact ⟨wires, ht, hdistinct, List.forall_mem_map.mp hknown, hclients⟩

/-- Going through it returns a context with one cache for each wire. -/
theorem Wired.start {wires : List Wire} (wired : Wired h c directory stack answers s wires)
    (answering : h.Answers directory answers) (given : stack = none → c.stack = none)
    (timed : c.Timed) :
    ∃ registry : Registry, registry.caches = wires.map (Wire.cache c.defaultExpiration) ∧
      ((c.start .shipped ⟨some directory, stack⟩).run h s).outcome =
        .ok ⟨c, registry, wires.map fun w => w.cluster c.defaultExpiration, false⟩ ∧
      connections ((c.start .shipped ⟨some directory, stack⟩).run h s).trace =
        wires.map (Wire.connection c.client) := by
  obtain ⟨htargets, hnames, hknown, hclients⟩ := wired
  let located := wires.map Wire.toLocated
  have hlogical : (located.map (Located.cluster c.defaultExpiration)).map
      ResolvedCluster.logicalName = wires.map fun w => w.target.logicalName := by
    simp [located, Function.comp_def, Located.cluster]
  have hcached : (wires.map (Wire.cache c.defaultExpiration)).map Cache.name =
      wires.map fun w => w.target.logicalName := by simp [Function.comp_def, Wire.cache]
  have hconflict := ((distinctNames_iff _).mp hnames).1
  let registry : Registry := ⟨wires.map (Wire.cache c.defaultExpiration), hcached ▸ hconflict⟩
  have hregistry : registry.names = wires.map fun w => w.target.logicalName := hcached
  have hresolved : ((c.resolveClusters .shipped ⟨some directory, stack⟩).run h s).outcome =
      .ok (located.map (Located.cluster c.defaultExpiration)) := by
    rw [resolveClusters_given c .shipped directory given, resolve_ok_iff answering timed]
    refine ⟨located, ?_, List.forall_mem_map.mpr hknown, rfl⟩
    rw [List.map_map]
    exact htargets
  have hconnected : ((Program.each (connect c.client) (located.map Located.servers)).run h
      ((c.resolveClusters .shipped ⟨some directory, stack⟩).run h s).state).outcome =
        .ok (wires.map Wire.client) := by
    rw [List.map_map]
    exact hclients
  have hbound := (bind_located_ok_iff h c.client c.defaultExpiration located _
    registry.caches).mpr ⟨wires, rfl, hconnected, rfl⟩
  have hbuilt := (Registry.build_ok_iff h .shipped c.client _ _ registry).mpr
    ⟨hlogical ▸ hconflict, hbound, hregistry ▸ hnames⟩
  obtain ⟨output, htrace⟩ := Registry.build_ok_trace h .shipped c.client hbuilt
  have hoffline := (resolve_offline (Resolver.mk .shipped directory stack) c.clusters
    c.defaultExpiration).connections_eq_nil h s
  have hconnections := connections_bind_located h c.client c.defaultExpiration wires _ hconnected
  rw [← resolveClusters_given c .shipped directory given] at hoffline
  rw [run_start, Run.andThen_of_ok hresolved, Run.andThen_of_ok hbuilt, htrace]
  refine ⟨registry, rfl, ?_, ?_⟩
  · simp [located, Function.comp_def]
  · simp only [connections_append, hoffline, hconnections, located]
    simp

/-- Startup returns a context exactly when there are wires as `Wired` says. The context then has
their caches in their order, and the connections that were asked for are theirs and no others. -/
theorem start_iff_wired (h : Handler σ) (c : Configuration) (directory : ClusterDirectory)
    (stack : Option StackDirectory) (answers : Value → Except Fault (List ClusterDescription))
    (s : σ) (answering : h.Answers directory answers) (given : stack = none → c.stack = none)
    (timed : c.Timed) :
    let run := (c.start .shipped ⟨some directory, stack⟩).run h s
    ((∃ context, run.outcome = .ok context) ↔
        ∃ wires, Wired h c directory stack answers s wires) ∧
      ∀ wires context, Wired h c directory stack answers s wires → run.outcome = .ok context →
        context.registry.names = wires.map (fun w => w.target.logicalName) ∧
        context.registry.caches = wires.map (Wire.cache c.defaultExpiration) ∧
        context.resolved = wires.map (fun w => w.cluster c.defaultExpiration) ∧
        connections run.trace = wires.map (Wire.connection c.client) ∧
        context.configuration = c ∧ context.closed = false := by
  intro run
  constructor
  · constructor
    · intro hp
      obtain ⟨context, hc⟩ := hp
      exact wired_of_start answering given timed hc
    · intro hp
      obtain ⟨wires, wired⟩ := hp
      obtain ⟨registry, -, hc, -⟩ := wired.start answering given timed
      exact ⟨_, hc⟩
  · intro wires context wired hcontext
    obtain ⟨registry, hcaches, hc, hconnections⟩ := wired.start answering given timed
    obtain rfl := Except.ok.inj (hcontext.symm.trans hc)
    refine ⟨?_, hcaches, rfl, hconnections, rfl, rfl⟩
    simp [Registry.names, hcaches, Function.comp_def, Wire.cache]

/-- A cloud in which every cluster is on a host of its own name, without a port or nodes. -/
def hostPerCluster : Handler Unit where
  answer s
    | .describe id _ => (.ok [⟨id, .str "memcached", some ⟨id, .int 0⟩, []⟩], s)
    | .connect .. => (.ok (7 : Nat), s)
    | _ => (.error .noFields, s)

/-- Two caches, the first of which never expires although there is a default. -/
def twoCaches : Configuration where
  clusters := [⟨.str ['a'], .int 0⟩, ⟨.str ['b'], .null⟩]
  defaultExpiration := .int 12

theorem two_caches_start :
    let run := (twoCaches.start .shipped ⟨some .supplied, none⟩).run hostPerCluster ()
    ∃ context, run.outcome = .ok context ∧
      context.registry.caches = [⟨.str ['a'], 7, .int 0⟩, ⟨.str ['b'], 7, .int 12⟩] ∧
      (connections run.trace).map Connection.servers =
        [[⟨.str ['a'], .int 11211⟩], [⟨.str ['b'], .int 11211⟩]] := by
  let answers (id : Value) : Except Fault (List ClusterDescription) :=
    .ok [⟨id, .str "memcached", some ⟨id, .int 0⟩, []⟩]
  let wire (name : Text) (expiration : Value) : Wire :=
    ⟨⟨⟨.str name, .str name, expiration⟩,
      ⟨.str name, .str "memcached", some ⟨.str name, .int 0⟩, []⟩, ⟨.str name, .int 0⟩⟩, 7⟩
  let wires := [wire ['a'] (.int 0), wire ['b'] .null]
  have answering : hostPerCluster.Answers .supplied answers := fun _ _ => rfl
  have timed : twoCaches.Timed := by
    simp [Configuration.Timed, twoCaches, Value.whole]
  have known (name : Text) (expiration : Value) : (wire name expiration).Known answers :=
    ⟨rfl, rfl, rfl⟩
  have wired : Wired hostPerCluster twoCaches .supplied none answers () wires :=
    ⟨.inl ⟨List.cons_ne_nil _ _, rfl⟩, ⟨[['a'], ['b']], rfl, by decide⟩,
      List.forall_mem_cons.mpr ⟨known _ _, List.forall_mem_singleton.mpr (known _ _)⟩, rfl⟩
  have hstart := start_iff_wired hostPerCluster twoCaches .supplied none answers () answering
    (fun _ => rfl) timed
  obtain ⟨context, hc⟩ := hstart.1.mpr ⟨wires, wired⟩
  obtain ⟨-, hcaches, -, hconnections, -⟩ := hstart.2 wires context wired hc
  exact ⟨context, hc, hcaches, by rw [hconnections]; rfl⟩

end CacheWiring
