import CacheWiring.Proofs.Startup

namespace CacheWiring

variable {σ : Type} (h : Handler σ)

/-- Cache servers are connected to and their clients closed, and that goes into the log. -/
def Happening.Binding : Happening → Prop
  | .asked (.connect ..) _ | .asked (.call _ .close) _ | .said (.log _) => True
  | _ => False

theorem Happening.Offline.request {r : Request} {reply : Except Fault r.Reply}
    (ho : Happening.Offline (.asked r reply)) : r.Offline := by
  cases r with
  | connect servers settings => cases ho.1
  | call client c => cases ho.2.1
  | _ => trivial

theorem Happening.Binding.request {r : Request} {reply : Except Fault r.Reply}
    (hb : Happening.Binding (.asked r reply)) : ¬ r.Offline := by
  cases r with
  | connect servers settings => exact id
  | call client c => exact id
  | _ => exact hb.elim

/-- A request that was made is part of something that happened. -/
theorem mem_of_mem_requests {trace : List Happening} {r : Request} (hr : r ∈ requests trace) :
    ∃ reply, .asked r reply ∈ trace := by
  obtain ⟨happening, hm, he⟩ := List.mem_filterMap.mp hr
  cases happening with
  | asked request reply =>
    cases he
    exact ⟨reply, hm⟩
  | said output => cases he

theorem build_binding (options : ClientOptions) (clusters : List ResolvedCluster) :
    (Registry.build .shipped clusters options).Only Happening.Binding :=
  Registry.build_only (bindCluster_only (fun _ _ _ => trivial) (fun _ => trivial) options)
    (fun _ _ => trivial) (fun _ => trivial) clusters

/-- Whatever happens in a startup once everything is resolved is part of the binding. -/
theorem start_trace (c : Configuration) (given : Supplied) (s : σ) :
    ∃ binding, ((c.start .shipped given).run h s).trace =
        ((c.resolveClusters .shipped given).run h s).trace ++ binding ∧
      ∀ happening ∈ binding, happening.Binding := by
  rw [run_start]
  cases ho : ((c.resolveClusters .shipped given).run h s).outcome with
  | error fault =>
    rw [Run.andThen_of_error ho]
    exact ⟨[], (List.append_nil _).symm, by simp⟩
  | ok resolved =>
    rw [Run.andThen_of_ok ho, Run.andThen_trace]
    exact ⟨_, rfl, fun _ hm => (build_binding c.client resolved).of_mem h hm⟩

/-- Cache servers and their clients fail in ways of their own, none of which is a fault of cache
wiring. -/
def Handler.ForeignFaults : Prop :=
  ∀ s r fault, ¬ r.Offline → (h.answer s r).1 = .error fault → fault.isWiring = false

variable {h}

theorem resolveTarget_engine {directory : ClusterDirectory} {stack : Option StackDirectory}
    {default : Value} {target : Target} {s : σ} {cluster : ResolvedCluster}
    (hr : (((Resolver.mk .shipped directory stack).resolveTarget default target).run h s).outcome =
      .ok cluster) : cluster.endpoint.engine = .str "memcached" := by
  simp only [Resolver.resolveTarget, Resolver.resolveCluster, Program.run_bind,
    Run.andThen_outcome_ok, Program.run_ofExcept, Program.run_pure,
    endpointOf_shipped_ok_iff] at hr
  obtain ⟨_, ⟨_, -, _, -, -, _, -, rfl⟩, -, -, -, -, hr⟩ := hr
  cases hr
  rfl

theorem resolved_engines {c : Configuration} {given : Supplied} {s : σ}
    {resolved : List ResolvedCluster}
    (hr : ((c.resolveClusters .shipped given).run h s).outcome = .ok resolved) :
    ∀ cluster ∈ resolved, cluster.endpoint.engine = .str "memcached" := by
  simp only [Configuration.resolveClusters, Resolver.resolve, Program.run_bind,
    Run.andThen_outcome_ok] at hr
  obtain ⟨directory, -, stack, -, targets, -, hr⟩ := hr
  have hall := Program.forall₂_of_each h (fun _ _ _ hr => resolveTarget_engine hr) hr
  clear hr
  induction hall with
  | nil => simp
  | cons hfirst _ ih => exact List.forall_mem_cons.mpr ⟨hfirst, ih⟩

theorem bound_names {options : ClientOptions} {clusters : List ResolvedCluster} {s : σ}
    {caches : List Cache}
    (hc : ((Program.each (Registry.bindCluster .shipped options) clusters).run h s).outcome =
      .ok caches) : caches.map Cache.name = clusters.map ResolvedCluster.logicalName :=
  (forall₂_agree_iff _ _ _ _).mp (Program.forall₂_of_each h
    (fun _ _ _ hb => congrArg Prod.fst (bindCluster_expiration h hb)) hc)

theorem Engines.find?_memcached {name : Value} (hname : name = .str "memcached") :
    Engines.shipped.find? name = .ok (some Engine.memcached) :=
  (find?_shipped_iff _ _).mpr ⟨hname, rfl⟩

/-- Names that are not in conflict can only fail to be listed. -/
theorem build_fault_of_names {options : ClientOptions} {clusters : List ResolvedCluster}
    {caches : List Cache} {s s' : σ} {trace : List Happening} {fault : Fault}
    (hn : nameConflict? [] (clusters.map ResolvedCluster.logicalName) = none)
    (hc : (Program.each (Registry.bindCluster .shipped options) clusters).run h s =
      ⟨.ok caches, s', trace⟩)
    (hf : ((Registry.build .shipped clusters options).run h s).outcome = .error fault) :
    fault = .wrongType := by
  have hnames : nameConflict? [] (caches.map Cache.name) = none := by
    rw [bound_names (congrArg Run.outcome hc)]
    exact hn
  have hbound := Registry.run_bindAll_ok h .shipped options [] hc
  simp only [Registry.build, hn, Program.run_bind, hbound, List.nil_append, Run.andThen_ok,
    Program.run_ofExcept, Registry.ofCaches_ok hnames] at hf
  cases ht : Registry.nameTexts ⟨caches, hnames⟩ with
  | ok texts =>
    rw [ht] at hf
    cases hf
  | error other =>
    rw [ht] at hf
    cases hf
    obtain ⟨name, -, hname⟩ := exists_of_mapM_error ht
    unfold Value.toStr at hname
    split at hname <;> cases hname
    rfl

theorem bindCluster_fault {options : ClientOptions} {cluster : ResolvedCluster} {s : σ}
    {fault : Fault} (hengine : cluster.endpoint.engine = .str "memcached")
    (hf : ((Registry.bindCluster .shipped options cluster).run h s).outcome = .error fault) :
    (h.answer s (.connect cluster.endpoint.servers (Engine.settings options))).1 =
      .error fault := by
  obtain ⟨output, hrun⟩ := run_bindCluster_memcached h options hengine s
  rw [hrun] at hf
  rcases Run.andThen_outcome_error.mp hf with hconnect | ⟨client, -, hf⟩
  · exact hconnect
  · cases hf

/-- Under names that are not in conflict, binding memcached clusters fails because the names cannot
be listed, or with a fault of a cache server. -/
theorem build_fault_apart {options : ClientOptions} {clusters : List ResolvedCluster} {s : σ}
    {fault : Fault} (hengines : ∀ cluster ∈ clusters, cluster.endpoint.engine = .str "memcached")
    (hn : nameConflict? [] (clusters.map ResolvedCluster.logicalName) = none)
    (hf : ((Registry.build .shipped clusters options).run h s).outcome = .error fault) :
    fault = .wrongType ∨ ∃ s' r, ¬ r.Offline ∧ (h.answer s' r).1 = .error fault := by
  generalize hc : (Program.each (Registry.bindCluster .shipped options) clusters).run h s = calls
  obtain ⟨outcome, s', trace⟩ := calls
  cases outcome with
  | ok caches => exact .inl (build_fault_of_names hn hc hf)
  | error first =>
    right
    rw [(Registry.run_build_failing h .shipped options hn hc rfl).1] at hf
    obtain rfl := Except.error.inj hf
    -- The fault is that of a close if one fails, and that of a factory otherwise.
    cases hclose : closeFault? (closeOutcomes h (Registry.closedAfter first
        (Program.collected h (Registry.bindCluster .shipped options) clusters s)) s') with
    | some other =>
      obtain ⟨cache, -, s'', hother⟩ := exists_of_mem_closeOutcomes (mem_of_closeFault? hclose)
      exact ⟨s'', .call cache.client .close, id, hother⟩
    | none =>
      obtain ⟨cluster, hm, s'', hfirst⟩ := Program.fault_of_each h (congrArg Run.outcome hc)
      exact ⟨s'', .connect _ _, id, bindCluster_fault (hengines cluster hm) hfirst⟩

/-- Names in conflict are told before anything has happened. -/
theorem build_fault_cases {options : ClientOptions} {clusters : List ResolvedCluster} {s : σ}
    {fault : Fault} (hengines : ∀ cluster ∈ clusters, cluster.endpoint.engine = .str "memcached")
    (hf : ((Registry.build .shipped clusters options).run h s).outcome = .error fault) :
    ((Registry.build .shipped clusters options).run h s).trace = [] ∨ fault = .wrongType ∨
      ∃ s' r, ¬ r.Offline ∧ (h.answer s' r).1 = .error fault := by
  cases hn : nameConflict? [] (clusters.map ResolvedCluster.logicalName) with
  | some conflict => exact .inl (by rw [Registry.run_build_conflict h .shipped options hn s])
  | none => exact .inr (build_fault_apart hengines hn hf)

/-- Clusters are only bound when all factories return. -/
theorem each_of_bindAll {options : ClientOptions} {clusters : List ResolvedCluster} {s : σ}
    {caches : List Cache}
    (hb : ((Registry.bindAll .shipped options [] clusters).run h s).outcome = .ok caches) :
    ((Program.each (Registry.bindCluster .shipped options) clusters).run h s).outcome =
      .ok caches := by
  generalize hc : (Program.each (Registry.bindCluster .shipped options) clusters).run h s = calls
  obtain ⟨outcome, s', trace⟩ := calls
  cases outcome with
  | ok others =>
    rw [Registry.run_bindAll_ok h .shipped options [] hc] at hb
    exact hb
  | error fault =>
    rw [Registry.run_bindAll_error h .shipped options [] hc, Run.andThen_ok] at hb
    obtain ⟨_, -, hb⟩ := Run.andThen_outcome_ok.mp hb
    cases hb

/-- A startup that fails in terms of cache wiring has not come to its first connection. -/
theorem connections_of_wiring_fault (foreign : h.ForeignFaults) {c : Configuration}
    {given : Supplied} {s : σ} {fault : Fault}
    (hf : ((c.start .shipped given).run h s).outcome = .error fault)
    (hw : fault.isWiring = true) : connections ((c.start .shipped given).run h s).trace = [] := by
  have hresolving := (resolveClusters_offline c .shipped given).connections_eq_nil h s
  rw [run_start] at hf ⊢
  rcases Run.andThen_outcome_error.mp hf with hr | ⟨resolved, hr, hf⟩
  · rw [Run.andThen_of_error hr]
    exact hresolving
  · rw [Run.andThen_of_ok hr, Run.andThen_trace, connections_append, hresolving, List.nil_append]
    rcases Run.andThen_outcome_error.mp hf with hb | ⟨registry, -, hf⟩
    · rcases build_fault_cases (resolved_engines hr) hb with hnone | rfl | ⟨s', r, ho, ha⟩
      · rw [hnone]
        rfl
      · cases hw
      · cases hw.symm.trans (foreign s' r fault ho ha)
    · cases hf

/-- No request to a directory or a stack follows one to a cache server, and no connection has been
asked for when startup ends with a fault of cache wiring, provided that the cache servers have no
such faults. What was resolved names a registered engine and, as long as the names are not in
conflict, gets caches that can be put into a registry. -/
theorem start_connects_last (h : Handler σ) (foreign : h.ForeignFaults) (c : Configuration)
    (given : Supplied) (s : σ) :
    let resolving := (c.resolveClusters .shipped given).run h s
    let run := (c.start .shipped given).run h s
    (requests run.trace).Pairwise (fun earlier later => ¬ earlier.Offline → ¬ later.Offline) ∧
      (∀ fault, run.outcome = .error fault → fault.isWiring = true → connections run.trace = []) ∧
      ∀ resolved, resolving.outcome = .ok resolved →
        (∀ cluster ∈ resolved, ∃ engine,
          Engines.shipped.find? cluster.endpoint.engine = .ok (some engine)) ∧
        ∀ caches, nameConflict? [] (resolved.map ResolvedCluster.logicalName) = none →
          ((Registry.bindAll .shipped c.client [] resolved).run h resolving.state).outcome =
            .ok caches → ∃ registry, Registry.ofCaches caches = .ok registry := by
  intro resolving run
  refine ⟨?_, fun fault hf hw => connections_of_wiring_fault foreign hf hw, ?_⟩
  · obtain ⟨binding, htrace, hbinding⟩ := start_trace h c given s
    have hbefore : ∀ r ∈ requests resolving.trace, r.Offline := by
      intro r hr
      obtain ⟨reply, hm⟩ := mem_of_mem_requests hr
      exact ((resolveClusters_offline c .shipped given).of_mem h hm).request
    have hafter : ∀ r ∈ requests binding, ¬ r.Offline := by
      intro r hr
      obtain ⟨reply, hm⟩ := mem_of_mem_requests hr
      exact (hbinding _ hm).request
    rw [htrace, requests_append, List.pairwise_append]
    refine ⟨?_, ?_, fun _ _ later hl _ => hafter later hl⟩
    · exact List.pairwise_of_forall_mem_list fun earlier he _ _ ho => absurd (hbefore earlier he) ho
    · exact List.pairwise_of_forall_mem_list fun _ _ later hl _ => hafter later hl
  · intro resolved hr
    refine ⟨fun cluster hm => ⟨_, Engines.find?_memcached (resolved_engines hr cluster hm)⟩, ?_⟩
    intro caches hn hb
    rw [← bound_names (each_of_bindAll hb)] at hn
    exact ⟨⟨caches, hn⟩, Registry.ofCaches_ok hn⟩

theorem hostPerCluster_foreign : hostPerCluster.ForeignFaults := by
  intro s r fault ho ha
  cases r with
  | connect servers settings => cases ha
  | call client c =>
    cases ha
    rfl
  | _ => exact absurd trivial ho

/-- Two caches of one name. -/
def twins : Configuration where
  clusters := [⟨.str ['a'], .null⟩, ⟨.str ['a'], .null⟩]

/-- Both are looked up, but no client is connected for either. -/
theorem twins_connect_nothing :
    let run := (twins.start .shipped ⟨some .supplied, none⟩).run hostPerCluster ()
    run.outcome = .error (.duplicateName (.str ['a'])) ∧ hostPerCluster.ForeignFaults ∧
      (requests run.trace).length = 2 ∧ connections run.trace = [] := by
  obtain ⟨-, hnone, -⟩ :=
    start_connects_last hostPerCluster hostPerCluster_foreign twins ⟨some .supplied, none⟩ ()
  exact ⟨rfl, hostPerCluster_foreign, rfl, hnone (.duplicateName (.str ['a'])) rfl rfl⟩

end CacheWiring
