import CacheWiring.Proofs.Resolution

namespace CacheWiring

variable {σ : Type} (h : Handler σ)

/-- How a resolution comes to its targets, with the state and the requests that this takes. The
declared clusters take none; without any the stack lists its resources once, all of which need a
physical id. -/
inductive TargetsOf (declared : List ClusterDeclaration) (stack : Option StackDirectory) (s : σ) :
    Except Fault (List Target) → σ → List Request → Prop
  | declared (hd : declared ≠ []) :
      TargetsOf declared stack s (.ok (declared.map fun d => ⟨d.name, d.name, d.expiration⟩)) s []
  | noStack (hd : declared = []) (hs : stack = none) :
      TargetsOf declared stack s (.error (.resolution .noClustersDeclared)) s []
  | unlisted {directory : StackDirectory} {fault : Fault} {listing}
      (hd : declared = []) (hs : stack = some directory)
      (hl : (directory.resourcesByType directory.clusterType).run h s = listing)
      (hf : listing.outcome = .error fault) :
      TargetsOf declared stack s (.error fault) listing.state (requests listing.trace)
  | incomplete {directory : StackDirectory} {before after : List StackResource}
      {r : StackResource} {kept : StackDirectory} {listing}
      (hd : declared = []) (hs : stack = some directory)
      (hl : (directory.resourcesByType directory.clusterType).run h s = listing)
      (hr : listing.outcome = .ok (before ++ r :: after, kept))
      (hbefore : ∀ b ∈ before, b.physicalId.truthy = true)
      (hempty : r.physicalId.truthy = false) :
      TargetsOf declared stack s (.error (.resolution (.noPhysicalId r.logicalId)))
        listing.state (requests listing.trace)
  | listed {directory : StackDirectory} {resources : List StackResource} {kept : StackDirectory}
      {listing}
      (hd : declared = []) (hs : stack = some directory)
      (hl : (directory.resourcesByType directory.clusterType).run h s = listing)
      (hr : listing.outcome = .ok (resources, kept))
      (hall : ∀ r ∈ resources, r.physicalId.truthy = true) :
      TargetsOf declared stack s
        (.ok (resources.map fun r => ⟨r.logicalId, r.physicalId, .null⟩))
        listing.state (requests listing.trace)

/-- The first resource without a physical id is the one that is named. -/
theorem stackTargets_cases (resources : List StackResource) :
    ((∀ r ∈ resources, r.physicalId.truthy = true) ∧
        Resolver.stackTargets resources =
          .ok (resources.map fun r => ⟨r.logicalId, r.physicalId, .null⟩)) ∨
      ∃ before r after, resources = before ++ r :: after ∧
        (∀ b ∈ before, b.physicalId.truthy = true) ∧ r.physicalId.truthy = false ∧
        Resolver.stackTargets resources = .error (.resolution (.noPhysicalId r.logicalId)) := by
  cases hr : resources.find? fun r => !r.physicalId.truthy with
  | none =>
    rw [List.find?_eq_none] at hr
    have hall : ∀ r ∈ resources, r.physicalId.truthy = true := by simpa using hr
    exact .inl ⟨hall, (stackTargets_ok_iff _ _).mpr ⟨hall, rfl⟩⟩
  | some r =>
    have herror : Resolver.stackTargets resources =
        .error (.resolution (.noPhysicalId r.logicalId)) := by
      simp [Resolver.stackTargets, hr]
    obtain ⟨hempty, before, after, rfl, hbefore⟩ := List.find?_eq_some_iff_append.mp hr
    exact .inr ⟨before, r, after, rfl, by simpa using hbefore, by simpa using hempty, herror⟩

theorem run_targets (resolver : Resolver) (declared : List ClusterDeclaration) (s : σ) :
    TargetsOf h declared resolver.stack s ((resolver.targets declared).run h s).outcome
      ((resolver.targets declared).run h s).state
      (requests ((resolver.targets declared).run h s).trace) := by
  unfold Resolver.targets
  cases declared with
  | cons d rest => exact .declared (List.cons_ne_nil d rest)
  | nil =>
    cases hs : resolver.stack with
    | none => exact .noStack rfl rfl
    | some directory =>
      simp only [List.isEmpty_nil, Bool.not_true, Bool.false_eq_true, ↓reduceIte, Program.run_bind]
      generalize hl : (directory.resourcesByType directory.clusterType).run h s = listing
      obtain ⟨outcome, s', trace⟩ := listing
      cases outcome with
      | error fault => exact .unlisted rfl rfl hl rfl
      | ok found =>
        obtain ⟨resources, kept⟩ := found
        simp only [Run.andThen_ok, Program.run_log, Program.run_ofExcept, requests_append,
          requests_said, requests_nil, List.append_nil]
        rcases stackTargets_cases resources with
          ⟨hall, ht⟩ | ⟨before, r, after, rfl, hbefore, hempty, ht⟩
        · rw [ht]
          exact .listed rfl rfl hl rfl hall
        · rw [ht]
          exact .incomplete rfl rfl hl rfl hbefore hempty

def ClusterDirectory.query (directory : ClusterDirectory) (id : Value) : Request :=
  match directory with
  | .supplied => .describe id true
  | .elastiCache => .describeCacheClusters id true
  | .pulumi provider => .lookUpCluster id (provider.orElse .null)

theorem outcome_asking {α : Type} (r : Request) (next : Except Fault r.Reply → Program α) (s : σ) :
    (((Program.request r).attempt >>= next).run h s).outcome =
      ((next (h.answer s r).1).run h (h.answer s r).2).outcome := by
  rw [Program.run_bind, Program.run_attempt, Run.andThen_ok]
  rfl

theorem outcome_rescuing {α : Type} (r : Request) (next : Except Fault r.Reply → Program α)
    (s : σ) :
    (((Program.request r).rescue >>= next).run h s).outcome =
      Program.rescued (h.answer s r).1 >>= fun reply =>
        ((next reply).run h (h.answer s r).2).outcome := by
  rw [Program.run_bind, Program.run_rescue, Program.run_request]
  dsimp only
  cases Program.rescued (h.answer s r).1 <;> rfl

/-- Only the first part of a sequence asks for anything. -/
theorem requests_bind_of_silent {α β : Type} (p : Program α) {next : α → Program β}
    (hnext : ∀ a s, requests ((next a).run h s).trace = []) (s : σ) :
    requests ((p >>= next).run h s).trace = requests (p.run h s).trace := by
  rw [Program.run_bind]
  obtain ⟨outcome, s', trace⟩ := p.run h s
  cases outcome with
  | error fault => rfl
  | ok a => rw [Run.andThen_ok, requests_append, hnext, List.append_nil]

theorem requests_describe (directory : ClusterDirectory) (id : Value) (s : σ) :
    requests ((directory.describe id true).run h s).trace = [directory.query id] := by
  cases directory with
  | supplied => rfl
  | elastiCache =>
    refine requests_bind_of_silent h (Program.request (.describeCacheClusters id true)).attempt ?_ s
    intro answer s
    cases answer with
    | ok answer => rfl
    | error fault =>
      dsimp only
      split <;> rfl
  | pulumi provider =>
    refine requests_bind_of_silent h
      (Program.request (.lookUpCluster id (provider.orElse .null))).rescue ?_ s
    intro answer s
    cases answer with
    | ok found =>
      change requests ((Program.ofExcept _ >>= fun d => pure [d]).run h s).trace = []
      rw [Program.run_bind, Program.run_ofExcept]
      cases ClusterDirectory.describeLookup id found <;> rfl
    | error fault =>
      dsimp only
      split <;> rfl

structure Answered where
  target : Target
  answer : Except Fault (List ClusterDescription)

def answeredInTurn (directory : ClusterDirectory) : List Target → σ → List Answered
  | [], _ => []
  | target :: rest, s =>
    ⟨target, ((directory.describe target.clusterId true).run h s).outcome⟩ ::
      answeredInTurn directory rest ((directory.describe target.clusterId true).run h s).state

def Engines.Registers (engines : Engines) (name : Value) (engine : Engine) : Prop :=
  ∃ text, name = .str text ∧ engines.named? text = some engine

namespace Answered

/-- Why a target fails, by the first cause that applies. An engine that is a collection cannot even
be looked up. -/
inductive Fails (engines : Engines) (a : Answered) : Fault → Prop
  | directory {fault : Fault} (ha : a.answer = .error fault) : Fails engines a fault
  | unknown (ha : a.answer = .ok []) :
      Fails engines a (.resolution (.clusterNotFound a.target.clusterId))
  | several {found : List ClusterDescription} (ha : a.answer = .ok found)
      (hs : 2 ≤ found.length) :
      Fails engines a (.resolution (.severalClusters a.target.clusterId found.length))
  | collection {d : ClusterDescription} (ha : a.answer = .ok [d]) (hk : d.engine.key? = none) :
      Fails engines a .wrongType
  | engine {d : ClusterDescription} (ha : a.answer = .ok [d]) (hk : d.engine.key? ≠ none)
      (hn : ∀ engine, ¬ engines.Registers d.engine engine) :
      Fails engines a (.unsupportedEngine a.target.clusterId d.engine engines.supported)
  | endpoint {d : ClusterDescription} {engine : Engine} (ha : a.answer = .ok [d])
      (hr : engines.Registers d.engine engine) (he : d.configurationEndpoint = none) :
      Fails engines a (.resolution (.noConfigurationEndpoint a.target.clusterId))

/-- What a target is resolved to otherwise: its name on the endpoint of its cluster, with the port
of the engine wherever there is none. -/
inductive Resolves (engines : Engines) (default : Value) (a : Answered) : ResolvedCluster → Prop
  | mk {d : ClusterDescription} {engine : Engine} {endpoint : NodeEndpoint}
      (ha : a.answer = .ok [d]) (hr : engines.Registers d.engine engine)
      (he : d.configurationEndpoint = some endpoint) :
      Resolves engines default a
        ⟨a.target.logicalName,
          ⟨endpoint.host, endpoint.port.orElse (.int engine.defaultPort), d.engine,
            d.nodes.map fun n => ⟨n.host, n.port.orElse (.int engine.defaultPort)⟩⟩,
          givenExpiration a.target.expiration default⟩

end Answered

theorem find?_cases (engines : Engines) (name : Value) :
    (name.key? = none ∧ engines.find? name = .error .wrongType) ∨
      (name.key? ≠ none ∧ (∀ engine, ¬ engines.Registers name engine) ∧
        engines.find? name = .ok none) ∨
      ∃ engine, engines.Registers name engine ∧ engines.find? name = .ok (some engine) := by
  unfold Engines.find?
  split
  · rename_i text
    cases hn : engines.named? text with
    | none =>
      refine .inr (.inl ⟨by simp [Value.key?], ?_, rfl⟩)
      intro engine hr
      obtain ⟨other, he, ho⟩ := hr
      cases he
      cases hn.symm.trans ho
    | some engine => exact .inr (.inr ⟨engine, ⟨text, rfl, hn⟩, rfl⟩)
  · rename_i hno
    cases hk : name.key? with
    | none => simp
    | some key =>
      refine .inr (.inl ⟨by simp, ?_, by simp⟩)
      intro engine hr
      obtain ⟨text, he, -⟩ := hr
      exact hno text he

/-- An answer either fails its target or resolves it. -/
theorem answer_cases (engines : Engines) (default : Value) (a : Answered) :
    (∃ fault, a.Fails engines fault ∧
        (a.answer >>= Resolver.single a.target.clusterId >>=
          Resolver.endpointOf engines a.target.clusterId) = .error fault) ∨
      ∃ endpoint, a.Resolves engines default
          ⟨a.target.logicalName, endpoint, givenExpiration a.target.expiration default⟩ ∧
        (a.answer >>= Resolver.single a.target.clusterId >>=
          Resolver.endpointOf engines a.target.clusterId) = .ok endpoint := by
  obtain ⟨target, answer⟩ := a
  match answer with
  | .error fault => exact .inl ⟨fault, .directory rfl, rfl⟩
  | .ok [] => exact .inl ⟨_, .unknown rfl, rfl⟩
  | .ok (d :: d' :: rest) => exact .inl ⟨_, .several rfl (by simp), rfl⟩
  | .ok [d] =>
    change (∃ fault, _ ∧ Resolver.endpointOf engines target.clusterId d = .error fault) ∨
      ∃ endpoint, _ ∧ Resolver.endpointOf engines target.clusterId d = .ok endpoint
    unfold Resolver.endpointOf
    rcases find?_cases engines d.engine with ⟨hk, hf⟩ | ⟨hk, hn, hf⟩ | ⟨engine, hr, hf⟩
    · rw [hf]
      exact .inl ⟨_, .collection rfl hk, rfl⟩
    · rw [hf]
      exact .inl ⟨_, .engine rfl hk hn, rfl⟩
    · rw [hf]
      cases he : d.configurationEndpoint with
      | none => exact .inl ⟨_, .endpoint rfl hr he, rfl⟩
      | some endpoint => exact .inr ⟨_, .mk rfl hr he, rfl⟩

variable {h} {resolver : Resolver} {default : Value}

theorem run_resolveCluster (id : Value) (s : σ) :
    let asking := (resolver.directory.describe id true).run h s
    (resolver.resolveCluster id).run h s =
      ⟨asking.outcome >>= Resolver.single id >>= Resolver.endpointOf resolver.engines id,
        asking.state, asking.trace⟩ := by
  simp only [Resolver.resolveCluster, Program.run_bind, Program.run_ofExcept, Run.andThen_except,
    bind_assoc]

/-- One target: the directory is asked once, and its answer decides. -/
theorem run_resolveTarget_cases {target : Target}
    (htimed : ∃ seconds, (givenExpiration target.expiration default).whole = .ok seconds) (s : σ) :
    let asking := (resolver.directory.describe target.clusterId true).run h s
    let run := (resolver.resolveTarget default target).run h s
    run.state = asking.state ∧
      requests run.trace = [resolver.directory.query target.clusterId] ∧
      ((∃ fault, (Answered.mk target asking.outcome).Fails resolver.engines fault ∧
          run.outcome = .error fault) ∨
        ∃ cluster, (Answered.mk target asking.outcome).Resolves resolver.engines default cluster ∧
          run.outcome = .ok cluster) := by
  obtain ⟨seconds, hseconds⟩ := htimed
  intro asking run
  have hasked : requests asking.trace = [resolver.directory.query target.clusterId] :=
    requests_describe h resolver.directory target.clusterId s
  have hcluster := @run_resolveCluster _ h resolver target.clusterId s
  have hrun : run = ((resolver.resolveCluster target.clusterId).run h s).andThen _ :=
    Program.run_bind h (resolver.resolveCluster target.clusterId) _ s
  rcases answer_cases resolver.engines default ⟨target, asking.outcome⟩ with
    ⟨fault, hf, he⟩ | ⟨endpoint, hr, he⟩
  · rw [hcluster, he] at hrun
    rw [hrun]
    exact ⟨rfl, hasked, .inl ⟨fault, hf, rfl⟩⟩
  · rw [hcluster, he, Run.andThen_ok, resolveExpiration_eq] at hrun
    simp only [hseconds, Program.run_bind, Program.run_ofExcept, Program.run_log, Program.run_pure,
      Run.andThen_ok] at hrun
    rw [hrun]
    refine ⟨rfl, ?_, .inr ⟨_, hr, rfl⟩⟩
    rw [requests_append, hasked]
    rfl

def Answered.query (directory : ClusterDirectory) (a : Answered) : Request :=
  directory.query a.target.clusterId

/-- What answered targets come to, and the queries that this takes. With none that fails each of
them is resolved; the first one that fails is the last one that is queried. -/
inductive Settles (resolver : Resolver) (default : Value) (answered : List Answered) :
    Except Fault (List ResolvedCluster) → List Request → Prop
  | resolved {clusters : List ResolvedCluster}
      (hall : List.Forall₂ (Answered.Resolves resolver.engines default) answered clusters) :
      Settles resolver default answered (.ok clusters)
        (answered.map (Answered.query resolver.directory))
  | failed {before after : List Answered} {a : Answered} {fault : Fault}
      (hs : answered = before ++ a :: after)
      (hbefore : ∀ b ∈ before, ∃ cluster, b.Resolves resolver.engines default cluster)
      (ha : a.Fails resolver.engines fault) :
      Settles resolver default answered (.error fault)
        ((before ++ [a]).map (Answered.query resolver.directory))

/-- A target that is resolved is followed by what the others come to. -/
theorem Settles.cons {a : Answered} {cluster : ResolvedCluster} {rest : List Answered}
    {outcome : Except Fault (List ResolvedCluster)} {queries : List Request}
    (ha : a.Resolves resolver.engines default cluster)
    (hrest : Settles resolver default rest outcome queries) :
    Settles resolver default (a :: rest) (outcome >>= fun others => .ok (cluster :: others))
      (a.query resolver.directory :: queries) := by
  cases hrest with
  | resolved hall => exact .resolved (.cons ha hall)
  | @failed before after b fault hs hbefore hb =>
    refine @Settles.failed resolver default _ (a :: before) after b fault (by rw [hs]; rfl) ?_ hb
    exact List.forall_mem_cons.mpr ⟨⟨cluster, ha⟩, hbefore⟩

/-- By induction on the targets: each is looked up from the state that those before it left. -/
theorem run_each_settles {targets : List Target}
    (htimed : ∀ target ∈ targets, ∃ seconds,
      (givenExpiration target.expiration default).whole = .ok seconds) (s : σ) :
    let run := (Program.each (resolver.resolveTarget default) targets).run h s
    Settles resolver default (answeredInTurn h resolver.directory targets s) run.outcome
      (requests run.trace) := by
  induction targets generalizing s with
  | nil => exact .resolved .nil
  | cons target rest ih =>
    obtain ⟨hfirst, htimed⟩ := List.forall_mem_cons.mp htimed
    obtain ⟨hstate, hqueries, hcases⟩ := run_resolveTarget_cases hfirst s
    simp only [Program.run_each_cons]
    rcases hcases with ⟨fault, hf, he⟩ | ⟨cluster, hr, he⟩
    · rw [Run.andThen_of_error he, hqueries]
      exact .failed (List.nil_append _).symm (by simp) hf
    · rw [Run.andThen_of_ok he, hstate, requests_append, hqueries,
        Run.andThen_except _ fun others => .ok (cluster :: others)]
      exact (ih htimed _).cons hr

/-- The targets are settled first, and none of them is looked up when that fails. Otherwise they are
looked up one after another, with one query each, up to and including the first that fails. -/
theorem resolve_in_order (h : Handler σ) (resolver : Resolver) (c : Configuration)
    (timed : c.Timed) (s : σ) :
    let run := (resolver.resolve c.clusters c.defaultExpiration).run h s
    ∃ targets s' listed, TargetsOf h c.clusters resolver.stack s targets s' listed ∧
      match targets with
      | .error fault => run.outcome = .error fault ∧ requests run.trace = listed
      | .ok targets => ∃ queries,
          Settles resolver c.defaultExpiration (answeredInTurn h resolver.directory targets s')
            run.outcome queries ∧
          requests run.trace = listed ++ queries := by
  have hfrom := run_targets h resolver c.clusters s
  have hdeclared := targets_ok_iff h resolver c.clusters s
  intro run
  have hrun : run = ((resolver.targets c.clusters).run h s).andThen _ :=
    Program.run_bind h (resolver.targets c.clusters) _ s
  rw [hrun]
  generalize (resolver.targets c.clusters).run h s = settled at hfrom hdeclared ⊢
  obtain ⟨outcome, s', trace⟩ := settled
  refine ⟨outcome, s', requests trace, hfrom, ?_⟩
  cases outcome with
  | error fault => exact ⟨rfl, rfl⟩
  | ok targets =>
    have htimed := timed.targets ((hdeclared targets).mp rfl)
    exact ⟨_, run_each_settles htimed s', requests_append _ _⟩

def emptyCloud : Handler Unit where
  answer s
    | .describe _ _ => (.ok [], s)
    | _ => (.error .noFields, s)

def pairOfClusters : Configuration where
  clusters := [⟨.str ['a'], .null⟩, ⟨.str ['b'], .null⟩]

/-- The second cache is not looked up when the first is unknown. -/
theorem unknown_cluster_ends_lookups :
    let resolver : Resolver := ⟨.shipped, .supplied, none⟩
    let run := (resolver.resolve pairOfClusters.clusters pairOfClusters.defaultExpiration).run
      emptyCloud ()
    run.outcome = .error (.resolution (.clusterNotFound (.str ['a']))) ∧
      requests run.trace = [.describe (.str ['a']) true] := by
  intro resolver run
  have timed : pairOfClusters.Timed := by simp [Configuration.Timed, pairOfClusters]
  obtain ⟨targets, s', listed, hfrom, hrun⟩ :=
    resolve_in_order emptyCloud resolver pairOfClusters timed ()
  cases hfrom with
  | declared =>
    obtain ⟨queries, hsettles, hasked⟩ := hrun
    rw [hasked, List.nil_append]
    change Settles resolver .null [⟨⟨_, .str ['a'], _⟩, .ok []⟩, ⟨⟨_, .str ['b'], _⟩, .ok []⟩]
      run.outcome queries at hsettles
    generalize run.outcome = outcome at hsettles ⊢
    cases hsettles with
    | resolved hall =>
      cases hall with
      | cons ha => obtain ⟨hanswer, -, -⟩ := ha; cases hanswer
    | @failed before after a fault hs hbefore ha =>
      cases before with
      | nil =>
        obtain ⟨rfl, -⟩ := List.cons.inj hs
        cases ha with
        | unknown => exact ⟨rfl, rfl⟩
        | several hanswer htwo =>
          cases hanswer
          cases htwo
        | directory hanswer => cases hanswer
        | collection hanswer => cases hanswer
        | engine hanswer => cases hanswer
        | endpoint hanswer => cases hanswer
      | cons b rest =>
        obtain ⟨rfl, -⟩ := List.cons.inj hs
        obtain ⟨cluster, hanswer, -, -⟩ := hbefore _ List.mem_cons_self
        cases hanswer
  | noStack hd => cases hd
  | unlisted hd => cases hd
  | incomplete hd => cases hd
  | listed hd => cases hd

end CacheWiring
