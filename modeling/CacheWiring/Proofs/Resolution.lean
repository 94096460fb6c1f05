import CacheWiring.Context
import CacheWiring.Proofs.Outcomes
import CacheWiring.Proofs.Traces

namespace CacheWiring

variable {σ : Type} (h : Handler σ)

/-- The answers of a directory depend on nothing but the id. -/
def Handler.Answers (directory : ClusterDirectory)
    (answers : Value → Except Fault (List ClusterDescription)) : Prop :=
  ∀ (id : Value) (s : σ), ((directory.describe id true).run h s).outcome = answers id

/-- Expirations are of their declared type: absent, or a number of seconds. -/
def Configuration.Timed (c : Configuration) : Prop :=
  ∀ v ∈ c.defaultExpiration :: c.clusters.map ClusterDeclaration.expiration,
    v = .null ∨ ∃ seconds, v.whole = .ok seconds

/-- What is to be resolved: the declared clusters, or, when none is declared, the cache clusters
that the stack lists, all of which have a physical id. -/
def HasTargets (declared : List ClusterDeclaration) (stack : Option StackDirectory) (s : σ)
    (targets : List Target) : Prop :=
  (declared ≠ [] ∧ targets = declared.map fun d => ⟨d.name, d.name, d.expiration⟩) ∨
    (declared = [] ∧ ∃ directory resources after, stack = some directory ∧
      ((directory.resourcesByType directory.clusterType).run h s).outcome =
        .ok (resources, after) ∧
      (∀ r ∈ resources, r.physicalId.truthy = true) ∧
      targets = resources.map fun r => ⟨r.logicalId, r.physicalId, .null⟩)

/-- The usual port in place of one that is missing or zero. -/
def NodeEndpoint.usual (n : NodeEndpoint) : NodeEndpoint :=
  if n.port.truthy then n else ⟨n.host, .int 11211⟩

/-- An explicit expiration, zero included, goes before the default one. -/
def givenExpiration : Value → Value → Value
  | .null, .null => .int 0
  | .null, default => default
  | explicit, _ => explicit

structure Located where
  target : Target
  description : ClusterDescription
  endpoint : NodeEndpoint

namespace Located

/-- The only cluster of its id, of the shipped engine and with a configuration endpoint. -/
structure Known (answers : Value → Except Fault (List ClusterDescription)) (l : Located) :
    Prop where
  only : answers l.target.clusterId = .ok [l.description]
  engine : l.description.engine = .str "memcached"
  endpoint : l.description.configurationEndpoint = some l.endpoint

/-- The nodes in their order, or the configuration endpoint when there are none. -/
def servers (l : Located) : List NodeEndpoint :=
  match l.description.nodes with
  | [] => [l.endpoint.usual]
  | nodes => nodes.map NodeEndpoint.usual

def expiration (default : Value) (l : Located) : Value :=
  givenExpiration l.target.expiration default

def cluster (default : Value) (l : Located) : ResolvedCluster :=
  ⟨l.target.logicalName, ⟨l.endpoint.usual.host, l.endpoint.usual.port, .str "memcached",
    l.description.nodes.map NodeEndpoint.usual⟩, l.expiration default⟩

end Located

theorem withPort_usual : Resolver.withPort 11211 = NodeEndpoint.usual := by
  funext n
  unfold Resolver.withPort NodeEndpoint.usual Value.orElse
  split <;> rfl

theorem isNull_iff (v : Value) : v.isNull = true ↔ v = .null := by
  unfold Value.isNull
  split <;> simp_all

theorem resolveExpiration_eq (explicit default : Value) :
    resolveExpiration explicit default = givenExpiration explicit default := by
  unfold givenExpiration
  split
  · rfl
  · rename_i hd
    have hdefault : ¬ default.isNull = true := by rwa [isNull_iff]
    have hnull : Value.null.isNull = true := rfl
    simp [resolveExpiration, hnull, hdefault]
  · rename_i hn he
    have hexplicit : ¬ explicit.isNull = true := by rwa [isNull_iff]
    simp [resolveExpiration, hexplicit]

theorem servers_located (default : Value) (l : Located) :
    (l.cluster default).endpoint.servers = l.servers := by
  unfold ClusterEndpoint.servers Located.servers Located.cluster
  cases l.description.nodes <;> rfl

theorem single_eq_ok_iff (id : Value) (found : List ClusterDescription) (d : ClusterDescription) :
    Resolver.single id found = .ok d ↔ found = [d] := by
  match found with
  | [] => simp [Resolver.single]
  | [_] => simp [Resolver.single]
  | _ :: _ :: _ => simp [Resolver.single]

/-- Of the shipped engines only memcached can be named. -/
theorem find?_shipped_iff (name : Value) (engine : Engine) :
    Engines.shipped.find? name = .ok (some engine) ↔
      name = .str "memcached" ∧ engine = Engine.memcached := by
  unfold Engines.find?
  split
  · rename_i s
    by_cases hs : ("memcached" : Text) = s
    · subst hs
      simp [Engines.named?, Engines.shipped, eq_comm]
    · simp [Engines.named?, Engines.shipped, hs, Ne.symm hs]
  · rename_i hn
    constructor
    · intro he
      split at he <;> cases he
    · intro hp
      obtain ⟨rfl, -⟩ := hp
      exact absurd rfl (hn _)

/-- An endpoint is made of a memcached cluster that has a configuration endpoint, of no other. -/
theorem endpointOf_shipped_ok_iff (id : Value) (d : ClusterDescription) (e : ClusterEndpoint) :
    Resolver.endpointOf .shipped id d = .ok e ↔
      d.engine = .str "memcached" ∧ ∃ endpoint, d.configurationEndpoint = some endpoint ∧
        ⟨endpoint.usual.host, endpoint.usual.port, .str "memcached",
          d.nodes.map NodeEndpoint.usual⟩ = e := by
  unfold Resolver.endpointOf
  rw [bind_eq_ok_iff]
  constructor
  · intro hp
    obtain ⟨found, hfound, he⟩ := hp
    cases found with
    | none => cases he
    | some engine =>
      obtain ⟨hengine, rfl⟩ := (find?_shipped_iff _ _).mp hfound
      cases hendpoint : d.configurationEndpoint with
      | none =>
        rw [hendpoint] at he
        cases he
      | some endpoint =>
        rw [hendpoint] at he
        cases he
        refine ⟨hengine, endpoint, rfl, ?_⟩
        simp [Engine.memcached, withPort_usual, hengine]
  · intro hp
    obtain ⟨hengine, endpoint, hendpoint, rfl⟩ := hp
    refine ⟨some Engine.memcached, (find?_shipped_iff _ _).mpr ⟨hengine, rfl⟩, ?_⟩
    simp [hendpoint, Engine.memcached, withPort_usual, hengine, pure_eq_ok_iff]

theorem stackTargets_ok_iff (resources : List StackResource) (targets : List Target) :
    Resolver.stackTargets resources = .ok targets ↔
      (∀ r ∈ resources, r.physicalId.truthy = true) ∧
        targets = resources.map fun r => ⟨r.logicalId, r.physicalId, .null⟩ := by
  unfold Resolver.stackTargets
  cases hr : resources.find? fun r => !r.physicalId.truthy with
  | some r =>
    have hm := List.mem_of_find?_eq_some hr
    have hempty := List.find?_some hr
    constructor
    · intro hp
      cases hp
    · intro hp
      obtain ⟨hall, -⟩ := hp
      simp [hall r hm] at hempty
  | none =>
    rw [List.find?_eq_none] at hr
    have hall : ∀ r ∈ resources, r.physicalId.truthy = true := by simpa using hr
    constructor
    · intro hp
      cases hp
      exact ⟨hall, rfl⟩
    · intro hp
      obtain ⟨-, rfl⟩ := hp
      rfl

theorem targets_ok_iff (resolver : Resolver) (declared : List ClusterDeclaration) (s : σ)
    (targets : List Target) :
    ((resolver.targets declared).run h s).outcome = .ok targets ↔
      HasTargets h declared resolver.stack s targets := by
  unfold Resolver.targets HasTargets
  cases declared with
  | cons d rest =>
    constructor
    · intro hp
      cases hp
      exact .inl ⟨List.cons_ne_nil d rest, rfl⟩
    · intro hp
      rcases hp with ⟨-, rfl⟩ | ⟨hd, -⟩
      · rfl
      · cases hd
  | nil =>
    cases resolver.stack with
    | none => simp
    | some directory =>
      simp only [List.isEmpty_nil, Bool.not_true, Bool.false_eq_true, ↓reduceIte, ne_eq,
        not_true_eq_false, false_and, false_or, true_and, Option.some.injEq, Program.run_bind,
        Run.andThen_outcome_ok, Program.run_log, Program.run_ofExcept, stackTargets_ok_iff]
      constructor
      · intro hp
        obtain ⟨⟨resources, after⟩, hlisted, -, hall, rfl⟩ := hp
        exact ⟨directory, resources, after, rfl, hlisted, hall, rfl⟩
      · intro hp
        obtain ⟨_, resources, after, rfl, hlisted, hall, rfl⟩ := hp
        exact ⟨(resources, after), hlisted, (), hall, rfl⟩

variable {h} {directory : ClusterDirectory} {stack : Option StackDirectory}
  {answers : Value → Except Fault (List ClusterDescription)}

/-- A target is resolved exactly when it is located. -/
theorem resolveTarget_ok_iff (answering : h.Answers directory answers) {default : Value}
    {target : Target}
    (htimed : ∃ seconds, (givenExpiration target.expiration default).whole = .ok seconds) (s : σ)
    (cluster : ResolvedCluster) :
    (((Resolver.mk .shipped directory stack).resolveTarget default target).run h s).outcome =
        .ok cluster ↔
      ∃ l : Located, l.target = target ∧ l.Known answers ∧ l.cluster default = cluster := by
  obtain ⟨seconds, hseconds⟩ := htimed
  simp only [Resolver.resolveTarget, Resolver.resolveCluster, resolveExpiration_eq, hseconds,
    Program.run_bind, Run.andThen_outcome_ok, Program.run_ofExcept, Program.run_log,
    Program.run_pure, answering target.clusterId s, single_eq_ok_iff, endpointOf_shipped_ok_iff,
    Except.ok.injEq, true_and]
  constructor
  · intro hp
    obtain ⟨_, ⟨found, hanswer, d, rfl, hengine, endpoint, hendpoint, rfl⟩, -, -, -, rfl⟩ := hp
    exact ⟨⟨target, d, endpoint⟩, rfl, ⟨hanswer, hengine, hendpoint⟩, rfl⟩
  · intro hp
    obtain ⟨l, rfl, known, rfl⟩ := hp
    exact ⟨_, ⟨_, known.only, l.description, rfl, known.engine, l.endpoint, known.endpoint, rfl⟩,
      seconds, rfl, (), rfl⟩

/-- What comes of two expirations that are null or timed is timed. -/
theorem whole_givenExpiration {explicit default : Value}
    (he : explicit = .null ∨ ∃ seconds, explicit.whole = .ok seconds)
    (hd : default = .null ∨ ∃ seconds, default.whole = .ok seconds) :
    ∃ seconds, (givenExpiration explicit default).whole = .ok seconds := by
  unfold givenExpiration
  split
  · exact ⟨0, rfl⟩
  · rename_i hn
    exact hd.resolve_left hn
  · rename_i hn _
    exact he.resolve_left hn

theorem Configuration.Timed.targets {c : Configuration} (timed : c.Timed) {s : σ}
    {targets : List Target} (ht : HasTargets h c.clusters stack s targets) :
    ∀ target ∈ targets, ∃ seconds,
      (givenExpiration target.expiration c.defaultExpiration).whole = .ok seconds := by
  intro target hm
  have hdefault := timed c.defaultExpiration List.mem_cons_self
  rcases ht with ⟨-, rfl⟩ | ⟨-, _, resources, _, -, -, -, rfl⟩
  · obtain ⟨d, hd, rfl⟩ := List.mem_map.mp hm
    have hdeclared := timed d.expiration (List.mem_cons_of_mem _ (List.mem_map_of_mem hd))
    exact whole_givenExpiration hdeclared hdefault
  · obtain ⟨r, -, rfl⟩ := List.mem_map.mp hm
    exact whole_givenExpiration (.inl rfl) hdefault

theorem resolve_ok_iff (answering : h.Answers directory answers) {c : Configuration}
    (timed : c.Timed) (s : σ) (resolved : List ResolvedCluster) :
    (((Resolver.mk .shipped directory stack).resolve c.clusters c.defaultExpiration).run h
        s).outcome = .ok resolved ↔
      ∃ located : List Located, HasTargets h c.clusters stack s (located.map Located.target) ∧
        (∀ l ∈ located, l.Known answers) ∧
        located.map (Located.cluster c.defaultExpiration) = resolved := by
  have heach (targets : List Target) (ht : HasTargets h c.clusters stack s targets) (s' : σ) :
      ((Program.each ((Resolver.mk .shipped directory stack).resolveTarget c.defaultExpiration)
          targets).run h s').outcome = .ok resolved ↔
        ∃ located : List Located, located.map Located.target = targets ∧
          (∀ l ∈ located, l.Known answers) ∧
          located.map (Located.cluster c.defaultExpiration) = resolved := by
    rw [Program.each_outcome_ok_iff h fun target hm s cluster =>
      resolveTarget_ok_iff answering (timed.targets ht target hm) s cluster]
    exact forall₂_images_iff _ _ _ _
  simp only [Resolver.resolve, Program.run_bind, Run.andThen_outcome_ok, targets_ok_iff]
  constructor
  · intro hp
    obtain ⟨targets, ht, hr⟩ := hp
    obtain ⟨located, rfl, hknown, hresolved⟩ := (heach targets ht _).mp hr
    exact ⟨located, ht, hknown, hresolved⟩
  · intro hp
    obtain ⟨located, ht, hknown, hresolved⟩ := hp
    exact ⟨_, ht, (heach _ ht _).mpr ⟨located, rfl, hknown, hresolved⟩⟩

def Happening.Lookup : Happening → Prop
  | .asked (.describe ..) _ | .asked (.describeCacheClusters ..) _ | .asked (.lookUpCluster ..) _
  | .said (.log _) => True
  | _ => False

theorem Happening.Lookup.offline {happening : Happening} (hl : happening.Lookup) :
    happening.Offline := by
  cases happening with
  | said output =>
    cases output with
    | log record => exact .log record
    | line text => exact hl.elim
    | complaint text => exact hl.elim
  | asked request reply =>
    cases request with
    | connect servers settings => exact hl.elim
    | call client c => exact hl.elim
    | _ => exact ⟨rfl, rfl, rfl⟩

theorem describe_lookup (directory : ClusterDirectory) (id : Value) (withNodes : Bool) :
    (directory.describe id withNodes).Only Happening.Lookup := by
  cases directory with
  | supplied => exact .request fun _ => trivial
  | elastiCache =>
    apply (Program.Only.log trivial).bind
    intro _
    apply (Program.Only.request fun _ => trivial).attempt.bind
    intro answer
    cases answer with
    | ok answer => exact .ofExcept _
    | error fault => exact .ite (.pure _) (.fail _)
  | pulumi provider =>
    apply (Program.Only.log trivial).bind
    intro _
    apply (Program.Only.request fun _ => trivial).rescue.bind
    intro answer
    cases answer with
    | ok found => exact (Program.Only.ofExcept _).bind fun _ => .pure _
    | error fault => exact .ite (.pure _) (.fail _)

/-- Targets are resolved by nothing but lookups. -/
theorem resolveTarget_lookup (resolver : Resolver) (default : Value) (target : Target) :
    (resolver.resolveTarget default target).Only Happening.Lookup := by
  have hcluster : (resolver.resolveCluster target.clusterId).Only Happening.Lookup :=
    (describe_lookup _ _ _).bind fun _ => (Program.Only.ofExcept _).bind fun _ => .ofExcept _
  exact hcluster.bind fun _ => (Program.Only.ofExcept _).bind fun _ =>
    (Program.Only.log trivial).bind fun _ => .pure _

theorem resourcesByType_offline (stack : StackDirectory) (type : Text) :
    (stack.resourcesByType type).Only Happening.Offline := by
  match stack with
  | .supplied _ => exact (Program.Only.offline (by trivial)).bind fun _ => .pure _
  | .cloudFormation _ (some _) => exact .pure _
  | .cloudFormation _ none =>
    have hload (name : Value) : (StackDirectory.loadListing name).Only Happening.Offline :=
      (Program.Only.offline (by trivial)).bind fun _ => (Program.Only.offline (by trivial)).bind fun _ =>
        (Program.Only.ofExcept _).bind fun _ => (Program.Only.log (.log _)).bind fun _ => .pure _
    exact (hload _).bind fun _ => .pure _
  | .pulumi _ => exact .pure _

theorem targets_offline (resolver : Resolver) (declared : List ClusterDeclaration) :
    (resolver.targets declared).Only Happening.Offline := by
  unfold Resolver.targets
  split
  · exact .pure _
  · split
    · exact .fail _
    · exact (resourcesByType_offline _ _).bind fun _ => (Program.Only.log (.log _)).bind fun _ =>
        .ofExcept _

/-- No connection to a cache server is opened before everything is resolved. -/
theorem resolve_offline (resolver : Resolver) (declared : List ClusterDeclaration)
    (default : Value) : (resolver.resolve declared default).Only Happening.Offline :=
  (targets_offline resolver declared).bind fun _ =>
    .each (fun target => (resolveTarget_lookup resolver default target).mono
      fun _ hl => hl.offline) _

theorem clusterDirectory_offline (c : Configuration) (given : Option ClusterDirectory) :
    (c.clusterDirectory given).Only Happening.Offline := by
  cases given with
  | some directory => exact .pure _
  | none => exact (Program.Only.offline (by trivial)).bind fun _ => .pure _

theorem ofExportFile_offline (path : Text) :
    (StackDirectory.ofExportFile path).Only Happening.Offline := by
  have hread : (Text.readText path).Only Happening.Offline :=
    ((Program.Only.offline (by trivial)).bind fun _ => .pure _).bind fun _ =>
      .ite (.pure _) (.fail _)
  exact (Program.Only.offline (by trivial)).bind fun _ => .ite (.fail _)
    (hread.bind fun _ => .ofExcept _)

theorem ofSettings_offline (settings : StackSettings) (region : Value) :
    (StackDirectory.ofSettings settings region).Only Happening.Offline := by
  have hregion : (StackDirectory.forRegion settings.name region).Only Happening.Offline :=
    (Program.Only.offline (by trivial)).bind fun _ => .pure _
  have hlive : (StackDirectory.ofLiveStack settings.name settings.project).Only
      Happening.Offline :=
    (Program.Only.offline (by trivial)).bind fun _ => .ofExcept _
  refine .ite hregion (.ite (.ite ?_ (.ite hlive (.fail _))) (.fail _))
  split
  · exact ofExportFile_offline _
  · exact .fail _

theorem stackDirectory_offline (c : Configuration) (given : Option StackDirectory) :
    (c.stackDirectory given).Only Happening.Offline := by
  unfold Configuration.stackDirectory
  split
  · exact (ofSettings_offline _ _).bind fun _ => .pure _
  · exact .pure _

theorem resolveClusters_offline (c : Configuration) (engines : Engines) (given : Supplied) :
    (c.resolveClusters engines given).Only Happening.Offline :=
  (clusterDirectory_offline c given.clusters).bind fun _ =>
    (stackDirectory_offline c given.stack).bind fun _ => resolve_offline _ _ _

/-- With a directory given, and a stack unless none is configured, nothing has to be made. -/
theorem resolveClusters_given (c : Configuration) (engines : Engines)
    (directory : ClusterDirectory) {stack : Option StackDirectory}
    (given : stack = none → c.stack = none) :
    c.resolveClusters engines ⟨some directory, stack⟩ =
      (Resolver.mk engines directory stack).resolve c.clusters c.defaultExpiration := by
  have hstack : c.stackDirectory stack = pure stack := by
    cases stack with
    | some _ => rfl
    | none =>
      unfold Configuration.stackDirectory
      rw [given rfl]
      cases c.clusters <;> rfl
  unfold Configuration.resolveClusters
  rw [hstack]
  rfl

end CacheWiring
