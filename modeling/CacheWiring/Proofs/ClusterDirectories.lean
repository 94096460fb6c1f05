import CacheWiring.Proofs.Construction
import CacheWiring.Proofs.Lookups

namespace CacheWiring

variable {σ τ : Type}

/-- Where something is reached, as far as that is known. -/
structure Whereabouts where
  address : Option Text
  port : Option Int

structure ClusterFacts where
  engine : Text
  main : Whereabouts
  nodes : List Whereabouts

/-- There is no endpoint without an address. A port that is unknown, or zero, is the usual one. -/
def Whereabouts.endpoint? (w : Whereabouts) (usual : Int) : Option NodeEndpoint :=
  match w.address with
  | none | some [] => none
  | some host =>
    let port := w.port.getD 0
    some ⟨.str host, .int (if port = 0 then usual else port)⟩

/-- The endpoint of a cluster by the facts. -/
def ClusterFacts.endpoint (engines : Engines) (id : Value) (facts : ClusterFacts) :
    Except Fault ClusterEndpoint :=
  match engines.named? facts.engine with
  | none => .error (.unsupportedEngine id (.str facts.engine) engines.supported)
  | some engine =>
    match facts.main.endpoint? engine.defaultPort with
    | none => .error (.resolution (.noConfigurationEndpoint id))
    | some main => .ok ⟨main.host, main.port, .str facts.engine,
        facts.nodes.filterMap fun node => node.endpoint? engine.defaultPort⟩

def knownEndpoint (engines : Engines) (id : Value) : Option ClusterFacts →
    Except Fault ClusterEndpoint
  | none => .error (.resolution (.clusterNotFound id))
  | some facts => facts.endpoint engines id

def textOrNull (text : Option Text) : Value := (text.map .str).getD .null

def portOrNull (port : Option Int) : Value := (port.map .int).getD .null

/-- An endpoint in an answer of the cloud provider. Its fields can be absent or null, and so can the
whole when nothing is known. -/
inductive TellsWhere : Value → Whereabouts → Prop
  | nothing : TellsWhere .null ⟨none, none⟩
  | fields {raw : Value} {w : Whereabouts} (hm : raw.IsMapping)
      (ha : (raw.get? "Address").getD .null = textOrNull w.address)
      (hp : (raw.get? "Port").getD .null = portOrNull w.port) : TellsWhere raw w

structure TellsCluster (cluster : Value) (facts : ClusterFacts) : Prop where
  mapping : cluster.IsMapping
  engine : (cluster.get? "Engine").getD (.str "") = .str facts.engine
  main : TellsWhere ((cluster.get? "ConfigurationEndpoint").getD .null) facts.main
  nodes : ∃ nodes, ((cluster.get? "CacheNodes").getD (.list [])).items? = some nodes ∧
    List.Forall₂ (fun node w =>
      node.IsMapping ∧ TellsWhere ((node.get? "Endpoint").getD .null) w) nodes facts.nodes

/-- What the cloud provider replies about a cluster, or about one that does not exist. -/
inductive CloudTells : Except Fault Value → Option ClusterFacts → Prop
  | described {answer cluster : Value} {facts : ClusterFacts} (hm : answer.IsMapping)
      (hc : ((answer.get? "CacheClusters").getD (.list [])).items? = some [cluster])
      (ht : TellsCluster cluster facts) : CloudTells (.ok answer) (some facts)
  | nothing {answer : Value} (hm : answer.IsMapping)
      (hc : ((answer.get? "CacheClusters").getD (.list [])).items? = some []) :
      CloudTells (.ok answer) none
  | refused {refusal : Refusal}
      (hc : refusal.code = some (.str "CacheClusterNotFound") ∨
        refusal.code = some (.str "CacheClusterNotFoundFault")) :
      CloudTells (.error (.refused refusal)) none

inductive LookupTells : Except Fault Lookup → Option ClusterFacts → Prop
  | described {found : Lookup} {facts : ClusterFacts} (he : found.engine = .str facts.engine)
      (ha : found.address = textOrNull facts.main.address)
      (hp : found.port = portOrNull facts.main.port)
      (hn : found.nodes = facts.nodes.map fun w => ⟨textOrNull w.address, portOrNull w.port⟩) :
      LookupTells (.ok found) (some facts)
  | failed {fault : Fault} (hs : fault.isStop = false)
      (hf : ("CacheClusterNotFound" : Text) <:+: fault.message) : LookupTells (.error fault) none

def Whereabouts.known? (w : Whereabouts) : Option NodeEndpoint :=
  match w.address with
  | none | some [] => none
  | some host => some ⟨.str host, .int (w.port.getD 0)⟩

/-- The resolver puts the usual port in place of zero. -/
theorem known?_withPort (w : Whereabouts) (usual : Int) :
    w.known?.map (Resolver.withPort usual) = w.endpoint? usual := by
  unfold Whereabouts.known? Whereabouts.endpoint?
  cases w.address with
  | none => rfl
  | some host =>
    cases host with
    | nil => rfl
    | cons c rest =>
      by_cases hp : w.port.getD 0 = 0
      · simp [Resolver.withPort, Value.orElse, Value.truthy, Value.opened, hp]
      · simp [Resolver.withPort, Value.orElse, Value.truthy, Value.opened, hp]

/-- A cluster as both directories describe it. -/
structure ClusterDescription.Of (d : ClusterDescription) (facts : ClusterFacts) : Prop where
  engine : d.engine = .str facts.engine
  main : d.configurationEndpoint = facts.main.known?
  nodes : d.nodes = facts.nodes.filterMap Whereabouts.known?

theorem endpointOf_of {engines : Engines} {id : Value} {d : ClusterDescription}
    {facts : ClusterFacts} (hd : d.Of facts) :
    Resolver.endpointOf engines id d = facts.endpoint engines id := by
  have hnodes (usual : Int) : d.nodes.map (Resolver.withPort usual) =
      facts.nodes.filterMap fun node => node.endpoint? usual := by
    rw [hd.nodes, List.map_filterMap]
    simp only [known?_withPort]
  have hfound : engines.find? (.str facts.engine) = .ok (engines.named? facts.engine) := rfl
  unfold Resolver.endpointOf ClusterFacts.endpoint
  rw [hd.engine, hfound]
  cases engines.named? facts.engine with
  | none => rfl
  | some engine =>
    have hmain : facts.main.endpoint? engine.defaultPort =
        d.configurationEndpoint.map (Resolver.withPort engine.defaultPort) := by
      rw [hd.main, known?_withPort]
    simp only [hmain, ← hnodes]
    cases d.configurationEndpoint with
    | none => rfl
    | some endpoint => rfl

theorem portOf_portOrNull (port : Option Int) :
    ClusterDirectory.portOf (portOrNull port) = .ok (.int (port.getD 0)) := by
  cases port with
  | none => rfl
  | some port =>
    by_cases hp : port = 0
    · subst hp
      rfl
    · simp [portOrNull, ClusterDirectory.portOf, Value.orElse, Value.truthy, Value.opened, hp]
      rfl

theorem get?_of_not_truthy {v : Value} (ht : v.truthy = false) (name : Text) :
    v.get? name = none := by
  unfold Value.truthy at ht
  unfold Value.get? Value.entries?
  generalize v.opened = opened at ht ⊢
  cases opened with
  | dict entries =>
    have hempty : entries = [] := by simpa using ht
    rw [hempty]
    rfl
  | _ => rfl

theorem lookupNode_eq (w : Whereabouts) :
    ClusterDirectory.lookupNode ⟨textOrNull w.address, portOrNull w.port⟩ = .ok w.known? := by
  unfold ClusterDirectory.lookupNode Whereabouts.known?
  rw [portOf_portOrNull]
  cases w.address with
  | none => rfl
  | some host => cases host <;> rfl

theorem endpointOf_eq {raw : Value} {w : Whereabouts} (hw : TellsWhere raw w) :
    ClusterDirectory.endpointOf raw = .ok w.known? := by
  cases hw with
  | nothing => rfl
  | fields hm ha hp =>
    rw [← lookupNode_eq, ← ha, ← hp]
    unfold ClusterDirectory.endpointOf ClusterDirectory.lookupNode
    cases ht : raw.truthy with
    | true =>
      rw [Value.field_eq hm, Value.field_eq hm]
      rfl
    | false =>
      rw [get?_of_not_truthy ht]
      rfl

theorem filterMap_known? (nodes : List Whereabouts) :
    (nodes.map Whereabouts.known?).filterMap id = nodes.filterMap Whereabouts.known? := by
  rw [List.filterMap_map, Function.id_comp]

theorem nodesOf_eq {cluster : Value} {facts : ClusterFacts} (ht : TellsCluster cluster facts) :
    ClusterDirectory.nodesOf cluster = .ok (facts.nodes.filterMap Whereabouts.known?) := by
  obtain ⟨nodes, hitems, hall⟩ := ht.nodes
  have hread : (nodes.mapM fun node => do
      ClusterDirectory.endpointOf (← node.field "Endpoint")) =
        .ok (facts.nodes.map Whereabouts.known?) := by
    rw [mapM_eq_ok_iff, List.forall₂_map_right_iff]
    refine hall.imp fun node w hw => ?_
    rw [Value.field_eq hw.1]
    exact endpointOf_eq hw.2
  unfold ClusterDirectory.nodesOf
  rw [bind_of_ok (Value.fieldOr_eq ht.mapping _ _), bind_of_ok (Value.members_eq hitems),
    bind_of_ok hread, filterMap_known?]
  rfl

theorem describeAnswer_of (id : Value) {cluster : Value} {facts : ClusterFacts}
    (ht : TellsCluster cluster facts) :
    ∃ d, ClusterDirectory.describeAnswer id cluster = .ok d ∧ d.Of facts := by
  have hm := ht.mapping
  have hengine := Value.fieldOr_eq hm "Engine" (.str "")
  rw [ht.engine] at hengine
  refine ⟨⟨(cluster.get? "CacheClusterId").getD id, .str facts.engine, facts.main.known?, _⟩, ?_,
    rfl, rfl, rfl⟩
  unfold ClusterDirectory.describeAnswer
  rw [bind_of_ok (nodesOf_eq ht), bind_of_ok (Value.fieldOr_eq hm _ _), bind_of_ok hengine,
    bind_of_ok (Value.field_eq hm _), bind_of_ok (endpointOf_eq ht.main)]
  rfl

theorem describeAll_eq (id : Value) {answer : Value} {clusters : List Value}
    (hm : answer.IsMapping)
    (hc : ((answer.get? "CacheClusters").getD (.list [])).items? = some clusters) :
    ClusterDirectory.describeAll id answer =
      clusters.mapM (ClusterDirectory.describeAnswer id) := by
  unfold ClusterDirectory.describeAll
  rw [bind_of_ok (Value.fieldOr_eq hm _ _), bind_of_ok (Value.members_eq hc)]

theorem describeLookup_of (asked : Value) {found : Lookup} {facts : ClusterFacts}
    (ht : LookupTells (.ok found) (some facts)) :
    ∃ d, ClusterDirectory.describeLookup asked found = .ok d ∧ d.Of facts := by
  cases ht with
  | described he ha hp hn =>
    have hmain : ClusterDirectory.lookupNode ⟨found.address, found.port⟩ =
        .ok facts.main.known? := by
      rw [ha, hp]
      exact lookupNode_eq facts.main
    have hread : found.nodes.mapM ClusterDirectory.lookupNode =
        .ok (facts.nodes.map Whereabouts.known?) := by
      rw [hn, mapM_eq_ok_iff, List.forall₂_map_left_iff, List.forall₂_map_right_iff,
        List.forall₂_same]
      exact fun w _ => lookupNode_eq w
    refine ⟨⟨found.id.orElse asked, found.engine, facts.main.known?, _⟩, ?_, he, rfl, rfl⟩
    unfold ClusterDirectory.describeLookup
    rw [bind_of_ok hmain, bind_of_ok hread, filterMap_known?]
    rfl

theorem contains_iff (text part : Text) :
    ClusterDirectory.contains text part = true ↔ part <:+: text := by
  induction text with
  | nil => simp [ClusterDirectory.contains]
  | cons c rest ih =>
    rw [ClusterDirectory.contains, Bool.or_eq_true, ih, List.isPrefixOf_iff_prefix,
      List.infix_cons_iff]

theorem saysNotFound_of_marker {fault : Fault}
    (hf : ("CacheClusterNotFound" : Text) <:+: fault.message) :
    ClusterDirectory.saysNotFound fault = true :=
  List.any_eq_true.mpr ⟨_, List.mem_cons_self, (contains_iff _ _).mpr hf⟩

theorem isNotFound_of_code {refusal : Refusal}
    (hc : refusal.code = some (.str "CacheClusterNotFound") ∨
      refusal.code = some (.str "CacheClusterNotFoundFault")) :
    ClusterDirectory.isNotFound (.refused refusal) = true := by
  obtain ⟨operation, code, detail, retries⟩ := refusal
  rcases hc with hc | hc
  · cases hc
    rfl
  · cases hc
    rfl

variable {h : Handler σ} {s : σ} {known : Option ClusterFacts}

theorem outcome_describeInCloud (id : Value) (withNodes : Bool) :
    ((ClusterDirectory.describeInCloud id withNodes).run h s).outcome =
      match (h.answer s (.describeCacheClusters id withNodes)).1 with
      | .ok answer => ClusterDirectory.describeAll id answer
      | .error fault => if ClusterDirectory.isNotFound fault then .ok [] else .error fault := by
  refine (outcome_asking h (.describeCacheClusters id withNodes) _ s).trans ?_
  cases (h.answer s (.describeCacheClusters id withNodes)).1 with
  | ok answer => rfl
  | error fault =>
    dsimp only
    split <;> rfl

theorem outcome_describeThroughPulumi (provider id : Value) :
    ((ClusterDirectory.describeThroughPulumi provider id).run h s).outcome =
      match (h.answer s (.lookUpCluster id (provider.orElse .null))).1 with
      | .ok found => (ClusterDirectory.describeLookup id found).map fun d => [d]
      | .error fault =>
        if !fault.isStop && ClusterDirectory.saysNotFound fault then .ok []
        else .error fault := by
  refine (outcome_rescuing h (.lookUpCluster id (provider.orElse .null)) _ s).trans ?_
  cases (h.answer s (.lookUpCluster id (provider.orElse .null))).1 with
  | ok found =>
    change ((Program.ofExcept _ >>= fun d => pure [d]).run h _).outcome =
      (ClusterDirectory.describeLookup id found).map fun d => [d]
    rw [Program.run_bind, Program.run_ofExcept]
    cases ClusterDirectory.describeLookup id found <;> rfl
  | error fault =>
    cases hs : fault.isStop with
    | true =>
      simp only [Program.rescued, hs, ↓reduceIte]
      rfl
    | false =>
      simp only [hs, Bool.not_false, Bool.true_and]
      rw [bind_of_ok (Program.rescued_error hs)]
      dsimp only
      split <;> rfl

/-- The descriptions of a cluster that both directories come to: one, or none at all. -/
def Describes (found : Except Fault (List ClusterDescription)) : Option ClusterFacts → Prop
  | none => found = .ok []
  | some facts => ∃ d : ClusterDescription, found = .ok [d] ∧ d.Of facts

theorem describeInCloud_describes {id : Value}
    (ht : CloudTells (h.answer s (.describeCacheClusters id true)).1 known) :
    Describes ((ClusterDirectory.describeInCloud id true).run h s).outcome known := by
  rw [outcome_describeInCloud]
  generalize (h.answer s (.describeCacheClusters id true)).1 = reply at ht ⊢
  cases ht with
  | described hm hc ht =>
    obtain ⟨d, hd, hof⟩ := describeAnswer_of id ht
    exact ⟨d, (describeAll_eq id hm hc).trans (mapM_cons_ok hd rfl), hof⟩
  | nothing hm hc => exact describeAll_eq id hm hc
  | refused hc => exact if_pos (isNotFound_of_code hc)

theorem describeThroughPulumi_describes {id provider : Value}
    (ht : LookupTells (h.answer s (.lookUpCluster id (provider.orElse .null))).1 known) :
    Describes ((ClusterDirectory.describeThroughPulumi provider id).run h s).outcome known := by
  rw [outcome_describeThroughPulumi]
  generalize (h.answer s (.lookUpCluster id (provider.orElse .null))).1 = reply at ht ⊢
  cases ht with
  | described he ha hp hn =>
    obtain ⟨d, hd, hof⟩ := describeLookup_of id (.described he ha hp hn)
    exact ⟨d, congrArg (Except.map fun d => [d]) hd, hof⟩
  | failed hs hf => simp [hs, saysNotFound_of_marker hf, Describes]

theorem resolveCluster_of_describes {resolver : Resolver} {id : Value}
    (hd : Describes ((resolver.directory.describe id true).run h s).outcome known) :
    ((resolver.resolveCluster id).run h s).outcome = knownEndpoint resolver.engines id known := by
  rw [run_resolveCluster]
  generalize ((resolver.directory.describe id true).run h s).outcome = found at hd ⊢
  cases known with
  | none =>
    cases hd
    rfl
  | some facts =>
    obtain ⟨d, rfl, hof⟩ := hd
    exact endpointOf_of hof

/-- Both services lead to the endpoint that a cluster has by the facts, or to the fault that they
amount to; and both lead to the same fault where the cluster does not exist, however it is told. -/
theorem cluster_directories_agree (h : Handler σ) (h' : Handler τ) (engines : Engines)
    (stack : Option StackDirectory) (id provider : Value) {s : σ} {s' : τ}
    {known : Option ClusterFacts}
    (cloud : CloudTells (h.answer s (.describeCacheClusters id true)).1 known)
    (lookup : LookupTells (h'.answer s' (.lookUpCluster id (provider.orElse .null))).1 known) :
    (((Resolver.mk engines .elastiCache stack).resolveCluster id).run h s).outcome =
        knownEndpoint engines id known ∧
      (((Resolver.mk engines (.pulumi provider) stack).resolveCluster id).run h' s').outcome =
        knownEndpoint engines id known :=
  ⟨resolveCluster_of_describes (describeInCloud_describes cloud),
    resolveCluster_of_describes (describeThroughPulumi_describes lookup)⟩

/-- A cluster whose ports are partly unknown, and one of whose nodes has no address. -/
def sparseFacts : ClusterFacts where
  engine := "memcached"
  main := ⟨some "cfg", none⟩
  nodes := [⟨some "n-1", some 0⟩, ⟨none, some 7⟩, ⟨some "n-2", some 12000⟩]

/-- Both services know this cluster under every id. -/
def sparseCloud : Handler Unit where
  answer s
    | .describeCacheClusters _ _ => (.ok (.dict [(.str "CacheClusters", .list [.dict [
        (.str "Engine", .str "memcached"),
        (.str "ConfigurationEndpoint", .dict [(.str "Address", .str "cfg")]),
        (.str "CacheNodes", .list [
          .dict [(.str "Endpoint", .dict [(.str "Address", .str "n-1"), (.str "Port", .int 0)])],
          .dict [(.str "Endpoint", .dict [(.str "Address", .null), (.str "Port", .int 7)])],
          .dict [(.str "Endpoint",
            .dict [(.str "Address", .str "n-2"), (.str "Port", .int 12000)])]])]])]), s)
    | .lookUpCluster id _ => (.ok ⟨id, .str "memcached", .str "cfg", .null,
        [⟨.str "n-1", .int 0⟩, ⟨.null, .int 7⟩, ⟨.str "n-2", .int 12000⟩]⟩, s)
    | _ => (.error .noFields, s)

theorem sparse_cluster_resolves_alike :
    let endpoint : ClusterEndpoint := ⟨.str "cfg", .int 11211, .str "memcached",
      [⟨.str "n-1", .int 11211⟩, ⟨.str "n-2", .int 12000⟩]⟩
    (((Resolver.mk .shipped .elastiCache none).resolveCluster (.str "c-1")).run sparseCloud
        ()).outcome = .ok endpoint ∧
      (((Resolver.mk .shipped (.pulumi .null) none).resolveCluster (.str "c-1")).run sparseCloud
        ()).outcome = .ok endpoint := by
  have hcloud : CloudTells (sparseCloud.answer () (.describeCacheClusters (.str "c-1") true)).1
      (some sparseFacts) := by
    refine .described ⟨_, rfl⟩ rfl ⟨⟨_, rfl⟩, rfl, .fields ⟨_, rfl⟩ rfl rfl, _, rfl, ?_⟩
    exact .cons ⟨⟨_, rfl⟩, .fields ⟨_, rfl⟩ rfl rfl⟩
      (.cons ⟨⟨_, rfl⟩, .fields ⟨_, rfl⟩ rfl rfl⟩
        (.cons ⟨⟨_, rfl⟩, .fields ⟨_, rfl⟩ rfl rfl⟩ .nil))
  exact cluster_directories_agree sparseCloud sparseCloud .shipped none (.str "c-1") .null
    hcloud (.described rfl rfl rfl rfl)

end CacheWiring
