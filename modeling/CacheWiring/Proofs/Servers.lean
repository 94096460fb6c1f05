import CacheWiring.Proofs.ClusterDirectories

namespace CacheWiring

/-- What an answer says about a cluster, in whatever shape its parts are. -/
structure ClusterReport where
  engine : Value
  main : LookupNode
  nodes : List LookupNode

namespace ClusterReport

/-- An endpoint in an answer of the cloud provider; what is not there is null. -/
def place (raw : Value) : LookupNode :=
  ⟨(raw.get? "Address").getD .null, (raw.get? "Port").getD .null⟩

/-- An answer of the cloud provider with a single cluster in it. -/
inductive InCloud (answer : Value) : ClusterReport → Prop
  | mk {cluster : Value} {nodes : List Value}
      (hc : ((answer.get? "CacheClusters").getD (.list [])).members = .ok [cluster])
      (hn : ((cluster.get? "CacheNodes").getD (.list [])).members = .ok nodes) :
      InCloud answer ⟨(cluster.get? "Engine").getD (.str ""),
        place ((cluster.get? "ConfigurationEndpoint").getD .null),
        nodes.map fun node => place ((node.get? "Endpoint").getD .null)⟩

def ofLookup (found : Lookup) : ClusterReport :=
  ⟨found.engine, ⟨found.address, found.port⟩, found.nodes⟩

/-- The places to connect to: the nodes that have an address, or else the main one. -/
def addressed (report : ClusterReport) : List LookupNode :=
  let nodes := report.nodes.filter (·.address.truthy)
  if nodes.isEmpty then [report.main] else nodes

end ClusterReport

/-- What a directory is told when it is asked about a cluster. -/
inductive ToldOf {σ : Type} (h : Handler σ) (s : σ) (id : Value) :
    ClusterDirectory → ClusterReport → Prop
  | cloud {answer : Value} {report : ClusterReport}
      (ha : (h.answer s (.describeCacheClusters id true)).1 = .ok answer)
      (hr : ClusterReport.InCloud answer report) : ToldOf h s id .elastiCache report
  | lookup {provider : Value} {found : Lookup}
      (ha : (h.answer s (.lookUpCluster id (provider.orElse .null))).1 = .ok found) :
      ToldOf h s id (.pulumi provider) (.ofLookup found)

/-- The port to connect to: the given one, unless it is not set or stands for zero. -/
inductive PortFrom (default : Int) (given : Value) : Int → Prop
  | given {n : Int} (ht : given.truthy = true) (hn : given.toInt = .ok n) (hz : n ≠ 0) :
      PortFrom default given n
  | unset (ht : given.truthy = false) : PortFrom default given default
  | zero (ht : given.truthy = true) (hn : given.toInt = .ok 0) : PortFrom default given default

structure ServerAt (default : Int) (place : LookupNode) (server : NodeEndpoint) : Prop where
  host : server.host = place.address
  addressed : place.address.truthy = true
  port : ∃ n, PortFrom default place.port n ∧ server.port = .int n

theorem PortFrom.ne_zero {default n : Int} {given : Value} (hp : PortFrom default given n)
    (hd : default ≠ 0) : n ≠ 0 := by
  cases hp with
  | given _ _ hz => exact hz
  | unset _ => exact hd
  | zero _ _ => exact hd

theorem fieldOr_eq_ok {v fallback found : Value} {name : Text}
    (hf : v.fieldOr name fallback = .ok found) : found = (v.get? name).getD fallback := by
  unfold Value.fieldOr Value.field? at hf
  unfold Value.get?
  cases he : v.entries? with
  | none =>
    rw [he] at hf
    cases hf
  | some entries =>
    rw [he] at hf
    exact (Except.ok.inj hf).symm

theorem portOf_eq_ok {given port : Value} (hp : ClusterDirectory.portOf given = .ok port) :
    ∃ n, port = .int n ∧
      (given.truthy = true ∧ given.toInt = .ok n ∨ given.truthy = false ∧ n = 0) := by
  unfold ClusterDirectory.portOf Value.orElse at hp
  cases ht : given.truthy with
  | true =>
    rw [ht, if_pos rfl] at hp
    cases hn : given.toInt with
    | error fault =>
      rw [hn] at hp
      cases hp
    | ok n =>
      rw [hn] at hp
      exact ⟨n, (Except.ok.inj hp).symm, .inl ⟨rfl, rfl⟩⟩
  | false =>
    rw [ht] at hp
    exact ⟨0, (Except.ok.inj hp).symm, .inr ⟨rfl, rfl⟩⟩

theorem portFrom_of_portOf {given port : Value} (hp : ClusterDirectory.portOf given = .ok port)
    (default : Int) : ∃ n, PortFrom default given n ∧ port.orElse (.int default) = .int n := by
  obtain ⟨n, rfl, hn⟩ := portOf_eq_ok hp
  by_cases hz : n = 0
  · subst hz
    refine ⟨default, ?_, rfl⟩
    rcases hn with ⟨ht, hn⟩ | ⟨ht, -⟩
    · exact .zero ht hn
    · exact .unset ht
  · rcases hn with ⟨ht, hn⟩ | ⟨-, hn⟩
    · exact ⟨n, .given ht hn hz, by simp [Value.orElse, Value.truthy, Value.opened, hz]⟩
    · exact absurd hn hz

theorem lookupNode_eq_ok {place : LookupNode} {read : Option NodeEndpoint}
    (hr : ClusterDirectory.lookupNode place = .ok read) (default : Int) :
    (place.address.truthy = false ∧ read = none) ∨
      ∃ endpoint, read = some endpoint ∧
        ServerAt default place (Resolver.withPort default endpoint) := by
  unfold ClusterDirectory.lookupNode at hr
  cases ht : place.address.truthy with
  | false =>
    rw [ht] at hr
    exact .inl ⟨rfl, (Except.ok.inj hr).symm⟩
  | true =>
    rw [ht] at hr
    obtain ⟨port, hp, hr⟩ := bind_eq_ok_iff.mp hr
    exact .inr ⟨⟨place.address, port⟩, (Except.ok.inj hr).symm, rfl, ht,
      portFrom_of_portOf hp default⟩

/-- An endpoint in an answer of the cloud provider is read like a place of a lookup. -/
theorem endpointOf_eq_ok {raw : Value} {read : Option NodeEndpoint}
    (hr : ClusterDirectory.endpointOf raw = .ok read) :
    ClusterDirectory.lookupNode (ClusterReport.place raw) = .ok read := by
  unfold ClusterDirectory.endpointOf at hr
  unfold ClusterDirectory.lookupNode ClusterReport.place
  cases ht : raw.truthy with
  | false =>
    rw [ht] at hr
    rw [get?_of_not_truthy ht]
    exact hr
  | true =>
    rw [ht] at hr
    obtain ⟨address, ha, hr⟩ := bind_eq_ok_iff.mp hr
    obtain rfl := fieldOr_eq_ok ha
    cases hat : ((raw.get? "Address").getD .null).truthy with
    | false =>
      rw [hat] at hr
      exact hr
    | true =>
      rw [hat] at hr
      obtain ⟨port, hp, hr⟩ := bind_eq_ok_iff.mp hr
      obtain rfl := fieldOr_eq_ok hp
      exact hr

theorem lookupNodes_eq_ok {places : List LookupNode} {read : List (Option NodeEndpoint)}
    (hr : places.mapM ClusterDirectory.lookupNode = .ok read) (default : Int) :
    List.Forall₂ (ServerAt default) (places.filter (·.address.truthy))
      ((read.filterMap id).map (Resolver.withPort default)) := by
  rw [mapM_eq_ok_iff] at hr
  induction hr with
  | nil => exact .nil
  | cons hfirst _ ih =>
    rcases lookupNode_eq_ok hfirst default with ⟨ht, rfl⟩ | ⟨endpoint, rfl, hs⟩
    · rw [List.filter_cons_of_neg (by simp [ht])]
      exact ih
    · rw [List.filter_cons, if_pos hs.addressed]
      exact .cons hs ih

/-- A description as both directories make it of what they are told. -/
structure ClusterReport.Gives (report : ClusterReport) (d : ClusterDescription) : Prop where
  engine : d.engine = report.engine
  main : ClusterDirectory.lookupNode report.main = .ok d.configurationEndpoint
  nodes : ∃ read, report.nodes.mapM ClusterDirectory.lookupNode = .ok read ∧
    d.nodes = read.filterMap id

theorem nodesOf_eq_ok {cluster : Value} {endpoints : List NodeEndpoint}
    (hn : ClusterDirectory.nodesOf cluster = .ok endpoints) :
    ∃ nodes read, ((cluster.get? "CacheNodes").getD (.list [])).members = .ok nodes ∧
      (nodes.map fun node => ClusterReport.place ((node.get? "Endpoint").getD .null)).mapM
        ClusterDirectory.lookupNode = .ok read ∧ endpoints = read.filterMap id := by
  obtain ⟨list, hlist, hmembers⟩ := bind_eq_ok_iff.mp hn
  obtain ⟨nodes, hnodes, hendpoints⟩ := bind_eq_ok_iff.mp hmembers
  obtain ⟨read, hread, hkept⟩ := bind_eq_ok_iff.mp hendpoints
  obtain rfl := fieldOr_eq_ok hlist
  refine ⟨nodes, read, hnodes, ?_, (Except.ok.inj hkept).symm⟩
  rw [mapM_eq_ok_iff] at hread
  rw [mapM_eq_ok_iff, List.forall₂_map_left_iff]
  refine hread.imp fun node r hr => ?_
  obtain ⟨raw, hraw, hr⟩ := bind_eq_ok_iff.mp hr
  obtain rfl := fieldOr_eq_ok hraw
  exact endpointOf_eq_ok hr

theorem describeAnswer_gives {id cluster : Value} {d : ClusterDescription}
    (hd : ClusterDirectory.describeAnswer id cluster = .ok d) :
    ∃ nodes, ((cluster.get? "CacheNodes").getD (.list [])).members = .ok nodes ∧
      ClusterReport.Gives ⟨(cluster.get? "Engine").getD (.str ""),
        ClusterReport.place ((cluster.get? "ConfigurationEndpoint").getD .null),
        nodes.map fun node => ClusterReport.place ((node.get? "Endpoint").getD .null)⟩ d := by
  obtain ⟨endpoints, hnodes, hnamed⟩ := bind_eq_ok_iff.mp hd
  obtain ⟨name, -, hdriven⟩ := bind_eq_ok_iff.mp hnamed
  obtain ⟨engine, hengine, hplaced⟩ := bind_eq_ok_iff.mp hdriven
  obtain ⟨raw, hraw, hreached⟩ := bind_eq_ok_iff.mp hplaced
  obtain ⟨main, hmain, hdescribed⟩ := bind_eq_ok_iff.mp hreached
  obtain ⟨nodes, read, hmembers, hread, rfl⟩ := nodesOf_eq_ok hnodes
  obtain rfl := fieldOr_eq_ok hengine
  obtain rfl := fieldOr_eq_ok hraw
  cases hdescribed
  exact ⟨nodes, hmembers, rfl, endpointOf_eq_ok hmain, read, hread, rfl⟩

theorem describeAll_gives {id answer : Value} {d : ClusterDescription}
    (hd : ClusterDirectory.describeAll id answer = .ok [d]) :
    ∃ report, ClusterReport.InCloud answer report ∧ report.Gives d := by
  obtain ⟨list, hlist, hmembers⟩ := bind_eq_ok_iff.mp hd
  obtain ⟨clusters, hclusters, hdescribed⟩ := bind_eq_ok_iff.mp hmembers
  obtain rfl := fieldOr_eq_ok hlist
  rw [mapM_eq_ok_iff, List.forall₂_cons_right_iff] at hdescribed
  obtain ⟨cluster, rest, hcluster, hrest, rfl⟩ := hdescribed
  obtain rfl := List.forall₂_nil_right_iff.mp hrest
  obtain ⟨nodes, hnodes, hgives⟩ := describeAnswer_gives hcluster
  exact ⟨_, .mk hclusters hnodes, hgives⟩

theorem describeLookup_gives {asked : Value} {found : Lookup} {d : ClusterDescription}
    (hd : ClusterDirectory.describeLookup asked found = .ok d) :
    (ClusterReport.ofLookup found).Gives d := by
  obtain ⟨endpoint, hendpoint, hd⟩ := bind_eq_ok_iff.mp hd
  obtain ⟨read, hread, hd⟩ := bind_eq_ok_iff.mp hd
  cases hd
  exact ⟨rfl, hendpoint, read, hread, rfl⟩

variable {σ : Type} {h : Handler σ} {s : σ}

/-- A directory that describes a cluster has been told of it. -/
theorem describe_told {directory : ClusterDirectory} (hs : directory ≠ .supplied) {id : Value}
    {d : ClusterDescription}
    (hd : ((directory.describe id true).run h s).outcome = .ok [d]) :
    ∃ report, ToldOf h s id directory report ∧ report.Gives d := by
  cases directory with
  | supplied => exact absurd rfl hs
  | elastiCache =>
    rw [ClusterDirectory.describe, outcome_describeInCloud] at hd
    cases ha : (h.answer s (.describeCacheClusters id true)).1 with
    | ok answer =>
      rw [ha] at hd
      obtain ⟨report, hr, hgives⟩ := describeAll_gives hd
      exact ⟨report, .cloud ha hr, hgives⟩
    | error fault =>
      rw [ha] at hd
      dsimp only at hd
      split at hd <;> cases hd
  | pulumi provider =>
    rw [ClusterDirectory.describe, outcome_describeThroughPulumi] at hd
    cases ha : (h.answer s (.lookUpCluster id (provider.orElse .null))).1 with
    | ok found =>
      rw [ha] at hd
      obtain ⟨described, hl, he⟩ := map_eq_ok_iff.mp hd
      cases he
      exact ⟨_, .lookup ha, describeLookup_gives hl⟩
    | error fault =>
      rw [ha] at hd
      dsimp only at hd
      split at hd <;> cases hd

/-- The servers of an endpoint are at the places of a report that have an address. -/
theorem servers_at {report : ClusterReport} {d : ClusterDescription} (hg : report.Gives d)
    {main : NodeEndpoint} (hm : d.configurationEndpoint = some main) (default : Int)
    (engine : Value) :
    List.Forall₂ (ServerAt default) report.addressed
      (ClusterEndpoint.mk main.host (main.port.orElse (.int default)) engine
        (d.nodes.map (Resolver.withPort default))).servers := by
  obtain ⟨read, hread, hnodes⟩ := hg.nodes
  have hall := lookupNodes_eq_ok hread default
  rw [← hnodes] at hall
  unfold ClusterReport.addressed ClusterEndpoint.servers
  cases hf : report.nodes.filter (·.address.truthy) with
  | nil =>
    rw [hf] at hall
    rw [List.forall₂_nil_left_iff.mp hall]
    rcases lookupNode_eq_ok hg.main default with ⟨-, hnone⟩ | ⟨endpoint, hsome, hs⟩
    · cases hm.symm.trans hnone
    · cases hm.symm.trans hsome
      exact .cons hs .nil
  | cons node rest =>
    rw [hf] at hall
    obtain ⟨server, servers, hs, hrest, hservers⟩ := List.forall₂_cons_left_iff.mp hall
    rw [hservers]
    exact .cons hs hrest

theorem servers_ne_nil {default : Int} {report : ClusterReport} {servers : List NodeEndpoint}
    (hall : List.Forall₂ (ServerAt default) report.addressed servers) : servers ≠ [] := by
  intro hnone
  rw [hnone, List.forall₂_nil_right_iff] at hall
  unfold ClusterReport.addressed at hall
  cases hf : report.nodes.filter (·.address.truthy) with
  | nil => simp [hf] at hall
  | cons node rest => simp [hf] at hall

theorem ServerAt.connectable {default : Int} {place : LookupNode} {server : NodeEndpoint}
    (hs : ServerAt default place server) (hd : default ≠ 0) :
    server.host.truthy = true ∧ ∃ n, server.port = .int n ∧ n ≠ 0 := by
  obtain ⟨n, hp, hn⟩ := hs.port
  exact ⟨hs.host ▸ hs.addressed, n, hn, hp.ne_zero hd⟩

theorem forall_connectable {default : Int} {places : List LookupNode} {servers : List NodeEndpoint}
    (hall : List.Forall₂ (ServerAt default) places servers) (hd : default ≠ 0) :
    ∀ server ∈ servers, server.host.truthy = true ∧ ∃ n, server.port = .int n ∧ n ≠ 0 := by
  induction hall with
  | nil => simp
  | cons hs _ ih => exact List.forall_mem_cons.mpr ⟨hs.connectable hd, ih⟩

/-- However an answer is shaped, the servers of a resolved cluster are the nodes that have an
address, in order, or else the configuration endpoint; and each has a port other than zero, its own
or that of the engine. -/
theorem servers_connectable (h : Handler σ) {resolver : Resolver} {id : Value} {s : σ}
    {endpoint : ClusterEndpoint} (asked : resolver.directory ≠ .supplied)
    (ports : ∀ name engine, resolver.engines.Registers name engine → engine.defaultPort ≠ 0)
    (resolved : ((resolver.resolveCluster id).run h s).outcome = .ok endpoint) :
    ∃ report engine, ToldOf h s id resolver.directory report ∧ endpoint.engine = report.engine ∧
      resolver.engines.Registers report.engine engine ∧
      List.Forall₂ (ServerAt engine.defaultPort) report.addressed endpoint.servers ∧
      endpoint.servers ≠ [] ∧
      ∀ server ∈ endpoint.servers, server.host.truthy = true ∧
        ∃ n, server.port = .int n ∧ n ≠ 0 := by
  rw [run_resolveCluster] at resolved
  generalize hd : ((resolver.directory.describe id true).run h s).outcome = found at resolved
  rcases answer_cases resolver.engines .null ⟨⟨.null, id, .null⟩, found⟩ with
    ⟨fault, -, hf⟩ | ⟨endpoint', hr, he⟩
  · cases hf.symm.trans resolved
  · cases he.symm.trans resolved
    cases hr with
    | @mk d engine main ha hreg hmain =>
      obtain rfl := ha
      obtain ⟨report, htold, hgives⟩ := describe_told asked hd
      have hservers := servers_at hgives hmain engine.defaultPort d.engine
      have hport : engine.defaultPort ≠ 0 := ports d.engine engine hreg
      exact ⟨report, engine, htold, hgives.engine, hgives.engine ▸ hreg, hservers,
        servers_ne_nil hservers, forall_connectable hservers hport⟩

/-- A cluster whose nodes have ports of many shapes, and in part no address. -/
def oddCloud : Handler Unit where
  answer s
    | .describeCacheClusters _ _ => (.ok (.dict [(.str "CacheClusters", .list [.dict [
        (.str "Engine", .str "memcached"),
        (.str "ConfigurationEndpoint", .dict [(.str "Address", .str "cfg")]),
        (.str "CacheNodes", .list [
          .dict [(.str "Endpoint", .dict [(.str "Address", .str "n-1"), (.str "Port", .str "12 ")])],
          .dict [(.str "Endpoint", .dict [(.str "Address", .str ""), (.str "Port", .int 7)])],
          .dict [],
          .dict [(.str "Endpoint", .dict [(.str "Address", .str "n-2"), (.str "Port", .str "00")])],
          .dict [(.str "Endpoint",
            .dict [(.str "Address", .str "n-3"), (.str "Port", .bool true)])]])]])]), s)
    | _ => (.error .noFields, s)

theorem odd_servers_connectable :
    let resolver : Resolver := ⟨.shipped, .elastiCache, none⟩
    let endpoint : ClusterEndpoint := ⟨.str "cfg", .int 11211, .str "memcached",
      [⟨.str "n-1", .int 12⟩, ⟨.str "n-2", .int 11211⟩, ⟨.str "n-3", .int 1⟩]⟩
    resolver.directory ≠ .supplied ∧
      (∀ name engine, resolver.engines.Registers name engine → engine.defaultPort ≠ 0) ∧
      ((resolver.resolveCluster (.str "c-1")).run oddCloud ()).outcome = .ok endpoint ∧
      ∀ server ∈ endpoint.servers, server.host.truthy = true ∧
        ∃ n, server.port = .int n ∧ n ≠ 0 := by
  intro resolver endpoint
  have ports : ∀ name engine, resolver.engines.Registers name engine →
      engine.defaultPort ≠ 0 := by
    intro name engine hr
    obtain ⟨text, -, hn⟩ := hr
    obtain ⟨entry, he, rfl⟩ := Option.map_eq_some_iff.mp hn
    obtain rfl := List.mem_singleton.mp (List.mem_of_find?_eq_some he)
    decide
  have resolved : ((resolver.resolveCluster (.str "c-1")).run oddCloud ()).outcome =
      .ok endpoint := by rfl
  obtain ⟨report, engine, -, -, -, -, -, hall⟩ :=
    servers_connectable oddCloud (by simp [resolver]) ports resolved
  exact ⟨by simp [resolver], ports, resolved, hall⟩

end CacheWiring
