import CacheWiring.Proofs.Phases
import CacheWiring.Proofs.StackBackends

namespace CacheWiring

variable {σ : Type}

namespace Export

/-- By induction from the end: only what has no pair in it is looked at. -/
theorem afterLastColons?_eq_some {text tail : Text}
    (ht : StackDirectory.afterLastColons? text = some tail) :
    ∃ before, text = before ++ ("::" ++ tail) ∧ PlainName tail := by
  induction text with
  | nil => cases ht
  | cons c rest ih =>
    rw [StackDirectory.afterLastColons?] at ht
    cases hr : StackDirectory.afterLastColons? rest with
    | some other =>
      rw [hr] at ht
      obtain ⟨before, hrest, hp⟩ := ih (hr.trans ht)
      exact ⟨c :: before, congrArg (c :: ·) hrest, hp⟩
    | none =>
      simp only [hr] at ht
      split at ht
      · rename_i hc
        obtain ⟨rfl, hhead⟩ := hc
        obtain rfl := Option.some.inj ht
        have hrest : rest = (':' : CodePoint) :: rest.tail := List.eq_cons_of_mem_head? hhead
        refine ⟨[], congrArg ((':' : CodePoint) :: ·) hrest, ?_⟩
        rw [plainName_iff, ← hrest]
        exact (afterLastColons?_eq_none_iff rest).mp hr
      · cases ht

/-- Of a name its last plain part is left. -/
theorem lastSegment_cut (name : Text) :
    lastSegment name <:+ name ∧ PlainName (lastSegment name) := by
  unfold lastSegment
  cases ht : StackDirectory.afterLastColons? ((':' : CodePoint) :: name) with
  | none =>
    refine ⟨List.suffix_rfl, ?_⟩
    exact (plainName_iff name).mpr ((afterLastColons?_eq_none_iff _).mp ht)
  | some tail =>
    obtain ⟨before, hname, hp⟩ := afterLastColons?_eq_some ht
    have hsuffix : tail <:+ (':' : CodePoint) :: name :=
      ⟨before ++ "::", by rw [List.append_assoc, hname]⟩
    refine ⟨?_, hp⟩
    rcases List.suffix_cons_iff.mp hsuffix with he | hs
    · -- the pair of colons is not part of it, so it is not the whole text
      have hlength := congrArg List.length hname
      have hcolons : ("::" : Text).length = 2 := rfl
      simp only [List.length_append, hcolons, he] at hlength
      omega
    · exact hs

theorem lastSegment_eq_iff (name : Text) : lastSegment name = name ↔ PlainName name := by
  constructor
  · intro he
    exact he ▸ (lastSegment_cut name).2
  · exact lastSegment_plain

end Export

variable {h : Handler σ}

theorem resolveTarget_name {resolver : Resolver} {default : Value} {target : Target} {s : σ}
    {cluster : ResolvedCluster}
    (hr : ((resolver.resolveTarget default target).run h s).outcome = .ok cluster) :
    cluster.logicalName = target.logicalName := by
  simp only [Resolver.resolveTarget, Program.run_bind, Run.andThen_outcome_ok,
    Program.run_pure] at hr
  obtain ⟨_, -, _, -, _, -, hr⟩ := hr
  cases hr
  rfl

theorem StackCluster.target_name {c : StackCluster} {target : Target}
    (ht : c.target = .ok target) : target.logicalName = .str c.logicalId := by
  unfold StackCluster.target at ht
  split at ht
  · cases ht
  · cases ht
    rfl

/-- Clusters of a stack are resolved under their logical ids. -/
theorem resolveIds_names {resolver : Resolver} {default : Value} {clusters : List StackCluster}
    {s : σ} {resolved : List ResolvedCluster}
    (hr : ((resolver.resolveIds default clusters).run h s).outcome = .ok resolved) :
    resolved.map ResolvedCluster.logicalName = clusters.map fun c => .str c.logicalId := by
  simp only [Resolver.resolveIds, Program.run_bind, Program.run_ofExcept,
    Run.andThen_outcome_ok] at hr
  obtain ⟨targets, htargets, hr⟩ := hr
  have hnames : targets.map Target.logicalName = clusters.map fun c => .str c.logicalId :=
    (forall₂_agree_iff _ _ _ _).mp
      (((mapM_eq_ok_iff _ _ _).mp htargets).imp fun _ _ => StackCluster.target_name)
  rw [← hnames]
  exact (forall₂_agree_iff _ _ _ _).mp
    (Program.forall₂_of_each h (fun _ _ _ => resolveTarget_name) hr)

/-- Memcached clusters under texts are refused over a name exactly when one is repeated. -/
theorem build_duplicateName_iff (foreign : h.ForeignFaults) {options : ClientOptions}
    {clusters : List ResolvedCluster} {texts : List Text}
    (hengines : ∀ cluster ∈ clusters, cluster.endpoint.engine = .str "memcached")
    (named : clusters.map ResolvedCluster.logicalName = texts.map Value.str) (s : σ) :
    (∃ name, ((Registry.build .shipped clusters options).run h s).outcome =
        .error (.duplicateName name)) ↔ ¬ texts.Nodup := by
  constructor
  · intro hp hd
    obtain ⟨name, hf⟩ := hp
    rcases build_fault_apart hengines ((no_conflict_iff named).mpr hd) hf with he | ⟨s', r, ho, ha⟩
    · cases he
    · cases foreign s' r _ ho ha
  · intro hd
    cases hn : nameConflict? [] (texts.map Value.str) with
    | none => exact absurd ((no_conflict_iff rfl).mp hn) hd
    | some fault =>
      obtain ⟨_, t, _, -, -, -, rfl⟩ := repetition_of_conflict List.nodup_nil hn
      rw [Registry.run_build_conflict h .shipped options (named ▸ hn) s]
      exact ⟨_, rfl⟩

/-- And so are startups that have resolved them. -/
theorem start_duplicateName_iff (foreign : h.ForeignFaults) {c : Configuration} {given : Supplied}
    {s : σ} {resolved : List ResolvedCluster} {texts : List Text}
    (hr : ((c.resolveClusters .shipped given).run h s).outcome = .ok resolved)
    (named : resolved.map ResolvedCluster.logicalName = texts.map Value.str) :
    (∃ name, ((c.start .shipped given).run h s).outcome = .error (.duplicateName name)) ↔
      ¬ texts.Nodup := by
  let s' := ((c.resolveClusters .shipped given).run h s).state
  have hbuild := @build_duplicateName_iff _ h foreign c.client resolved texts (resolved_engines hr)
    named s'
  have hstart (name : Value) :
      ((c.start .shipped given).run h s).outcome = .error (.duplicateName name) ↔
        ((Registry.build .shipped resolved c.client).run h s').outcome =
          .error (.duplicateName name) := by
    rw [run_start, Run.andThen_of_ok hr, Run.andThen_outcome_error]
    constructor
    · intro hp
      rcases hp with hf | ⟨registry, -, hf⟩
      · exact hf
      · cases hf
    · exact .inl
  simp only [hstart, hbuild]

open Export

/-- Clusters of a deployment are resolved under the last segments of their names. -/
theorem resolved_names {c : Configuration} (undeclared : c.clusters = []) {engines : Engines}
    {directory : ClusterDirectory} {resources : List StackResource} {clusters : List StackCluster}
    (hrecords : List.Forall₂ StackResource.Records (StackDirectory.ofType clusterType resources)
      (clusters.map read)) {s : σ} {resolved : List ResolvedCluster}
    (hr : ((c.resolveClusters engines ⟨some directory, some (.pulumi resources)⟩).run h s).outcome =
      .ok resolved) :
    resolved.map ResolvedCluster.logicalName =
      (clusters.map fun c => lastSegment c.logicalId).map Value.str := by
  rw [resolveClusters_given c engines directory (fun hn => by cases hn), undeclared] at hr
  have hlisted : ((StackDirectory.pulumi resources).resourcesByType
      (StackDirectory.pulumi resources).clusterType).run h s =
        ⟨.ok (StackDirectory.ofType clusterType resources, .pulumi resources), s, []⟩ := rfl
  obtain ⟨houtcome, -⟩ := run_resolve_stack engines directory c.defaultExpiration hlisted hrecords
  rw [resolveIds_names (houtcome.symm.trans hr), List.map_map, List.map_map]
  rfl

/-- A resource goes by the last segment of its name, which is the whole name exactly if the name is
plain. A startup that has resolved the cache clusters of a deployment refuses them over a name
exactly if two of them end in the same segment, so never if their names are plain and distinct. -/
theorem resources_by_last_segment (h : Handler σ) (foreign : h.ForeignFaults) (c : Configuration)
    (undeclared : c.clusters = []) (directory : ClusterDirectory) {deployment : Value}
    {clusters : List StackCluster} (lists : Lists deployment clusters) (s : σ) :
    (∀ (entry : Value) (stack project type name : Text),
      entry.get? "urn" = some (.str (urn stack project type name)) →
        ∃ r, StackDirectory.exported entry = .ok (some r) ∧
          r.logicalId = .str (lastSegment name)) ∧
      (∀ name, lastSegment name <:+ name ∧ PlainName (lastSegment name)) ∧
      (∀ name, lastSegment name = name ↔ PlainName name) ∧
      ∃ resources, StackDirectory.ofDeployment deployment = .ok (.pulumi resources) ∧
        List.Forall₂ (fun c r => r.logicalId = .str (lastSegment c.logicalId)) clusters
          (StackDirectory.ofType clusterType resources) ∧
        let given : Supplied := ⟨some directory, some (.pulumi resources)⟩
        let outcome := ((c.start .shipped given).run h s).outcome
        ∀ resolved, ((c.resolveClusters .shipped given).run h s).outcome = .ok resolved →
          ((∃ name, outcome = .error (.duplicateName name)) ↔
            ¬ (clusters.map fun c => lastSegment c.logicalId).Nodup) ∧
          ((∀ c ∈ clusters, PlainName c.logicalId) →
            (clusters.map StackCluster.logicalId).Nodup →
              ∀ name, outcome ≠ .error (.duplicateName name)) := by
  refine ⟨?_, lastSegment_cut, lastSegment_eq_iff, ?_⟩
  · intro entry stack project type name hurn
    refine ⟨_, exported_eq hurn (List.cons_ne_nil _ _), ?_⟩
    rw [urnName_urn]
  · obtain ⟨resources, hread, hrecords⟩ := ofDeployment_read lists
    refine ⟨resources, hread, ?_, ?_⟩
    · exact (List.forall₂_map_right_iff.mp hrecords).flip.imp fun _ _ hr => hr.logicalId
    · intro given outcome resolved hr
      have hiff := start_duplicateName_iff foreign hr (resolved_names undeclared hrecords hr)
      refine ⟨hiff, fun hplain hd name hf => ?_⟩
      refine hiff.mp ⟨name, hf⟩ ?_
      have hsame : (clusters.map fun c => lastSegment c.logicalId) =
          clusters.map StackCluster.logicalId :=
        List.map_congr_left fun c hc => lastSegment_plain (hplain c hc)
      rw [hsame]
      exact hd

def clusterNamedIn (name id : Text) : Value :=
  entryOf [("urn", urn "dev" "web" clusterType name), ("id", id), ("type", clusterType)]

theorem clusterNamedIn_cluster (name id : Text) : Cluster (clusterNamedIn name id) ⟨name, id⟩ where
  urn := ⟨"dev", "web", clusterType, rfl⟩
  physicalId := by
    have hid : (clusterNamedIn name id).get? "id" = some (.str id) := rfl
    rw [Value.HasText, hid, Option.getD_some, Value.orElse]
    cases id <;> rfl
  type := rfl

/-- Two clusters of one name in two scopes. -/
def scopedExport : Value :=
  .dict [(.str "resources", .list [clusterNamedIn "x::a" "c-1", clusterNamedIn "y::a" "c-2"])]

theorem scopedExport_lists : Lists scopedExport [⟨"x::a", "c-1"⟩, ⟨"y::a", "c-2"⟩] :=
  ⟨_, ⟨⟨_, rfl⟩, ⟨_, rfl⟩, rfl⟩,
    .cluster (clusterNamedIn_cluster _ _) (.cluster (clusterNamedIn_cluster _ _) .nil)⟩

def scopedResources : List StackResource :=
  [⟨.str "a", .str "c-1", .str clusterType⟩, ⟨.str "a", .str "c-2", .str clusterType⟩]

/-- Both are resolved, and then refused as one name given twice. -/
theorem scoped_clusters_collide :
    hostPerCluster.ForeignFaults ∧ Lists scopedExport [⟨"x::a", "c-1"⟩, ⟨"y::a", "c-2"⟩] ∧
      StackDirectory.ofDeployment scopedExport = .ok (.pulumi scopedResources) ∧
      ∃ name, ((({} : Configuration).start .shipped
          ⟨some .supplied, some (.pulumi scopedResources)⟩).run hostPerCluster ()).outcome =
        .error (.duplicateName name) := by
  have hscoped : StackDirectory.ofDeployment scopedExport = .ok (.pulumi scopedResources) := rfl
  obtain ⟨-, -, -, resources, hread, -, hstart⟩ :=
    resources_by_last_segment hostPerCluster hostPerCluster_foreign {} rfl .supplied
      scopedExport_lists ()
  obtain rfl : scopedResources = resources := by
    injection hscoped.symm.trans hread with hsame
    injection hsame
  refine ⟨hostPerCluster_foreign, scopedExport_lists, hscoped, ?_⟩
  exact (hstart _ rfl).1.mpr (by decide +kernel)

/-- So a resource does not always go by its name. -/
theorem not_every_resource_goes_by_its_name :
    ¬ ∀ stack project type name : Text, ¬ ("::" : Text) <:+: stack →
      ¬ ("::" : Text) <:+: project → ¬ ("::" : Text) <:+: type → name ≠ [] →
        StackDirectory.urnName (urn stack project type name) = name := by
  intro hall
  have hname := hall "dev" "web" clusterType "x::a" (by decide +kernel) (by decide +kernel)
    (by decide +kernel) (by decide +kernel)
  exact absurd hname (by decide +kernel)

end CacheWiring
