import CacheWiring.Proofs.Construction
import CacheWiring.Resolution

namespace CacheWiring

variable {β : Type}

/-- A cache cluster of a stack. One that has no physical id has an empty one. -/
structure StackCluster where
  logicalId : Text
  physicalId : Text

def StackCluster.target (c : StackCluster) : Except Fault Target :=
  if c.physicalId.isEmpty then .error (.resolution (.noPhysicalId (.str c.logicalId)))
  else .ok ⟨.str c.logicalId, .str c.physicalId, .null⟩

/-- Entries with one for each cluster, in order, and others anywhere between them. -/
inductive Interleaves (other : Value → Prop) (records : Value → StackCluster → Prop) :
    List Value → List StackCluster → Prop
  | nil : Interleaves other records [] []
  | other {entry : Value} {entries : List Value} {clusters : List StackCluster}
      (ho : other entry) (hrest : Interleaves other records entries clusters) :
      Interleaves other records (entry :: entries) clusters
  | cluster {entry : Value} {c : StackCluster} {entries : List Value}
      {clusters : List StackCluster} (hc : records entry c)
      (hrest : Interleaves other records entries clusters) :
      Interleaves other records (entry :: entries) (c :: clusters)

/-- The text under a name; an empty one may also be absent, or null. -/
def Value.HasText (entry : Value) (name : String) (text : Text) : Prop :=
  ((entry.get? name).getD .null).orElse (.str []) = .str text

namespace Listing

def clusterType : Text := "AWS::ElastiCache::CacheCluster"

structure Cluster (entry : Value) (c : StackCluster) : Prop where
  logicalId : entry.get? "LogicalResourceId" = some (.str c.logicalId)
  physicalId : entry.HasText "PhysicalResourceId" c.physicalId
  type : entry.get? "ResourceType" = some (.str clusterType)

structure Other (entry : Value) : Prop where
  logicalId : ∃ id, entry.get? "LogicalResourceId" = some id
  type : ∃ type, entry.get? "ResourceType" = some type ∧ type ≠ .str clusterType

/-- Pages that hold entries in order; some may hold none. -/
inductive Holds : Pages → List Value → Prop
  | last : Holds .last []
  | page {content : Value} {entries : List Value} {rest : Pages} {more : List Value}
      (hm : content.IsMapping)
      (he : ((content.get? "StackResourceSummaries").getD (.list [])).items? = some entries)
      (hrest : Holds rest more) : Holds (.page content rest) (entries ++ more)

def Lists (pages : Pages) (clusters : List StackCluster) : Prop :=
  ∃ entries, Holds pages entries ∧ Interleaves Other Cluster entries clusters

end Listing

namespace Export

def clusterType : Text := "aws:elasticache/cluster:Cluster"

def urn (stack project type name : Text) : Text :=
  "urn:pulumi:" ++ stack ++ "::" ++ project ++ "::" ++ type ++ "::" ++ name

structure Cluster (entry : Value) (c : StackCluster) : Prop where
  urn : ∃ stack project type, entry.get? "urn" = some (.str (urn stack project type c.logicalId))
  physicalId : entry.HasText "id" c.physicalId
  type : entry.get? "type" = some (.str clusterType)

/-- A resource of another type, or one without a URN. -/
structure Other (entry : Value) : Prop where
  mapping : entry.IsMapping
  other : ((entry.get? "urn").getD .null).truthy = false ∨
    (∃ urn : Text, entry.get? "urn" = some (.str urn)) ∧
      entry.get? "type" ≠ some (.str clusterType)

/-- A deployment is given on its own, or under its name in the whole export. -/
def inner (deployment : Value) : Value := (deployment.get? "deployment").getD deployment

structure Holds (deployment : Value) (entries : List Value) : Prop where
  whole : deployment.IsMapping
  inner : (inner deployment).IsMapping
  resources :
    ((((Export.inner deployment).get? "resources").getD .null).orElse (.list [])).items? =
      some entries

def Lists (deployment : Value) (clusters : List StackCluster) : Prop :=
  ∃ entries, Holds deployment entries ∧ Interleaves Other Cluster entries clusters

end Export

structure StackResource.Records (r : StackResource) (c : StackCluster) : Prop where
  logicalId : r.logicalId = .str c.logicalId
  physicalId : r.physicalId.orElse (.str []) = .str c.physicalId

theorem truthy_str (text : Text) : (Value.str text).truthy = !text.isEmpty := rfl

theorem orElse_eq_str {v : Value} {text : Text} (hv : v.orElse (.str []) = .str text) :
    v = .str text ∧ text ≠ [] ∨ v.truthy = false ∧ text = [] := by
  unfold Value.orElse at hv
  split at hv
  · rename_i ht
    subst hv
    exact .inl ⟨rfl, by simpa [truthy_str] using ht⟩
  · rename_i ht
    cases hv
    exact .inr ⟨by simpa using ht, rfl⟩

/-- Resources with the ids of some clusters make the targets that these ids make. -/
theorem stackTargets_of_records {resources : List StackResource} {clusters : List StackCluster}
    (hall : List.Forall₂ StackResource.Records resources clusters) :
    Resolver.stackTargets resources = clusters.mapM StackCluster.target := by
  induction hall with
  | nil => rfl
  | @cons r c resources clusters hr _ ih =>
    rw [List.mapM_cons, ← ih]
    unfold Resolver.stackTargets StackCluster.target
    rcases orElse_eq_str hr.physicalId with ⟨hid, hn⟩ | ⟨hid, hn⟩
    · have hfilled : r.physicalId.truthy = true := by simp [hid, truthy_str, hn]
      have hcluster : c.physicalId.isEmpty = false := by simpa using hn
      rw [List.find?_cons_of_neg (by simp [hfilled]), hcluster]
      cases resources.find? fun r => !r.physicalId.truthy with
      | some other => rfl
      | none =>
        simp only [List.map_cons, Resolver.stackTarget, hr.logicalId, hid]
        rfl
    · rw [List.find?_cons_of_pos (by simp [hid])]
      simp only [hn, hr.logicalId]
      rfl

/-- When each entry of a list can be read, its clusters are what is left of the resources that are
of their type. -/
theorem interleaves_read {other : Value → Prop} {records : Value → StackCluster → Prop}
    {related : StackResource → StackCluster → Prop} {read : Value → Except Fault β}
    (resource? : β → Option StackResource) {type : Text} {entries : List Value}
    {clusters : List StackCluster}
    (hother : ∀ entry, other entry →
      ∃ b, read entry = .ok b ∧ ∀ r ∈ resource? b, r.type.isStr type = false)
    (hcluster : ∀ entry, ∀ c ∈ clusters, records entry c →
      ∃ b, read entry = .ok b ∧ ∃ r ∈ resource? b, r.type.isStr type = true ∧ related r c)
    (hi : Interleaves other records entries clusters) :
    ∃ results, entries.mapM read = .ok results ∧
      List.Forall₂ related (StackDirectory.ofType type (results.filterMap resource?)) clusters := by
  induction hi with
  | nil => exact ⟨[], rfl, .nil⟩
  | @other entry entries clusters ho _ ih =>
    obtain ⟨b, hb, hapart⟩ := hother entry ho
    obtain ⟨results, hr, hall⟩ := ih hcluster
    refine ⟨b :: results, mapM_cons_ok hb hr, ?_⟩
    cases hres : resource? b with
    | none => simpa [hres] using hall
    | some r =>
      rw [List.filterMap_cons_some hres, StackDirectory.ofType,
        List.filter_cons_of_neg (by simp [hapart r hres])]
      exact hall
  | @cluster entry c entries clusters hc _ ih =>
    obtain ⟨b, hb, r, hres, htype, hrelated⟩ := hcluster entry c List.mem_cons_self hc
    obtain ⟨results, hr, hall⟩ :=
      ih fun entry c hm => hcluster entry c (List.mem_cons_of_mem _ hm)
    refine ⟨b :: results, mapM_cons_ok hb hr, ?_⟩
    rw [List.filterMap_cons_some hres, StackDirectory.ofType,
      List.filter_cons_of_pos (by simp [htype])]
    exact .cons hrelated hall

theorem Value.HasText.orElse_empty {entry : Value} {name : String} {text : Text}
    (h : entry.HasText name text) :
    ((entry.get? name).getD (.str "")).orElse (.str []) = .str text := by
  unfold Value.HasText at h
  cases hf : entry.get? name with
  | none =>
    rw [hf] at h
    exact h
  | some field =>
    rw [hf] at h
    exact h

namespace Listing

theorem summary_eq {entry id type : Value} (hid : entry.get? "LogicalResourceId" = some id)
    (ht : entry.get? "ResourceType" = some type) :
    StackDirectory.summary entry =
      .ok ⟨id, (entry.get? "PhysicalResourceId").getD (.str ""), type⟩ := by
  unfold StackDirectory.summary
  rw [bind_of_ok (Value.required_eq hid),
    bind_of_ok (Value.fieldOr_eq (Value.isMapping_of_get? hid) _ _),
    bind_of_ok (Value.required_eq ht)]
  rfl

theorem summary_of_other (entry : Value) (ho : Other entry) :
    ∃ r, StackDirectory.summary entry = .ok r ∧ ∀ r' ∈ some r, r'.type.isStr clusterType = false := by
  obtain ⟨⟨id, hid⟩, type, ht, hother⟩ := ho
  refine ⟨_, summary_eq hid ht, ?_⟩
  intro r hr
  cases hr
  exact (Shape.isStr_eq_false_iff _ _).mpr hother

theorem summary_of_cluster {entry : Value} {c : StackCluster} (hc : Cluster entry c) :
    ∃ r, StackDirectory.summary entry = .ok r ∧
      ∃ r' ∈ some r, r'.type.isStr clusterType = true ∧ r'.Records c :=
  ⟨_, summary_eq hc.logicalId hc.type, _, rfl, (Shape.isStr_iff _ _).mpr rfl, rfl,
    hc.physicalId.orElse_empty⟩

/-- A listing is read entry by entry, wherever its pages end. -/
theorem pagesResources_eq {pages : Pages} {entries : List Value} (hp : Holds pages entries) :
    StackDirectory.pagesResources pages = entries.mapM StackDirectory.summary := by
  induction hp with
  | last => rfl
  | @page content entries rest more hm he _ ih =>
    have hcontent : StackDirectory.pageResources content =
        entries.mapM StackDirectory.summary := by
      unfold StackDirectory.pageResources
      rw [bind_of_ok (Value.fieldOr_eq hm _ _), bind_of_ok (Value.members_eq he)]
    rw [StackDirectory.pagesResources, hcontent, ih, List.mapM_append]

/-- The resources of a listing are those of its cache clusters. -/
theorem pagesResources_records {pages : Pages} {clusters : List StackCluster}
    (hp : Lists pages clusters) :
    ∃ resources, StackDirectory.pagesResources pages = .ok resources ∧
      List.Forall₂ StackResource.Records (StackDirectory.ofType clusterType resources)
        clusters := by
  obtain ⟨entries, hholds, hi⟩ := hp
  rw [pagesResources_eq hholds]
  obtain ⟨resources, hread, hrecords⟩ :=
    interleaves_read some summary_of_other (fun _ _ _ hc => summary_of_cluster hc) hi
  exact ⟨resources, hread, by simpa using hrecords⟩

end Listing

namespace Export

/-- A name without a pair of colons in it. Nor does it begin with a colon, which would make a pair
with the one before the name. -/
structure PlainName (name : Text) : Prop where
  start : name.head? ≠ some (':' : CodePoint)
  apart : ¬ ("::" : Text) <:+: name

theorem colons_prefix_iff (c : CodePoint) (rest : Text) :
    ("::" : Text) <+: c :: rest ↔ c = ':' ∧ rest.head? = some (':' : CodePoint) := by
  change [(':' : CodePoint), ':'] <+: c :: rest ↔ _
  rw [List.cons_prefix_cons]
  cases rest with
  | nil => simp
  | cons d rest => simp [List.cons_prefix_cons, eq_comm]

/-- The colon at the end of the type counts. -/
theorem plainName_iff (name : Text) :
    PlainName name ↔ ¬ ("::" : Text) <:+: (':' : CodePoint) :: name := by
  rw [List.infix_cons_iff, colons_prefix_iff, not_or]
  constructor
  · intro hp
    exact ⟨fun hc => hp.start hc.2, hp.apart⟩
  · intro hp
    exact ⟨fun hc => hp.1 ⟨rfl, hc⟩, hp.2⟩

theorem afterLastColons?_eq_none_iff (text : Text) :
    StackDirectory.afterLastColons? text = none ↔ ¬ ("::" : Text) <:+: text := by
  induction text with
  | nil =>
    have hnone : ¬ ("::" : Text) <:+: [] := fun hi => by cases List.infix_nil.mp hi
    exact iff_of_true rfl hnone
  | cons c rest ih =>
    rw [List.infix_cons_iff, colons_prefix_iff, not_or, ← ih, StackDirectory.afterLastColons?]
    cases StackDirectory.afterLastColons? rest with
    | some tail => simp
    | none => simp

theorem PlainName.of_not_mem {name : Text} (hn : (':' : CodePoint) ∉ name) : PlainName name where
  start hh := hn (List.mem_of_mem_head? hh)
  apart hi := hn (hi.subset List.mem_cons_self)

/-- What stands before a pair of colons does not matter. -/
theorem afterLastColons?_append (before : Text) {text name : Text}
    (ht : StackDirectory.afterLastColons? text = some name) :
    StackDirectory.afterLastColons? (before ++ text) = some name := by
  induction before with
  | nil => exact ht
  | cons c rest ih => rw [List.cons_append, StackDirectory.afterLastColons?, ih]

/-- What a URN shows of the name that it ends in. The colons in front of the name count. -/
def lastSegment (name : Text) : Text :=
  (StackDirectory.afterLastColons? ((':' : CodePoint) :: name)).getD name

theorem lastSegment_plain {name : Text} (hp : PlainName name) : lastSegment name = name := by
  rw [lastSegment, (afterLastColons?_eq_none_iff _).mpr ((plainName_iff name).mp hp)]
  rfl

theorem urnName_urn (stack project type name : Text) :
    StackDirectory.urnName (urn stack project type name) = lastSegment name := by
  have hlast : StackDirectory.afterLastColons? ("::" ++ name) = some (lastSegment name) := by
    change StackDirectory.afterLastColons? ((':' : CodePoint) :: (':' : CodePoint) :: name) = _
    rw [StackDirectory.afterLastColons?, lastSegment]
    cases StackDirectory.afterLastColons? ((':' : CodePoint) :: name) <;> rfl
  unfold StackDirectory.urnName urn
  rw [List.append_assoc, afterLastColons?_append _ hlast]
  rfl

theorem exported_eq {entry : Value} {urn : Text} (hurn : entry.get? "urn" = some (.str urn))
    (hn : urn ≠ []) :
    StackDirectory.exported entry = .ok (some ⟨.str (StackDirectory.urnName urn),
      (entry.get? "id").getD (.str ""), (entry.get? "type").getD (.str "")⟩) := by
  have hm := Value.isMapping_of_get? hurn
  have ht : (Value.str urn).truthy = true := by simpa [truthy_str] using hn
  unfold StackDirectory.exported
  rw [bind_of_ok (Value.field_eq hm _), hurn, Option.getD_some, ht,
    Value.fieldOr_eq hm, Value.fieldOr_eq hm]
  rfl

theorem exported_nameless {entry : Value} (hm : entry.IsMapping)
    (hurn : ((entry.get? "urn").getD .null).truthy = false) :
    StackDirectory.exported entry = .ok none := by
  unfold StackDirectory.exported
  rw [bind_of_ok (Value.field_eq hm _), hurn]
  rfl

theorem exported_of_other (entry : Value) (ho : Other entry) :
    ∃ r?, StackDirectory.exported entry = .ok r? ∧
      ∀ r ∈ id r?, r.type.isStr clusterType = false := by
  obtain ⟨hm, hurn | ⟨⟨urn, hurn⟩, ht⟩⟩ := ho
  · exact ⟨none, exported_nameless hm hurn, by simp⟩
  · by_cases hn : urn = []
    · exact ⟨none, exported_nameless hm (by rw [hurn, hn]; rfl), by simp⟩
    · refine ⟨_, exported_eq hurn hn, ?_⟩
      intro r hr
      cases hr
      cases hf : entry.get? "type" with
      | none => rfl
      | some type =>
        exact (Shape.isStr_eq_false_iff _ _).mpr fun he => ht (he ▸ hf)

def read (c : StackCluster) : StackCluster := ⟨lastSegment c.logicalId, c.physicalId⟩

theorem exported_of_cluster {entry : Value} {c : StackCluster} (hc : Cluster entry c) :
    ∃ r?, StackDirectory.exported entry = .ok r? ∧
      ∃ r ∈ id r?, r.type.isStr clusterType = true ∧ r.Records (read c) := by
  obtain ⟨⟨stack, project, type, hurn⟩, hid, ht⟩ := hc
  refine ⟨_, exported_eq hurn (List.cons_ne_nil _ _), _, rfl, ?_, ?_, hid.orElse_empty⟩
  · rw [ht]
    exact (Shape.isStr_iff _ _).mpr rfl
  · rw [urnName_urn]
    rfl

/-- The resources of a deployment are those of its cache clusters, as they are read. -/
theorem ofDeployment_read {deployment : Value} {clusters : List StackCluster}
    (hd : Lists deployment clusters) :
    ∃ resources, StackDirectory.ofDeployment deployment = .ok (.pulumi resources) ∧
      List.Forall₂ StackResource.Records (StackDirectory.ofType clusterType resources)
        (clusters.map read) := by
  obtain ⟨entries, ⟨hwhole, hinner, hitems⟩, hi⟩ := hd
  obtain ⟨results, hread, hrecords⟩ :=
    interleaves_read id exported_of_other (fun _ _ _ hc => exported_of_cluster hc) hi
  refine ⟨results.filterMap id, ?_, List.forall₂_map_right_iff.mpr hrecords⟩
  have hin : deployment.fieldOr "deployment" deployment = .ok (inner deployment) :=
    Value.fieldOr_eq hwhole _ _
  unfold StackDirectory.ofDeployment StackDirectory.deploymentResources
  rw [bind_of_ok hin, bind_of_ok (Value.field_eq hinner _),
    bind_of_ok (Value.members_eq hitems), bind_of_ok hread]
  rfl

/-- Names without colons are read as they are. -/
theorem ofDeployment_records {deployment : Value} {clusters : List StackCluster}
    (hd : Lists deployment clusters) (hn : ∀ c ∈ clusters, (':' : CodePoint) ∉ c.logicalId) :
    ∃ resources, StackDirectory.ofDeployment deployment = .ok (.pulumi resources) ∧
      List.Forall₂ StackResource.Records (StackDirectory.ofType clusterType resources)
        clusters := by
  have hsame : clusters.map read = clusters := by
    refine (List.map_congr_left fun c hc => ?_).trans (List.map_id clusters)
    rw [read, lastSegment_plain (.of_not_mem (hn c hc))]
    rfl
  obtain ⟨resources, hread, hrecords⟩ := ofDeployment_read hd
  exact ⟨resources, hread, hsame ▸ hrecords⟩

end Export

end CacheWiring
