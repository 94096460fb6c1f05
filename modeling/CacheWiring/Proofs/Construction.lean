import CacheWiring.Configuration.Document
import CacheWiring.Proofs.Grammar
import CacheWiring.Proofs.Outcomes

namespace CacheWiring

namespace Value

def at? : Value → List String → Option Value
  | v, [] => some v
  | v, name :: rest => (v.get? name).bind fun field => field.at? rest

end Value

structure ClusterDeclaration.Reflects (d : ClusterDeclaration) (entry : Value) : Prop where
  name : entry.get? "name" = some d.name
  expiration : d.expiration = (entry.get? "expiration").getD .null

structure StackSettings.Reflects (s : StackSettings) (entry : Value) : Prop where
  provider : s.provider = (entry.get? "provider").getD (.str "cloudformation")
  name : entry.get? "name" = some s.name
  project : s.project = (entry.get? "project").getD (.str "")
  exportFile : s.exportFile = (entry.get? "exportFile").getD .null

/-- A configuration has the values of a document, each from its place, and the usual value in place
of one that is absent. There is a declaration for each cluster entry, in order, and there are
settings for a stack only when the document has a stack. -/
structure Configuration.Reflects (c : Configuration) (document : Value) : Prop where
  clusters : List.Forall₂ (fun entry d => ClusterDeclaration.Reflects d entry)
    (((document.at? ["spec", "clusters"]).bind Value.items?).getD []) c.clusters
  defaultExpiration :
    c.defaultExpiration = (document.at? ["spec", "defaultExpiration"]).getD .null
  region : c.region = (document.at? ["spec", "region"]).getD .null
  stack : Option.Rel (fun entry s => StackSettings.Reflects s entry)
    (document.at? ["spec", "stack"]) c.stack
  connectTimeout :
    c.client.connectTimeout = (document.at? ["spec", "client", "connectTimeout"]).getD .null
  timeout : c.client.timeout = (document.at? ["spec", "client", "timeout"]).getD .null
  maxPoolSize : c.client.maxPoolSize = (document.at? ["spec", "client", "maxPoolSize"]).getD .null
  name : c.name = (document.at? ["metadata", "name"]).getD (.str "")

namespace Value

theorem fieldOr_eq {v : Value} (hv : v.IsMapping) (name : Text) (fallback : Value) :
    v.fieldOr name fallback = .ok ((v.get? name).getD fallback) := by
  obtain ⟨entries, he⟩ := hv
  simp [fieldOr, field?, get?, he, Except.map]

theorem field_eq {v : Value} (hv : v.IsMapping) (name : Text) :
    v.field name = .ok ((v.get? name).getD .null) := fieldOr_eq hv name .null

theorem required_eq {v field : Value} {name : Text} (hf : v.get? name = some field) :
    v.required name = .ok field := by
  unfold get? at hf
  obtain ⟨entries, he, hl⟩ := Option.bind_eq_some_iff.mp hf
  simp [required, he, hl]

/-- An empty mapping in place of one that does not count as true: that is an empty one, too. -/
theorem entries?_orElse {v : Value} {entries : List (Scalar × Value)}
    (he : v.entries? = some entries) : (v.orElse (.dict [])).entries? = some entries := by
  unfold orElse
  split
  · exact he
  · rename_i ht
    unfold entries? at he
    split at he
    · rename_i ho
      cases he
      have hempty : entries = [] := by simpa [truthy, ho] using ht
      rw [hempty]
      rfl
    · cases he

theorem members_eq {v : Value} {items : List Value} (hi : v.items? = some items) :
    v.members = .ok items := by
  unfold items? at hi
  split at hi
  · rename_i ho
    cases hi
    simp [members, ho]
  · cases hi

theorem members_orElse {v : Value} {items : List Value} (hi : v.items? = some items) :
    (v.orElse (.list [])).members = .ok items := by
  unfold orElse
  split
  · exact members_eq hi
  · rename_i ht
    unfold items? at hi
    split at hi
    · rename_i ho
      cases hi
      have hempty : items = [] := by simpa [truthy, ho] using ht
      rw [hempty]
      rfl
    · cases hi

theorem May.getD_null {v : Value} {name : String} {P : Value → Prop} (h : v.May name P) :
    (v.get? name).getD .null = .null ∨ P ((v.get? name).getD .null) := by
  cases hf : v.get? name with
  | none => exact .inl rfl
  | some field => exact .inr (h field hf)

end Value

/-- A section that may be absent can be read as a mapping, which has the fields of the section. -/
theorem sectionOf_eq {v : Value} (hv : v.IsMapping) (name : String)
    (hs : v.May name Value.IsMapping) :
    ∃ s, sectionOf v name = .ok s ∧ s.IsMapping ∧
      ∀ key : Text, s.get? key = (v.get? name).bind fun field => field.get? key := by
  refine ⟨_, by rw [sectionOf, Value.field_eq hv]; rfl, ?_⟩
  cases hf : v.get? name with
  | none => exact ⟨⟨[], rfl⟩, fun _ => rfl⟩
  | some field =>
    obtain ⟨entries, he⟩ := hs field hf
    have hentries := Value.entries?_orElse he
    refine ⟨⟨entries, hentries⟩, fun key => ?_⟩
    simp only [Option.getD_some, Option.bind_some, Value.get?, he, hentries]

/-- An expiration that is absent or in range passes. -/
theorem checkExpiration_eq (owner : ExpirationOwner) {v : Value}
    (hv : v = .null ∨ v.IsExpiration) : checkExpiration owner v = .ok () := by
  rcases hv with rfl | ⟨n, hn, hlow, hhigh⟩
  · rfl
  · have hnull : v.isNull = false := by cases hn <;> rfl
    have hbelow : v.isBelow 0 = .ok false := by
      simp [Value.isBelow, hn.compareInt?, compare_lt_iff_lt, hlow]
    have habove : v.isAbove maxExpiration = .ok false := by
      have hmax : n ≤ maxExpiration := hhigh
      simp [Value.isAbove, hn.compareInt?, compare_gt_iff_gt, hmax]
    simp only [checkExpiration, hnull, hbelow, habove]
    rfl

theorem ClusterDeclaration.ofDocument_entry {entry : Value} (he : Grammar.ClusterEntry entry) :
    ∃ d, ClusterDeclaration.ofDocument entry = .ok d ∧ d.Reflects entry := by
  obtain ⟨name, hname, s, rfl, hs⟩ := he.name
  have hexpiration := he.expiration.getD_null
  have htruthy : (Value.str s).truthy = true := by
    simpa [Value.truthy, Value.opened] using hs
  refine ⟨⟨.str s, (entry.get? "expiration").getD .null⟩, ?_, hname, rfl⟩
  rw [ClusterDeclaration.ofDocument, Value.required_eq hname, Value.field_eq he.keys.isMapping]
  change ClusterDeclaration.make _ _ = _
  rw [ClusterDeclaration.make, htruthy, checkExpiration_eq _ hexpiration]
  rfl

theorem StackSettings.ofDocument_section {entry : Value} (he : Grammar.StackSection entry) :
    ∃ s, StackSettings.ofDocument entry = .ok s ∧ s.Reflects entry := by
  have hmapping := he.keys.isMapping
  obtain ⟨name, hname, -⟩ := he.name
  refine ⟨⟨(entry.get? "provider").getD (.str "cloudformation"), name,
    (entry.get? "project").getD (.str ""), (entry.get? "exportFile").getD .null⟩, ?_,
    ⟨rfl, hname, rfl, rfl⟩⟩
  rw [StackSettings.ofDocument, Value.fieldOr_eq hmapping, Value.fieldOr_eq hmapping,
    Value.fieldOr_eq hmapping, Value.field_eq hmapping, hname]
  rfl

theorem ClientOptions.ofDocument_mapping {entry : Value} (he : entry.IsMapping) :
    ClientOptions.ofDocument entry =
      .ok ⟨(entry.get? "connectTimeout").getD .null, (entry.get? "timeout").getD .null,
        (entry.get? "maxPoolSize").getD .null⟩ := by
  rw [ClientOptions.ofDocument, Value.field_eq he, Value.field_eq he, Value.field_eq he]
  rfl

/-- The members of the clusters section are its items. -/
theorem members_of_specification {spec : Value}
    (hs : spec.May "clusters" fun list => ∃ items, list.items? = some items) :
    (((spec.get? "clusters").getD .null).orElse (.list [])).members =
      .ok (((spec.get? "clusters").bind Value.items?).getD []) := by
  cases hf : spec.get? "clusters" with
  | none => rfl
  | some field =>
    obtain ⟨items, hitems⟩ := hs field hf
    simp only [Option.getD_some, Option.bind_some, hitems]
    exact Value.members_orElse hitems

theorem clusters_of_specification {spec : Value} (hs : Grammar.Specification spec) :
    ∃ clusters,
      (((spec.get? "clusters").bind Value.items?).getD []).mapM ClusterDeclaration.ofDocument =
        .ok clusters ∧
      List.Forall₂ (fun entry d => ClusterDeclaration.Reflects d entry)
        (((spec.get? "clusters").bind Value.items?).getD []) clusters := by
  cases hf : spec.get? "clusters" with
  | none => exact ⟨[], rfl, .nil⟩
  | some field =>
    obtain ⟨items, hitems, hentries⟩ := hs.clusters field hf
    simp only [Option.bind_some, hitems]
    exact mapM_total fun entry hm => ClusterDeclaration.ofDocument_entry (hentries entry hm)

theorem stack_of_specification {spec : Value} (hs : spec.May "stack" Grammar.StackSection) :
    ∃ stack,
      (if ((spec.get? "stack").getD .null).isNull then pure none
        else some <$> StackSettings.ofDocument ((spec.get? "stack").getD .null)) = .ok stack ∧
      Option.Rel (fun entry s => StackSettings.Reflects s entry) (spec.get? "stack") stack := by
  cases hf : spec.get? "stack" with
  | none => exact ⟨none, rfl, .none⟩
  | some entry =>
    have hsection := hs entry hf
    obtain ⟨entries, he⟩ := hsection.keys.isMapping
    obtain ⟨settings, hread, hreflects⟩ := StackSettings.ofDocument_section hsection
    have hnull : entry.isNull = false := by
      unfold Value.isNull
      split
      · cases he
      · rfl
    refine ⟨some settings, ?_, .some hreflects⟩
    simp only [Option.getD_some, hnull, hread]
    rfl

/-- Where the sections of a document are what they should be, only its cluster entries and the range
of its default expiration can fail. -/
theorem Configuration.ofDocument_eq {document spec : Value} (hd : document.IsMapping)
    (hmetadata : document.May "metadata" Value.IsMapping)
    (hspec : document.get? "spec" = some spec) (hs : spec.IsMapping)
    (hclusters : spec.May "clusters" fun list => ∃ items, list.items? = some items)
    (hstack : spec.May "stack" Grammar.StackSection) (hclient : spec.May "client" Value.IsMapping) :
    ∃ stack, Option.Rel (fun entry s => StackSettings.Reflects s entry) (spec.get? "stack") stack ∧
      Configuration.ofDocument document =
        (((spec.get? "clusters").bind Value.items?).getD []).mapM ClusterDeclaration.ofDocument >>=
          fun clusters => Configuration.checked
            ⟨clusters, (spec.get? "defaultExpiration").getD .null, (spec.get? "region").getD .null,
              stack, ⟨(spec.at? ["client", "connectTimeout"]).getD .null,
                (spec.at? ["client", "timeout"]).getD .null,
                (spec.at? ["client", "maxPoolSize"]).getD .null⟩,
              (document.at? ["metadata", "name"]).getD (.str "")⟩ := by
  -- sections are read with an empty mapping in place of one that is absent
  obtain ⟨metadata, hread, hmapping, hm⟩ := sectionOf_eq hd "metadata" hmetadata
  obtain ⟨body, hbody, hbodyMapping, hb⟩ := sectionOf_eq hd "spec" fun field hf => by
    obtain rfl := Option.some.inj (hspec.symm.trans hf)
    exact hs
  have hfields (key : Text) : body.get? key = spec.get? key := by rw [hb, hspec]; rfl
  obtain ⟨client, hoptions, hclientMapping, hcl⟩ := sectionOf_eq hbodyMapping "client"
    fun field hf => hclient field ((hfields _).symm.trans hf)
  have hfield (key : Text) : body.field key = .ok ((spec.get? key).getD .null) := by
    rw [Value.field_eq hbodyMapping, hfields]
  obtain ⟨stack, hstackRead, hreflects⟩ := stack_of_specification hstack
  refine ⟨stack, hreflects, ?_⟩
  unfold Configuration.ofDocument
  simp only [ite_bind]
  rw [bind_of_ok hread, bind_of_ok hbody, bind_of_ok (hfield _),
    bind_of_ok (members_of_specification hclusters)]
  apply bind_congr
  intro clusters
  rw [bind_of_ok (hfield _), bind_of_ok hstackRead, bind_of_ok hoptions,
    bind_of_ok (ClientOptions.ofDocument_mapping hclientMapping), bind_of_ok (hfield _),
    bind_of_ok (hfield _), bind_of_ok (Value.fieldOr_eq hmapping _ _)]
  simp only [Value.at?, hm, hcl, hfields, Option.bind_fun_some]

/-- A configuration is built of every document that is written by the grammar. -/
theorem Configuration.ofDocument_document {document : Value} (hd : Grammar.Document document) :
    ∃ c, Configuration.ofDocument document = .ok c ∧ c.Reflects document := by
  obtain ⟨spec, hspec, hs⟩ := hd.specification
  obtain ⟨clusters, hclusters, hreflects⟩ := clusters_of_specification hs
  obtain ⟨stack, hstack, hread⟩ := Configuration.ofDocument_eq hd.keys.isMapping
    (fun field hf => (hd.metadata field hf).mapping) hspec hs.keys.isMapping
    (fun list hf => (hs.clusters list hf).imp fun _ hi => hi.1) hs.stack
    (fun client hf => (hs.client client hf).keys.isMapping)
  rw [hread, bind_of_ok hclusters, Configuration.checked,
    checkExpiration_eq .default hs.defaultExpiration.getD_null]
  refine ⟨_, rfl, ?_⟩
  constructor
  all_goals simp [Value.at?, hspec, hreflects, hstack]

/-- Building a configuration of a document without problems never fails, and it has what the
document says. -/
theorem configuration_of_accepted (document : Value) (accepted : checkDocument document = .ok []) :
    ∃ c, Configuration.ofDocument document = .ok c ∧ c.Reflects document :=
  Configuration.ofDocument_document (document_of_checkDocument accepted)

/-- Two clusters, of which the first never expires, next to a stack and a pool. -/
def webDocument (default : Value) : Value :=
  .dict [
    (.str "apiVersion", .str "elasticache-caching/v1"),
    (.str "kind", .str "CacheConfiguration"),
    (.str "metadata", .dict [(.str "name", .str "web")]),
    (.str "spec", .dict [
      (.str "defaultExpiration", default),
      (.str "clusters", .list [
        .dict [(.str "name", .str "a"), (.str "expiration", .int 0)],
        .dict [(.str "name", .str "b")]]),
      (.str "stack", .dict [(.str "name", .str "web-stack")]),
      (.str "client", .dict [(.str "maxPoolSize", .int 16)])])]

def webConfiguration (default : Value) : Configuration where
  clusters := [⟨.str "a", .int 0⟩, ⟨.str "b", .null⟩]
  defaultExpiration := default
  region := .null
  stack := some ⟨.str "cloudformation", .str "web-stack", .str "", .null⟩
  client := ⟨.null, .null, .int 16⟩
  name := .str "web"

theorem webDocument_accepted : checkDocument (webDocument (.int 12)) = .ok [] :=
  checkDocument_of_problems rfl (by decide +kernel)

theorem webConfiguration_of_webDocument :
    Configuration.ofDocument (webDocument (.int 12)) = .ok (webConfiguration (.int 12)) := rfl

theorem webConfiguration_reflects :
    checkDocument (webDocument (.int 12)) = .ok [] ∧
      Configuration.ofDocument (webDocument (.int 12)) = .ok (webConfiguration (.int 12)) ∧
      (webConfiguration (.int 12)).Reflects (webDocument (.int 12)) := by
  obtain ⟨c, hc, hr⟩ := configuration_of_accepted (webDocument (.int 12)) webDocument_accepted
  obtain rfl := Except.ok.inj (webConfiguration_of_webDocument.symm.trans hc)
  exact ⟨webDocument_accepted, hc, hr⟩

theorem Configuration.Reflects.clusterExpirations {c : Configuration} {document : Value}
    (hc : c.Reflects document) :
    c.clusters.map ClusterDeclaration.expiration =
      (((document.at? ["spec", "clusters"]).bind Value.items?).getD []).map fun entry =>
        (entry.get? "expiration").getD .null :=
  (forall₂_agree_iff _ _ _ _).mp (hc.clusters.imp fun _ _ hr => hr.expiration)

/-- The expirations in the configuration of such a document are absent or in range. -/
theorem Configuration.Reflects.expirations {c : Configuration} {document : Value}
    (hc : c.Reflects document) (hd : Grammar.Document document) :
    ∀ v ∈ c.defaultExpiration :: c.clusters.map ClusterDeclaration.expiration,
      v = .null ∨ v.IsExpiration := by
  obtain ⟨spec, hspec, hs⟩ := hd.specification
  have hclusters := hc.clusterExpirations
  simp only [Value.at?, hspec, Option.bind_some, Option.bind_fun_some] at hclusters
  intro v hv
  rcases List.mem_cons.mp hv with rfl | hv
  · have hdefault := hc.defaultExpiration
    simp only [Value.at?, hspec, Option.bind_some, Option.bind_fun_some] at hdefault
    rw [hdefault]
    exact hs.defaultExpiration.getD_null
  · rw [hclusters] at hv
    obtain ⟨entry, hm, rfl⟩ := List.mem_map.mp hv
    cases hf : spec.get? "clusters" with
    | none => simp [hf] at hm
    | some field =>
      obtain ⟨items, hitems, hentries⟩ := hs.clusters field hf
      simp only [hf, Option.bind_some, hitems, Option.getD_some] at hm
      exact (hentries entry hm).expiration.getD_null

theorem Configuration.Reflects.maxPoolSize_whole {c : Configuration} {document : Value}
    (hc : c.Reflects document) (hd : Grammar.Document document) :
    c.client.maxPoolSize = .null ∨ ∃ n, c.client.maxPoolSize.Whole n ∧ 1 ≤ n := by
  obtain ⟨spec, hspec, hs⟩ := hd.specification
  have hsize := hc.maxPoolSize
  simp only [Value.at?, hspec, Option.bind_some] at hsize
  cases hf : spec.get? "client" with
  | none =>
    rw [hf] at hsize
    exact .inl hsize
  | some client =>
    simp only [hf, Option.bind_some, Option.bind_fun_some] at hsize
    rw [hsize]
    exact (hs.client client hf).maxPoolSize.getD_null

end CacheWiring
