import CacheWiring.Proofs.Lookups
import CacheWiring.Proofs.StackContents

namespace CacheWiring

variable {σ τ α β : Type}

/-- A resolution that knows of the stack only the ids of its clusters. -/
def Resolver.resolveIds (resolver : Resolver) (default : Value) (clusters : List StackCluster) :
    Program (List ResolvedCluster) := do
  Program.each (resolver.resolveTarget default)
    (← Program.ofExcept (clusters.mapM StackCluster.target))

/-- Two runs that come to the same with the same requests, and end in states that are alike. -/
structure Run.Alike (same : σ → τ → Prop) (r : Run σ α) (r' : Run τ α) : Prop where
  outcome : r.outcome = r'.outcome
  requests : requests r.trace = CacheWiring.requests r'.trace
  state : same r.state r'.state

theorem Run.Alike.andThen {same : σ → τ → Prop} {r : Run σ α} {r' : Run τ α}
    {next : α → σ → Run σ β} {next' : α → τ → Run τ β} (hr : r.Alike same r')
    (hnext : ∀ a s s', same s s' → (next a s).Alike same (next' a s')) :
    (r.andThen next).Alike same (r'.andThen next') := by
  obtain ⟨outcome, s, trace⟩ := r
  obtain ⟨outcome', s', trace'⟩ := r'
  obtain ⟨houtcome, hrequests, hstate⟩ := hr
  cases houtcome
  cases outcome with
  | error fault => exact ⟨rfl, hrequests, hstate⟩
  | ok a =>
    obtain ⟨ho, hq, hs⟩ := hnext a s s' hstate
    refine ⟨ho, ?_, hs⟩
    simp only [Run.andThen_ok, requests_append]
    rw [hq]
    exact congrArg (· ++ _) hrequests

theorem Program.each_alike {h : Handler σ} {h' : Handler τ} {same : σ → τ → Prop}
    {f : α → Program β}
    (hf : ∀ a s s', same s s' → ((f a).run h s).Alike same ((f a).run h' s')) (items : List α)
    {s : σ} {s' : τ} (hs : same s s') :
    ((Program.each f items).run h s).Alike same ((Program.each f items).run h' s') := by
  induction items generalizing s s' with
  | nil => exact ⟨rfl, rfl, hs⟩
  | cons a rest ih =>
    simp only [Program.run_each_cons]
    exact (hf a s s' hs).andThen fun b s s' hs => (ih hs).andThen fun others s s' hs =>
      ⟨rfl, rfl, hs⟩

/-- In two worlds a directory answers alike. -/
structure ClusterDirectory.AnswersAlike (directory : ClusterDirectory) (h : Handler σ)
    (h' : Handler τ) (same : σ → τ → Prop) : Prop where
  outcome : ∀ id s s', same s s' →
    ((directory.describe id true).run h s).outcome = ((directory.describe id true).run h' s').outcome
  state : ∀ id s s', same s s' →
    same ((directory.describe id true).run h s).state ((directory.describe id true).run h' s').state

variable {h : Handler σ} {h' : Handler τ} {same : σ → τ → Prop} {default : Value}
  {clusters : List StackCluster} {s : σ} {s' : τ}

/-- A target is looked up by one request, and the reply decides what it comes to. -/
theorem resolveTarget_alike {resolver : Resolver}
    (alike : resolver.directory.AnswersAlike h h' same) (target : Target) (s : σ) (s' : τ)
    (hs : same s s') :
    ((resolver.resolveTarget default target).run h s).Alike same
      ((resolver.resolveTarget default target).run h' s') := by
  have hasked : ((resolver.directory.describe target.clusterId true).run h s).Alike same
      ((resolver.directory.describe target.clusterId true).run h' s') :=
    ⟨alike.outcome _ s s' hs, by simp only [requests_describe], alike.state _ s s' hs⟩
  have hcluster : ((resolver.resolveCluster target.clusterId).run h s).Alike same
      ((resolver.resolveCluster target.clusterId).run h' s') := by
    rw [run_resolveCluster, run_resolveCluster]
    exact ⟨by rw [hasked.outcome], hasked.requests, hasked.state⟩
  simp only [Resolver.resolveTarget, Program.run_bind]
  refine hcluster.andThen fun endpoint s s' hs => ?_
  refine Run.Alike.andThen ⟨rfl, rfl, hs⟩ fun seconds s s' hs => ?_
  exact ⟨rfl, rfl, hs⟩

theorem resolveIds_alike (resolver : Resolver)
    (alike : resolver.directory.AnswersAlike h h' same) (hs : same s s') :
    ((resolver.resolveIds default clusters).run h s).Alike same
      ((resolver.resolveIds default clusters).run h' s') := by
  simp only [Resolver.resolveIds, Program.run_bind]
  exact Run.Alike.andThen ⟨rfl, rfl, hs⟩ fun targets _ _ hs =>
    Program.each_alike (resolveTarget_alike alike) targets hs

/-- Once the resources are at hand, all that counts of them are the ids. -/
theorem run_resolve_stack (engines : Engines) (directory : ClusterDirectory) (default : Value)
    {stack kept : StackDirectory} {resources : List StackResource} {s' : σ}
    {trace : List Happening}
    (hl : (stack.resourcesByType stack.clusterType).run h s = ⟨.ok (resources, kept), s', trace⟩)
    (hall : List.Forall₂ StackResource.Records resources clusters) :
    let run := ((Resolver.mk engines directory (some stack)).resolve [] default).run h s
    let direct := ((Resolver.mk engines directory none).resolveIds default clusters).run h s'
    run.outcome = direct.outcome ∧
      requests run.trace = requests trace ++ requests direct.trace := by
  simp only [Resolver.resolve, Resolver.resolveIds, Resolver.targets, List.isEmpty_nil,
    Bool.not_true, Bool.false_eq_true, ↓reduceIte, Program.run_bind, hl, Run.andThen_ok,
    Program.run_log, Program.run_ofExcept, stackTargets_of_records hall]
  cases clusters.mapM StackCluster.target with
  | error fault => simp
  | ok targets => exact ⟨rfl, by simp; rfl⟩

/-- A listing is asked for once, and read to its end. -/
theorem run_listing {stack : Value} {pages : Pages} {resources : List StackResource} {s₁ s₂ : σ}
    (hopen : h.answer s .openListing = (.ok (), s₁))
    (hlist : h.answer s₁ (.listStackResources stack) = (.ok pages, s₂))
    (hread : StackDirectory.pagesResources pages = .ok resources) (type : Text) :
    ∃ trace, ((StackDirectory.cloudFormation stack none).resourcesByType type).run h s =
        ⟨.ok (StackDirectory.ofType type resources, .cloudFormation stack (some resources)), s₂,
          trace⟩ ∧
      requests trace = [.openListing, .listStackResources stack] := by
  simp only [StackDirectory.resourcesByType, StackDirectory.loadListing, bind, Program.bind,
    Program.request, Program.run, hopen, hlist, hread, Program.ofExcept, Program.log, Program.tell]
  exact ⟨_, rfl, rfl⟩

/-- A resolution by a stack comes to what the ids of its cache clusters come to in their order, with
the same queries one after another, be the clusters found in the pages of a listing or in a
deployment. The listing takes two requests of its own. -/
theorem stack_backends_agree (h : Handler σ) (h' : Handler τ) (same : σ → τ → Prop)
    (engines : Engines) (directory : ClusterDirectory)
    (alike : directory.AnswersAlike h h' same) (default : Value) {clusters : List StackCluster}
    (plain : ∀ c ∈ clusters, (':' : CodePoint) ∉ c.logicalId) (stack : Value) {pages : Pages}
    (hp : Listing.Lists pages clusters) {s s₁ s₂ : σ}
    (hopen : h.answer s .openListing = (.ok (), s₁))
    (hlist : h.answer s₁ (.listStackResources stack) = (.ok pages, s₂)) {deployment : Value}
    (hd : Export.Lists deployment clusters) {s' : τ} (hs : same s₂ s') :
    ∃ exported, StackDirectory.ofDeployment deployment = .ok exported ∧
      let resolver := Resolver.mk engines directory
      let listed := ((resolver (some (.cloudFormation stack none))).resolve [] default).run h s
      let recorded := ((resolver (some exported)).resolve [] default).run h' s'
      let direct := ((resolver none).resolveIds default clusters).run h s₂
      listed.outcome = direct.outcome ∧ recorded.outcome = direct.outcome ∧
        requests listed.trace =
          [.openListing, .listStackResources stack] ++ requests direct.trace ∧
        requests recorded.trace = requests direct.trace := by
  obtain ⟨resources, hread, hlisted⟩ := Listing.pagesResources_records hp
  obtain ⟨others, hdeployed, hexported⟩ := Export.ofDeployment_records hd plain
  refine ⟨.pulumi others, hdeployed, ?_⟩
  intro resolver listed recorded direct
  obtain ⟨trace, hrun, htrace⟩ := run_listing hopen hlist hread Listing.clusterType
  obtain ⟨houtcome, hasked⟩ := run_resolve_stack engines directory default hrun hlisted
  have hrun' : ((StackDirectory.pulumi others).resourcesByType Export.clusterType).run h' s' =
      ⟨.ok (StackDirectory.ofType Export.clusterType others, .pulumi others), s', []⟩ := rfl
  obtain ⟨houtcome', hasked'⟩ := run_resolve_stack engines directory default hrun' hexported
  have hsame : direct.Alike same (((resolver none).resolveIds default clusters).run h' s') :=
    resolveIds_alike (resolver none) alike hs
  rw [htrace] at hasked
  exact ⟨houtcome, houtcome'.trans hsame.outcome.symm, hasked,
    hasked'.trans hsame.requests.symm⟩

def entryOf (fields : List (String × Text)) : Value :=
  .dict (fields.map fun (name, text) => (.str name, .str text))

/-- A listing of two clusters with an empty page, and a topic between them. -/
def splitListing : Pages :=
  .page (.dict [(.str "StackResourceSummaries", .list [
      entryOf [("LogicalResourceId", "a"), ("PhysicalResourceId", "c-1"),
        ("ResourceType", Listing.clusterType)]])])
    (.page (.dict [])
      (.page (.dict [(.str "StackResourceSummaries", .list [
          entryOf [("LogicalResourceId", "t"), ("ResourceType", "AWS::SNS::Topic")],
          entryOf [("LogicalResourceId", "b"),
            ("ResourceType", Listing.clusterType)]])])
        .last))

/-- The same clusters in a whole export, together with the stack itself. -/
def wholeExport : Value :=
  .dict [(.str "version", .int 3), (.str "deployment", .dict [(.str "resources", .list [
    entryOf [("urn", Export.urn "dev" "web" "pulumi:pulumi:Stack" "web-dev"),
      ("type", "pulumi:pulumi:Stack")],
    entryOf [("urn", Export.urn "dev" "web" Export.clusterType "a"), ("id", "c-1"),
      ("type", Export.clusterType)],
    entryOf [("urn", Export.urn "dev" "web" Export.clusterType "b"), ("id", ""),
      ("type", Export.clusterType)]])])]

/-- A cloud in which a stack is listed but no cluster is known. -/
def listingCloud : Handler Unit where
  answer s
    | .openListing => (.ok (), s)
    | .listStackResources _ => (.ok splitListing, s)
    | _ => (.error .noFields, s)

/-- The second cluster has no physical id, which both of them tell before anything is looked up. -/
theorem split_listing_equals_export :
    ∃ exported, StackDirectory.ofDeployment wholeExport = .ok exported ∧
      let resolver := Resolver.mk .shipped .elastiCache
      let listed := ((resolver (some (.cloudFormation (.str "web") none))).resolve [] .null).run
        listingCloud ()
      let recorded := ((resolver (some exported)).resolve [] .null).run listingCloud ()
      listed.outcome = .error (.resolution (.noPhysicalId (.str "b"))) ∧
        recorded.outcome = listed.outcome ∧ requests recorded.trace = [] := by
  have alike : ClusterDirectory.elastiCache.AnswersAlike listingCloud listingCloud Eq :=
    ⟨fun _ _ _ hs => hs ▸ rfl, fun _ _ _ hs => hs ▸ rfl⟩
  have hlisting : Listing.Lists splitListing [⟨"a", "c-1"⟩, ⟨"b", ""⟩] := by
    refine ⟨_, .page ⟨_, rfl⟩ rfl (.page ⟨_, rfl⟩ rfl (.page ⟨_, rfl⟩ rfl .last)), ?_⟩
    have htopic : Listing.Other
        (entryOf [("LogicalResourceId", "t"), ("ResourceType", "AWS::SNS::Topic")]) :=
      ⟨⟨_, rfl⟩, _, rfl, (Shape.isStr_eq_false_iff _ _).mp (by decide)⟩
    exact .cluster ⟨rfl, rfl, rfl⟩ (.other htopic (.cluster ⟨rfl, rfl, rfl⟩ .nil))
  have hexport : Export.Lists wholeExport [⟨"a", "c-1"⟩, ⟨"b", ""⟩] := by
    refine ⟨_, ⟨⟨_, rfl⟩, ⟨_, rfl⟩, rfl⟩, ?_⟩
    have htype : Value.str "pulumi:pulumi:Stack" ≠ .str Export.clusterType :=
      (Shape.isStr_eq_false_iff _ _).mp (by decide)
    exact .other ⟨⟨_, rfl⟩, .inr ⟨⟨_, rfl⟩, fun he => htype (Option.some.inj he)⟩⟩
      (.cluster ⟨⟨"dev", "web", Export.clusterType, rfl⟩, rfl, rfl⟩
        (.cluster ⟨⟨"dev", "web", Export.clusterType, rfl⟩, rfl, rfl⟩ .nil))
  obtain ⟨exported, hread, hlisted, hexported, -, hasked⟩ :=
    stack_backends_agree listingCloud listingCloud Eq .shipped .elastiCache alike .null
      (by decide) (.str "web") hlisting rfl rfl hexport rfl
  exact ⟨exported, hread, hlisted.trans rfl, hexported.trans hlisted.symm, hasked.trans rfl⟩

end CacheWiring
