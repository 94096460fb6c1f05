import CacheWiring.Proofs.Lookups
import CacheWiring.Proofs.Phases

namespace CacheWiring

variable {σ τ α : Type}

/-- Requests by which a stack is opened, listed, selected or read from its export file. -/
def Request.OfStack : Request → Prop
  | .listByType _ | .openCloud .cloudFormation _ | .openListing | .listStackResources _
  | .selectStack .. | .pathExists _ | .fileBytes _ => True
  | _ => False

def Happening.Stackless : Happening → Prop := Happening.Within fun request => ¬ request.OfStack

/-- Two worlds that answer alike unless they are asked for a stack. What happens to their stacks,
and what they do when asked for one, is their own affair. -/
structure Handler.SameBesideStacks (h : Handler σ) (h' : Handler τ) (same : σ → τ → Prop) :
    Prop where
  reply : ∀ r s s', ¬ r.OfStack → same s s' → (h.answer s r).1 = (h'.answer s' r).1
  state : ∀ r s s', ¬ r.OfStack → same s s' → same (h.answer s r).2 (h'.answer s' r).2

theorem Happening.Lookup.stackless {happening : Happening} (hl : happening.Lookup) :
    happening.Stackless := by
  cases happening with
  | said output => trivial
  | asked request reply =>
    cases request with
    | describe | describeCacheClusters | lookUpCluster => exact not_false
    | _ => exact hl.elim

/-- The factories of these engines ask for no stack. -/
def Engines.Stackless (engines : Engines) : Prop :=
  ∀ text engine, engines.named? text = some engine → ∀ name endpoint expiration options,
    (engine.factory name endpoint expiration options).Only Happening.Stackless

theorem shipped_stackless : Engines.shipped.Stackless := by
  intro text engine hn name endpoint expiration options
  obtain ⟨-, rfl⟩ := (find?_shipped_iff (.str text) engine).mp (congrArg Except.ok hn)
  exact (Program.Only.request fun _ => not_false).bind fun _ =>
    (Program.Only.log trivial).bind fun _ => .pure _

theorem bindCluster_stackless {engines : Engines} (apart : engines.Stackless)
    (options : ClientOptions) (cluster : ResolvedCluster) :
    (Registry.bindCluster engines options cluster).Only Happening.Stackless := by
  unfold Registry.bindCluster
  rcases find?_cases engines cluster.endpoint.engine with ⟨-, hf⟩ | ⟨-, -, hf⟩ | ⟨engine, hr, hf⟩
  · rw [hf]
    trivial
  · rw [hf]
    trivial
  · rw [hf]
    obtain ⟨text, -, hn⟩ := hr
    exact apart text engine hn _ _ _ _

theorem build_stackless {engines : Engines} (apart : engines.Stackless) (options : ClientOptions)
    (clusters : List ResolvedCluster) :
    (Registry.build engines clusters options).Only Happening.Stackless :=
  Registry.build_only (bindCluster_stackless apart options) (fun _ _ => not_false) (fun _ => trivial)
    clusters

namespace Configuration

/-- Two configurations that differ in their stack sections, or in their names. -/
structure SameBesideStack (c c' : Configuration) : Prop where
  clusters : c.clusters = c'.clusters
  defaultExpiration : c.defaultExpiration = c'.defaultExpiration
  region : c.region = c'.region
  client : c.client = c'.client

/-- With declared clusters no stack directory is made, and the resolver does not look at the one it
may have been given. -/
theorem resolveClusters_declared {c : Configuration} (hd : c.clusters ≠ []) (engines : Engines)
    (given : Supplied) :
    c.resolveClusters engines given = c.clusterDirectory given.clusters >>= fun directory =>
      Program.each ((Resolver.mk engines directory none).resolveTarget c.defaultExpiration)
        (c.clusters.map Resolver.declaredTarget) := by
  have hempty : c.clusters.isEmpty = false := by simpa using hd
  have hstack : c.stackDirectory given.stack = pure given.stack := by
    unfold stackDirectory
    split
    · rename_i hnone _
      exact absurd hnone hd
    · rfl
  unfold resolveClusters
  rw [hstack]
  apply congrArg (Program.bind (c.clusterDirectory given.clusters))
  funext directory
  change Resolver.resolve _ c.clusters c.defaultExpiration = _
  simp only [Resolver.resolve, Resolver.targets, hempty]
  rfl

theorem resolveClusters_same {c c' : Configuration} (same : c.SameBesideStack c')
    (hd : c.clusters ≠ []) (engines : Engines) {given given' : Supplied}
    (hgiven : given.clusters = given'.clusters) :
    c.resolveClusters engines given = c'.resolveClusters engines given' := by
  have hd' : c'.clusters ≠ [] := same.clusters ▸ hd
  have hdirectory : c.clusterDirectory given.clusters = c'.clusterDirectory given'.clusters := by
    unfold clusterDirectory
    rw [hgiven, same.region]
  rw [resolveClusters_declared hd, resolveClusters_declared hd', hdirectory, same.clusters,
    same.defaultExpiration]

theorem resolveClusters_stackless {c : Configuration} (hd : c.clusters ≠ []) (engines : Engines)
    (given : Supplied) : (c.resolveClusters engines given).Only Happening.Stackless := by
  rw [resolveClusters_declared hd]
  have hdirectory : (c.clusterDirectory given.clusters).Only Happening.Stackless := by
    unfold clusterDirectory
    cases given.clusters with
    | some directory => exact .pure _
    | none => exact (Program.Only.request fun _ => not_false).bind fun _ => .pure _
  apply hdirectory.bind
  intro directory
  apply Program.Only.each
  intro target
  exact (resolveTarget_lookup _ _ target).mono fun _ hl => hl.stackless

theorem start_stackless {c : Configuration} (hd : c.clusters ≠ []) {engines : Engines}
    (apart : engines.Stackless) (given : Supplied) :
    (c.start engines given).Only Happening.Stackless :=
  (resolveClusters_stackless hd engines given).bind fun resolved =>
    (build_stackless apart c.client resolved).bind fun _ => .pure _

/-- In one world such startups differ in nothing but the configuration that the context is from. -/
theorem run_start_same {c c' : Configuration} (same : c.SameBesideStack c')
    (hd : c.clusters ≠ []) (engines : Engines) {given given' : Supplied}
    (hgiven : given.clusters = given'.clusters) (h : Handler σ) (s : σ) :
    (((c.start engines given).run h s).outcome.map fun context =>
        { context with configuration := c' }) = ((c'.start engines given').run h s).outcome ∧
      ((c.start engines given).run h s).trace = ((c'.start engines given').run h s).trace := by
  rw [run_start, run_start, ← resolveClusters_same same hd engines hgiven, ← same.client]
  generalize (c.resolveClusters engines given).run h s = resolving
  obtain ⟨outcome, s', trace⟩ := resolving
  cases outcome with
  | error fault => exact ⟨rfl, rfl⟩
  | ok resolved =>
    simp only [Run.andThen_ok]
    generalize (Registry.build engines resolved c.client).run h s' = building
    obtain ⟨outcome, s'', more⟩ := building
    cases outcome with
    | error fault => exact ⟨rfl, rfl⟩
    | ok registry => exact ⟨rfl, rfl⟩

end Configuration

theorem requests_of_stackless {p : Program α} (hp : p.Only Happening.Stackless) (h : Handler σ)
    (s : σ) : ∀ r ∈ requests (p.run h s).trace, ¬ r.OfStack := by
  intro r hr
  obtain ⟨reply, hm⟩ := mem_of_mem_requests hr
  exact hp.of_mem h hm

/-- Two startups from the same declared clusters, by configurations that agree on all but the stack
and with any stack directories at hand, come to the same in the same steps: what is resolved, the
registry, the faults and every request with its reply. No stack is asked for anything in them. -/
theorem declared_clusters_hide_stacks (h : Handler σ) (h' : Handler τ) (same : σ → τ → Prop)
    (alike : h.SameBesideStacks h' same) (engines : Engines) (apart : engines.Stackless)
    (c c' : Configuration) (agree : c.SameBesideStack c') (declared : c.clusters ≠ [])
    (given given' : Supplied) (hgiven : given.clusters = given'.clusters) (s : σ) (s' : τ)
    (hs : same s s') :
    let resolving := (c.resolveClusters engines given).run h s
    let resolving' := (c'.resolveClusters engines given').run h' s'
    let starting := (c.start engines given).run h s
    let starting' := (c'.start engines given').run h' s'
    resolving.outcome = resolving'.outcome ∧ resolving.trace = resolving'.trace ∧
      (starting.outcome.map fun context => { context with configuration := c' }) =
        starting'.outcome ∧
      starting.trace = starting'.trace ∧
      (∀ r ∈ requests resolving.trace, ¬ r.OfStack) ∧
      ∀ r ∈ requests starting.trace, ¬ r.OfStack := by
  intro resolving resolving' starting starting'
  have hresolve := Configuration.resolveClusters_stackless declared engines given
  have hstart := Configuration.start_stackless declared apart given
  obtain ⟨hresolved, hresolving⟩ := run_alike alike.reply alike.state hresolve hs
  obtain ⟨hcontext, hstarting⟩ := run_alike alike.reply alike.state hstart hs
  have hsame : (c.resolveClusters engines given).run h' s' = resolving' := by
    rw [Configuration.resolveClusters_same agree declared engines hgiven]
  obtain ⟨hcontext', hstarting'⟩ :=
    Configuration.run_start_same agree declared engines hgiven h' s'
  have hall : (starting.outcome.map fun context => { context with configuration := c' }) =
      starting'.outcome := by
    rw [← hcontext']
    exact congrArg (Except.map _) hcontext
  exact ⟨hresolved.trans (congrArg Run.outcome hsame),
    hresolving.trans (congrArg Run.trace hsame), hall, hstarting.trans hstarting',
    requests_of_stackless hresolve h s, requests_of_stackless hstart h s⟩

/-- The hosts of `hostPerCluster`, beside a stack that can be listed; requests are counted. -/
def hostsBesideStack : Handler Nat where
  answer asked
    | .listByType _ => (.ok [], asked + 1)
    | request => ((hostPerCluster.answer () request).1, asked + 1)

def misplacedStack : Configuration :=
  { twoCaches with stack := some ⟨.str "heroku", .str "prod", .null, .null⟩ }

/-- Neither the unknown provider nor the stack that is at hand makes a difference. -/
theorem unknown_provider_is_ignored :
    let run := (twoCaches.start .shipped ⟨some .supplied, none⟩).run hostPerCluster ()
    let run' := (misplacedStack.start .shipped ⟨some .supplied, some (.supplied "t")⟩).run
      hostsBesideStack 0
    (run'.outcome.map fun context => context.registry.names) = .ok [.str ['a'], .str ['b']] ∧
      run.trace = run'.trace ∧ ∀ r ∈ requests run'.trace, ¬ r.OfStack := by
  intro run run'
  have alike : hostPerCluster.SameBesideStacks hostsBesideStack fun _ _ => True := by
    constructor
    · intro r _ _ hr _
      cases r with
      | listByType type => exact absurd trivial hr
      | _ => rfl
    · intros
      trivial
  obtain ⟨-, -, -, htrace, -, hnone⟩ := declared_clusters_hide_stacks hostPerCluster
    hostsBesideStack (fun _ _ => True) alike .shipped shipped_stackless twoCaches misplacedStack
    ⟨rfl, rfl, rfl, rfl⟩ (List.cons_ne_nil _ _) ⟨some .supplied, none⟩
    ⟨some .supplied, some (.supplied "t")⟩ rfl () 0 trivial
  exact ⟨rfl, htrace, htrace ▸ hnone⟩

end CacheWiring
