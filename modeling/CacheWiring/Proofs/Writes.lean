import CacheWiring.Cache.Operations
import CacheWiring.Proofs.Construction
import CacheWiring.Proofs.Startup

namespace CacheWiring

variable {σ : Type} (h : Handler σ)

inductive Operation where
  | get (key fallback : Value)
  | put (key value : Value)
  | putIfAbsent (key value : Value)
  | evict (key : Value)
  | clear

def Operation.on (cache : Cache) : Operation → Program Value
  | .get key fallback => cache.get key fallback
  | .put key value => do
    cache.put key value
    return .null
  | .putIfAbsent key value => cache.putIfAbsent key value
  | .evict key => do
    cache.evict key
    return .null
  | .clear => do
    cache.clear
    return .null

structure Use where
  cache : Cache
  operation : Operation

/-- One use after another. A fault of one does not keep the others from being tried. -/
def perform (uses : List Use) : Program (List (Except Fault Value)) :=
  Program.each (fun use => (use.operation.on use.cache).attempt) uses

/-- What a client is asked to store, be it in place of another value or not. -/
structure Write where
  client : Nat
  key : Text
  value : Value
  expire : Value

def Happening.write? : Happening → Option Write
  | .asked (.call client (.set key value expire)) _ => some ⟨client, key, value, expire⟩
  | .asked (.call client (.add key value expire)) _ => some ⟨client, key, value, expire⟩
  | _ => none

def writes (trace : List Happening) : List Write := trace.filterMap Happening.write?

/-- What there is under the text of a key; nothing when it has none. -/
def Cache.underText {α : Type} (key : Value) (items : Text → List α) : List α :=
  match keyText key with
  | .ok k => items k
  | .error _ => []

/-- The writes of one use: one of its value under the text of its key, with the expiration of the
cache. -/
def Use.writes (use : Use) : List Write :=
  match use.operation with
  | .put key value | .putIfAbsent key value =>
    Cache.underText key fun k => [⟨use.cache.client, k, value, use.cache.expiration⟩]
  | _ => []

def Use.calls (use : Use) : List Call :=
  match use.operation with
  | .get key fallback => Cache.underText key fun k => [.get k fallback]
  | .put key value => Cache.underText key fun k => [.set k value use.cache.expiration]
  | .putIfAbsent key value => Cache.underText key fun k =>
    [.add k value use.cache.expiration, .get k .null]
  | .evict key => Cache.underText key fun k => [.delete k]
  | .clear => [.flushAll]

theorem Cache.mem_underText {α : Type} {key : Value} {items : Text → List α} {a : α} :
    a ∈ underText key items ↔ ∃ k, keyText key = .ok k ∧ a ∈ items k := by
  unfold underText
  cases keyText key <;> simp

@[simp] theorem writes_append (before after : List Happening) :
    writes (before ++ after) = writes before ++ writes after := List.filterMap_append

/-- The operation with the text of its key in place of the key. -/
def Operation.texted : Operation → Except Fault Operation
  | .get key fallback => (Cache.keyText key).map fun k => .get (.str k) fallback
  | .put key value => (Cache.keyText key).map fun k => .put (.str k) value
  | .putIfAbsent key value => (Cache.keyText key).map fun k => .putIfAbsent (.str k) value
  | .evict key => (Cache.keyText key).map fun k => .evict (.str k)
  | .clear => .ok .clear

/-- Nothing is done but with the text of the key. -/
theorem Operation.on_texted (operation : Operation) (cache : Cache) :
    operation.on cache = Program.ofExcept operation.texted >>= Operation.on cache := by
  cases operation with
  | clear => rfl
  | get key fallback =>
    simp only [on, texted, Cache.get]
    cases Cache.keyText key <;> rfl
  | put key value =>
    simp only [on, texted, Cache.put]
    cases Cache.keyText key <;> rfl
  | putIfAbsent key value =>
    simp only [on, texted, Cache.putIfAbsent]
    cases Cache.keyText key <;> rfl
  | evict key =>
    simp only [on, texted, Cache.evict]
    cases Cache.keyText key <;> rfl

/-- Nothing happens in a use but its calls on the client. -/
theorem Use.only {allowed : Happening → Prop} {use : Use}
    (ha : ∀ c ∈ use.calls, ∀ reply, allowed (.asked (.call use.cache.client c) reply)) :
    (use.operation.on use.cache).Only allowed := by
  have hcall (c : Call) (hc : c ∈ use.calls) :
      (Program.call use.cache.client c).Only allowed := .request (ha c hc)
  have hunder {α : Type} {key : Value} {f : Text → Program α} (hf : ∀ k, Cache.keyText key = .ok k →
      (f k).Only allowed) : (Program.ofExcept (Cache.keyText key) >>= f).Only allowed := by
    cases hk : Cache.keyText key with
    | error fault => trivial
    | ok k => exact hf k hk
  obtain ⟨cache, operation⟩ := use
  cases operation with
  | clear => exact (hcall _ List.mem_cons_self).bind fun _ => .pure _
  | get key fallback =>
    exact hunder fun k hk => hcall (.get k fallback) (Cache.mem_underText.mpr ⟨k, hk, by simp⟩)
  | put key value =>
    have hput : (cache.put key value).Only allowed := hunder fun k hk =>
      hcall (.set k value cache.expiration) (Cache.mem_underText.mpr ⟨k, hk, by simp⟩)
    exact hput.bind fun _ => .pure _
  | evict key =>
    have hevict : (cache.evict key).Only allowed := hunder fun k hk =>
      hcall (.delete k) (Cache.mem_underText.mpr ⟨k, hk, by simp⟩)
    exact hevict.bind fun _ => .pure _
  | putIfAbsent key value =>
    refine hunder fun k hk => ?_
    have hadding := hcall (.add k value cache.expiration) (Cache.mem_underText.mpr ⟨k, hk, by simp⟩)
    have hreading := hcall (.get k .null) (Cache.mem_underText.mpr ⟨k, hk, by simp⟩)
    exact hadding.bind fun _ => .ite (.pure _) hreading

/-- The writes of an operation are those that it makes under the text of its key. -/
theorem writes_of_texted {operation : Operation} {key : Value} {make : Text → Operation}
    (ht : operation.texted = (Cache.keyText key).map make) {cache : Cache} {s : σ}
    {items : Text → List Write}
    (hm : ∀ k, writes (((make k).on cache).run h s).trace = items k) :
    writes ((operation.on cache).run h s).trace = Cache.underText key items := by
  rw [Operation.on_texted, Program.run_bind, Program.run_ofExcept, ht, Cache.underText]
  cases Cache.keyText key with
  | error fault => rfl
  | ok k => exact hm k

theorem Cache.underText_nil {α : Type} (key : Value) :
    underText key (fun _ => ([] : List α)) = [] := by
  unfold underText
  split <;> rfl

theorem writes_run_operation (use : Use) (s : σ) :
    writes ((use.operation.on use.cache).run h s).trace = use.writes := by
  obtain ⟨cache, operation⟩ := use
  cases operation with
  | clear =>
    simp only [Operation.on, Program.run_bind, Program.run_pure, Run.andThen_trace]
    rfl
  | get key fallback =>
    exact (writes_of_texted h rfl fun k => rfl).trans (Cache.underText_nil key)
  | evict key =>
    refine (writes_of_texted h rfl fun k => ?_).trans (Cache.underText_nil key)
    simp only [Operation.on, Program.run_bind, Program.run_pure, Run.andThen_trace]
    rfl
  | put key value =>
    refine writes_of_texted h rfl fun k => ?_
    simp only [Operation.on, Program.run_bind, Program.run_pure, Run.andThen_trace]
    rfl
  | putIfAbsent key value =>
    refine writes_of_texted h rfl fun k => ?_
    let adding : Program Bool := Program.call cache.client (.add k value cache.expiration)
    -- a value that was not stored is followed by a read, which is no write
    have hrun : (cache.putIfAbsent (.str k) value).run h s =
        (adding.run h s).andThen fun stored s =>
          (if stored then pure .null else cache.get (.str k) .null : Program Value).run h s :=
      Program.run_bind h adding _ s
    have hadding : writes (adding.run h s).trace =
        [⟨cache.client, k, value, cache.expiration⟩] := rfl
    rw [Operation.on, hrun]
    generalize adding.run h s = added at hadding ⊢
    obtain ⟨outcome, s', trace⟩ := added
    cases outcome with
    | error fault => exact hadding
    | ok stored =>
      rw [Run.andThen_ok, writes_append, hadding]
      cases stored <;> rfl

/-- The writes of a run are those of its uses in their order, whatever the replies. -/
theorem writes_run_perform (uses : List Use) (s : σ) :
    writes ((perform uses).run h s).trace = uses.flatMap Use.writes := by
  induction uses generalizing s with
  | nil => rfl
  | cons use rest ih =>
    simp only [perform] at ih ⊢
    simp only [Program.run_each_cons, Program.run_attempt, Run.andThen_ok, Run.andThen_trace,
      writes_append, writes_run_operation, ih, List.flatMap_cons]

/-- Under each declared name a cache with the declared expiration, else the default one, else none;
when nothing is declared, caches with the default expiration or none. -/
structure Configuration.Expires (c : Configuration) (caches : List Cache) : Prop where
  declared : c.clusters ≠ [] →
    caches.map (fun cache => (cache.name, cache.expiration)) =
      c.clusters.map fun d => (d.name, givenExpiration d.expiration c.defaultExpiration)
  listed : c.clusters = [] →
    ∀ cache ∈ caches, cache.expiration = givenExpiration .null c.defaultExpiration

theorem resolveTarget_expiration {resolver : Resolver} {default : Value} {target : Target} {s : σ}
    {cluster : ResolvedCluster}
    (hr : ((resolver.resolveTarget default target).run h s).outcome = .ok cluster) :
    (cluster.logicalName, cluster.expiration) =
      (target.logicalName, givenExpiration target.expiration default) := by
  simp only [Resolver.resolveTarget, resolveExpiration_eq, Program.run_bind,
    Run.andThen_outcome_ok, Program.run_pure] at hr
  obtain ⟨endpoint, -, seconds, -, -, -, hr⟩ := hr
  cases hr
  rfl

/-- Whatever the directories, the caches of a context that startup returned have the expirations
that the configuration gives them. -/
theorem start_expires {c : Configuration} {given : Supplied} {s : σ} {context : CachingContext}
    (hc : ((c.start .shipped given).run h s).outcome = .ok context) :
    c.Expires context.registry.caches := by
  rw [run_start] at hc
  obtain ⟨resolved, hr, hc⟩ := Run.andThen_outcome_ok.mp hc
  obtain ⟨registry, hb, hc⟩ := Run.andThen_outcome_ok.mp hc
  cases hc
  simp only [Configuration.resolveClusters, Resolver.resolve, Program.run_bind,
    Run.andThen_outcome_ok] at hr
  obtain ⟨directory, -, stack, -, targets, ht, hr⟩ := hr
  have hcaches := ((Registry.build_ok_iff h _ _ _ _ registry).mp hb).2.1
  have hbound := (forall₂_agree_iff _ _ _ _).mp (Program.forall₂_of_each h
    (fun _ _ _ hb => bindCluster_expiration h hb) hcaches)
  have hresolved := (forall₂_agree_iff _ _ _ _).mp (Program.forall₂_of_each h
    (fun _ _ _ hr => resolveTarget_expiration h hr) hr)
  -- both passes keep the order of the targets, so caches and targets agree place by place
  have hall := hbound.trans hresolved
  rcases (targets_ok_iff h _ _ _ _).mp ht with ⟨hd, rfl⟩ | ⟨hd, _, resources, _, -, -, -, rfl⟩
  · refine ⟨fun _ => ?_, fun hn => absurd hn hd⟩
    simpa [Function.comp_def] using hall
  · refine ⟨fun hn => absurd hd hn, fun _ cache hm => ?_⟩
    have hpair : (cache.name, cache.expiration) ∈
        registry.caches.map fun cache => (cache.name, cache.expiration) :=
      List.mem_map.mpr ⟨cache, hm, rfl⟩
    rw [hall, List.map_map] at hpair
    obtain ⟨r, -, hr⟩ := List.mem_map.mp hpair
    exact (congrArg Prod.snd hr).symm

/-- Where explicit and default expiration have a property, or are absent, and zero has it, too, the
given one has it. -/
theorem givenExpiration_of {P : Value → Prop} (zero : P (.int 0)) {explicit default : Value}
    (he : explicit = .null ∨ P explicit) (hd : default = .null ∨ P default) :
    P (givenExpiration explicit default) := by
  unfold givenExpiration
  split
  · exact zero
  · rename_i hn
    exact hd.resolve_left hn
  · rename_i hn _
    exact he.resolve_left hn

/-- A property of the expirations in the configuration carries over to those of the caches. -/
theorem Configuration.Expires.each {c : Configuration} {caches : List Cache}
    (hc : c.Expires caches) {P : Value → Prop} (zero : P (.int 0))
    (hp : ∀ v ∈ c.defaultExpiration :: c.clusters.map ClusterDeclaration.expiration,
      v = .null ∨ P v) : ∀ cache ∈ caches, P cache.expiration := by
  intro cache hm
  have hdefault := hp c.defaultExpiration List.mem_cons_self
  by_cases hn : c.clusters = []
  · rw [hc.listed hn cache hm]
    exact givenExpiration_of zero (.inl rfl) hdefault
  · have hpair : (cache.name, cache.expiration) ∈
        caches.map fun cache => (cache.name, cache.expiration) :=
      List.mem_map.mpr ⟨cache, hm, rfl⟩
    rw [hc.declared hn] at hpair
    obtain ⟨d, hd, he⟩ := List.mem_map.mp hpair
    rw [← (Prod.mk.inj he).2]
    exact givenExpiration_of zero
      (hp _ (List.mem_cons_of_mem _ (List.mem_map_of_mem hd))) hdefault

theorem expire_of_mem_writes {use : Use} {write : Write} (hw : write ∈ use.writes) :
    write.client = use.cache.client ∧ write.expire = use.cache.expiration := by
  unfold Use.writes at hw
  split at hw
  · obtain ⟨k, -, hm⟩ := Cache.mem_underText.mp hw
    obtain rfl := List.mem_singleton.mp hm
    exact ⟨rfl, rfl⟩
  · obtain ⟨k, -, hm⟩ := Cache.mem_underText.mp hw
    obtain rfl := List.mem_singleton.mp hm
    exact ⟨rfl, rfl⟩
  · cases hw

/-- Startup on an accepted document gives each cache its explicit expiration, else the default one,
else none, and whatever the caches are used for, each write carries just that: thirty days at most. -/
theorem writes_of_accepted (document : Value) (accepted : checkDocument document = .ok [])
    (given : Supplied) (s s' : σ) (uses : List Use) :
    ∃ c, Configuration.ofDocument document = .ok c ∧
      ∀ context, ((c.start .shipped given).run h s).outcome = .ok context →
        (∀ use ∈ uses, use.cache ∈ context.registry.caches) →
          c.Expires context.registry.caches ∧
          writes ((perform uses).run h s').trace = uses.flatMap Use.writes ∧
          ∀ write ∈ writes ((perform uses).run h s').trace,
            ∃ cache ∈ context.registry.caches, write.client = cache.client ∧
              write.expire = cache.expiration ∧
              ∃ n, write.expire.Whole n ∧ 0 ≤ n ∧ n ≤ 2592000 := by
  have hd := document_of_checkDocument accepted
  obtain ⟨c, hc, hreflects⟩ := Configuration.ofDocument_document hd
  refine ⟨c, hc, fun context hstart hcaches => ?_⟩
  have hexpires := start_expires h hstart
  have hbounded : ∀ cache ∈ context.registry.caches, cache.expiration.IsExpiration :=
    hexpires.each ⟨0, .int 0, by decide, by decide⟩ (hreflects.expirations hd)
  have hwrites := writes_run_perform h uses s'
  refine ⟨hexpires, hwrites, fun write hw => ?_⟩
  rw [hwrites] at hw
  obtain ⟨use, hu, hw⟩ := List.mem_flatMap.mp hw
  obtain ⟨hclient, hexpire⟩ := expire_of_mem_writes hw
  refine ⟨use.cache, hcaches use hu, hclient, hexpire, ?_⟩
  rw [hexpire]
  exact hbounded use.cache (hcaches use hu)

/-- A put and a put if absent, each on a cache of such a context. -/
theorem web_writes :
    let uses : List Use :=
      [⟨⟨.str "a", 7, .int 0⟩, .put (.str "key") (.str "value")⟩,
        ⟨⟨.str "b", 7, .int 12⟩, .putIfAbsent (.str "key") (.str "value")⟩]
    checkDocument (webDocument (.int 12)) = .ok [] ∧ ∃ context,
      (((webConfiguration (.int 12)).start .shipped ⟨some .supplied, none⟩).run
        hostPerCluster ()).outcome = .ok context ∧
      (∀ use ∈ uses, use.cache ∈ context.registry.caches) ∧
      writes ((perform uses).run hostPerCluster ()).trace =
        [⟨7, "key", .str "value", .int 0⟩, ⟨7, "key", .str "value", .int 12⟩] := by
  intro uses
  obtain ⟨c, hc, hstarted⟩ := writes_of_accepted hostPerCluster (webDocument (.int 12))
    webDocument_accepted ⟨some .supplied, none⟩ () () uses
  obtain rfl := Except.ok.inj (webConfiguration_of_webDocument.symm.trans hc)
  let caches : List Cache := [⟨.str "a", 7, .int 0⟩, ⟨.str "b", 7, .int 12⟩]
  have hcaches : ∀ use ∈ uses, use.cache ∈ caches := by simp [uses, caches]
  obtain ⟨-, hwrites, -⟩ := hstarted _ rfl hcaches
  exact ⟨webDocument_accepted, _, rfl, hcaches, hwrites⟩

end CacheWiring
