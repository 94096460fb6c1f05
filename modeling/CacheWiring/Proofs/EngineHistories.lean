import CacheWiring.Proofs.Lookups
import Mathlib.Data.List.Induction
import Mathlib.Data.List.Nodup

namespace CacheWiring

inductive EngineChange where
  | registered (name : Text) (engine : Engine)
  | removed (name : Text)

def EngineChange.name : EngineChange → Text
  | .registered name _ => name
  | .removed name => name

namespace Engines

def empty : Engines := ⟨[]⟩

def changed (engines : Engines) : EngineChange → Engines
  | .registered name engine => engines.register name engine
  | .removed name => engines.unregister name

def after (engines : Engines) (history : List EngineChange) : Engines :=
  history.foldl changed engines

/-- The last change in a history under the name that it is about. -/
def LastChange (history : List EngineChange) (change : EngineChange) : Prop :=
  ∃ before later, history = before ++ change :: later ∧ ∀ other ∈ later, other.name ≠ change.name

def names (engines : Engines) : List Text := engines.entries.map (·.1)

theorem shipped_after (history : List EngineChange) :
    shipped.after history = empty.after (.registered "memcached" Engine.memcached :: history) := rfl

variable (engines : Engines)

theorem after_concat (history : List EngineChange) (last : EngineChange) :
    engines.after (history ++ [last]) = (engines.after history).changed last := List.foldl_concat ..

theorem named?_cons (entry : Text × Engine) (rest : List (Text × Engine)) (name : Text) :
    (mk (entry :: rest)).named? name =
      if entry.1 = name then some entry.2 else (mk rest).named? name := by
  by_cases hn : entry.1 = name <;> simp [named?, hn]

theorem named?_registerIn (entries : List (Text × Engine)) (name other : Text) (engine : Engine) :
    (mk (registerIn entries name engine)).named? other =
      if name = other then some engine else (mk entries).named? other := by
  induction entries with
  | nil => exact named?_cons _ _ _
  | cons entry rest ih =>
    obtain ⟨first, old⟩ := entry
    by_cases hf : first = name
    · subst hf
      by_cases ho : first = other <;> simp [registerIn, named?_cons, ho]
    -- The entry in front is of another name, and stays as it is.
    · simp only [registerIn, if_neg hf, named?_cons, ih]
      by_cases ho : first = other
      · have hn : name ≠ other := fun he => hf (ho.trans he.symm)
        rw [if_pos ho, if_pos ho, if_neg hn]
      · rw [if_neg ho, if_neg ho]

theorem named?_unregister (name other : Text) :
    (engines.unregister name).named? other =
      if name = other then none else engines.named? other := by
  simp only [unregister, named?, List.find?_filter]
  by_cases hn : name = other
  · subst hn
    simp
  · rw [if_neg hn]
    congr 2
    funext entry
    by_cases he : entry.1 = other <;> simp [he, Ne.symm hn]

/-- A change decides under its own name and leaves the other names alone. -/
theorem named?_changed (change : EngineChange) (name : Text) (engine : Engine) :
    (engines.changed change).named? name = some engine ↔
      change = .registered name engine ∨ (change.name ≠ name ∧ engines.named? name = some engine) := by
  cases change with
  | registered other new =>
    rw [changed, register, named?_registerIn]
    by_cases hn : other = name <;> simp [EngineChange.name, hn]
  | removed other =>
    rw [changed, named?_unregister]
    by_cases hn : other = name <;> simp [EngineChange.name, hn]

/-- A name that is known keeps its place, and a new one comes last. -/
theorem names_registerIn (entries : List (Text × Engine)) (name : Text) (engine : Engine) :
    (name ∈ (mk entries).names ∧ (mk (registerIn entries name engine)).names = (mk entries).names) ∨
      (name ∉ (mk entries).names ∧
        (mk (registerIn entries name engine)).names = (mk entries).names ++ [name]) := by
  simp only [names]
  induction entries with
  | nil => exact .inr ⟨List.not_mem_nil, rfl⟩
  | cons entry rest ih =>
    obtain ⟨first, old⟩ := entry
    by_cases hf : first = name
    · simp [registerIn, hf]
    · rcases ih with ⟨hm, hn⟩ | ⟨hm, hn⟩
      · exact .inl (by simp [registerIn, hf, hm, hn])
      · exact .inr (by simp [registerIn, hf, hm, hn, Ne.symm hf])

theorem names_unregister (name : Text) :
    (engines.unregister name).names = engines.names.filter (· != name) := by
  rw [names, names, unregister, List.filter_map]
  rfl

/-- No change brings a name in twice. -/
theorem nodup_changed (hd : engines.names.Nodup) (change : EngineChange) :
    (engines.changed change).names.Nodup := by
  cases change with
  | registered name engine =>
    rw [changed, register]
    rcases names_registerIn engines.entries name engine with ⟨-, hn⟩ | ⟨hnew, hn⟩
    · rw [hn]
      exact hd
    · rw [hn, ← List.concat_eq_append]
      exact hd.concat hnew
  | removed name =>
    rw [changed, names_unregister]
    exact hd.filter _

theorem supported_perm : engines.supported.Perm engines.names := List.mergeSort_perm _ _

theorem mem_supported_iff (name : Text) :
    name ∈ engines.supported ↔ ∃ engine, engines.named? name = some engine := by
  rw [engines.supported_perm.mem_iff, ← Option.isSome_iff_exists, named?, Option.isSome_map,
    List.find?_isSome, names, List.mem_map]
  simp

/-- Names that occur once each are listed in strictly ascending order. -/
theorem supported_ascending (hd : engines.names.Nodup) : engines.supported.Pairwise (· < ·) := by
  have hsorted : engines.supported.Pairwise fun a b => (!decide (b < a)) = true := by
    refine List.pairwise_mergeSort ?_ ?_ _
    · intro a b c hab hbc
      rw [Bool.not_eq_true', decide_eq_false_iff_not, List.not_lt] at hab hbc ⊢
      exact List.le_trans hab hbc
    · intro a b
      rw [Bool.or_eq_true, Bool.not_eq_true', Bool.not_eq_true', decide_eq_false_iff_not,
        decide_eq_false_iff_not, List.not_lt, List.not_lt]
      exact List.le_total a b
  have hdistinct : engines.supported.Nodup := engines.supported_perm.nodup_iff.mpr hd
  refine (hsorted.and hdistinct).imp fun {a b} hab => ?_
  obtain ⟨hle, hne⟩ := hab
  rw [Bool.not_eq_true', decide_eq_false_iff_not, List.not_lt, List.le_iff_lt_or_eq] at hle
  exact hle.resolve_right hne

theorem lastChange_concat_iff (history : List EngineChange) (last change : EngineChange) :
    LastChange (history ++ [last]) change ↔
      last = change ∨ (last.name ≠ change.name ∧ LastChange history change) := by
  constructor
  · intro hp
    obtain ⟨before, later, hh, hother⟩ := hp
    rcases List.eq_nil_or_concat later with rfl | ⟨rest, final, rfl⟩
    · obtain ⟨-, hlast⟩ := List.append_inj' hh rfl
      exact .inl (List.cons.inj hlast).1
    -- What ends the history came later than the change, so it is about another name.
    · rw [List.concat_eq_append] at hh hother
      rw [← List.cons_append, ← List.append_assoc] at hh
      obtain ⟨rfl, hlast⟩ := List.append_inj' hh rfl
      obtain ⟨rfl, -⟩ := List.cons.inj hlast
      exact .inr ⟨hother last (by simp), before, rest, rfl,
        fun other hm => hother other (List.mem_append_left _ hm)⟩
  · intro hp
    rcases hp with rfl | ⟨hname, before, later, rfl, hother⟩
    · exact ⟨history, [], rfl, by simp⟩
    · refine ⟨before, later ++ [last], by simp, ?_⟩
      rw [List.forall_mem_append]
      exact ⟨hother, by simpa using hname⟩

/-- By induction on the history, from its end: the last change decides, or those before it do. -/
theorem named?_after_iff (history : List EngineChange) (name : Text) (engine : Engine) :
    (empty.after history).named? name = some engine ↔
      LastChange history (.registered name engine) := by
  induction history using List.reverseRecOn with
  | nil =>
    constructor
    · intro hn
      cases hn
    · intro hl
      obtain ⟨before, later, hh, -⟩ := hl
      simp at hh
  | append_singleton before last ih =>
    rw [after_concat, named?_changed, lastChange_concat_iff, ih]
    rfl

theorem nodup_after (history : List EngineChange) : (empty.after history).names.Nodup := by
  induction history using List.reverseRecOn with
  | nil => exact List.nodup_nil
  | append_singleton before last ih =>
    rw [after_concat]
    exact nodup_changed _ ih last

variable {engines} {d : ClusterDescription} (id : Value)

theorem endpointOf_registered {engine : Engine} {main : NodeEndpoint}
    (hr : engines.Registers d.engine engine) (he : d.configurationEndpoint = some main) :
    Resolver.endpointOf engines id d =
      .ok ⟨main.host, main.port.orElse (.int engine.defaultPort), d.engine,
        d.nodes.map fun n => ⟨n.host, n.port.orElse (.int engine.defaultPort)⟩⟩ := by
  obtain ⟨name, hname, hn⟩ := hr
  simp only [Resolver.endpointOf, find?, hname, hn, he]
  rfl

theorem endpointOf_unregistered (hk : d.engine.key? ≠ none)
    (hn : ∀ engine, ¬ engines.Registers d.engine engine) :
    Resolver.endpointOf engines id d =
      .error (.unsupportedEngine id d.engine engines.supported) := by
  rcases find?_cases engines d.engine with ⟨hother, -⟩ | ⟨-, -, hf⟩ | ⟨engine, hr, -⟩
  · exact absurd hother hk
  · rw [Resolver.endpointOf, hf]
    rfl
  · exact absurd hr (hn engine)

theorem endpointOf_collection (hk : d.engine.key? = none) :
    Resolver.endpointOf engines id d = .error .wrongType := by
  rcases find?_cases engines d.engine with ⟨-, hf⟩ | ⟨hother, -⟩ | ⟨engine, ⟨name, he, -⟩, -⟩
  · rw [Resolver.endpointOf, hf]
    rfl
  · exact absurd hk hother
  · rw [he] at hk
    cases hk

theorem endpointOf_ok_iff {main : NodeEndpoint} (he : d.configurationEndpoint = some main) :
    (∃ endpoint, Resolver.endpointOf engines id d = .ok endpoint) ↔
      ∃ engine, engines.Registers d.engine engine := by
  constructor
  · intro hp
    obtain ⟨endpoint, hok⟩ := hp
    rcases find?_cases engines d.engine with ⟨hk, -⟩ | ⟨hk, hn, -⟩ | ⟨engine, hr, -⟩
    · cases hok.symm.trans (endpointOf_collection id hk)
    · cases hok.symm.trans (endpointOf_unregistered id hk hn)
    · exact ⟨engine, hr⟩
  · intro hp
    obtain ⟨engine, hr⟩ := hp
    exact ⟨_, endpointOf_registered id hr he⟩

theorem registers_iff_listed (name : Value) :
    (∃ engine, engines.Registers name engine) ↔ ∃ text ∈ engines.supported, name = .str text := by
  simp only [Registers, mem_supported_iff]
  constructor
  · intro hp
    obtain ⟨engine, text, he, hn⟩ := hp
    exact ⟨text, ⟨engine, hn⟩, he⟩
  · intro hp
    obtain ⟨text, ⟨engine, hn⟩, he⟩ := hp
    exact ⟨engine, text, he, hn⟩

/-- After any history the names are listed in strictly ascending order, and they are those under
which a registration came last. A cluster that is described with a main endpoint is accepted exactly
if its engine is one of them. Its endpoint then has the port of the latest registration wherever
there is none; otherwise the engine is refused together with that list. An engine that is no scalar
cannot even be looked up. -/
theorem last_change_decides (history : List EngineChange) :
    let engines := empty.after history
    engines.supported.Pairwise (· < ·) ∧
      (∀ name, name ∈ engines.supported ↔
        ∃ engine, LastChange history (.registered name engine)) ∧
      ∀ {σ : Type} (h : Handler σ) (s : σ) (directory : ClusterDirectory)
        (stack : Option StackDirectory) (id : Value) (d : ClusterDescription) (main : NodeEndpoint),
        ((directory.describe id true).run h s).outcome = .ok [d] →
        d.configurationEndpoint = some main →
        let outcome := (((Resolver.mk engines directory stack).resolveCluster id).run h s).outcome
        ((∃ endpoint, outcome = .ok endpoint) ↔
          ∃ name ∈ engines.supported, d.engine = .str name) ∧
        (∀ name engine, d.engine = .str name → LastChange history (.registered name engine) →
          outcome = .ok ⟨main.host, main.port.orElse (.int engine.defaultPort), d.engine,
            d.nodes.map fun n => ⟨n.host, n.port.orElse (.int engine.defaultPort)⟩⟩) ∧
        (d.engine.key? ≠ none → (¬ ∃ name ∈ engines.supported, d.engine = .str name) →
          outcome = .error (.unsupportedEngine id d.engine engines.supported)) ∧
        (d.engine.key? = none → outcome = .error .wrongType) := by
  intro engines
  refine ⟨supported_ascending _ (nodup_after history), ?_, ?_⟩
  · intro name
    simp only [engines, mem_supported_iff, named?_after_iff]
  · intro σ h s directory stack id d main hd he outcome
    have houtcome : outcome = Resolver.endpointOf engines id d := by
      simp only [outcome, run_resolveCluster, hd]
      rfl
    rw [houtcome, ← registers_iff_listed]
    refine ⟨endpointOf_ok_iff id he, ?_, ?_, endpointOf_collection id⟩
    · intro name engine hname hlast
      have hn : engines.named? name = some engine := (named?_after_iff ..).mpr hlast
      exact endpointOf_registered id ⟨name, hname, hn⟩ he
    · intro hk hnone
      exact endpointOf_unregistered id hk (not_exists.mp hnone)

/-- Redis is registered a second time, and memcached is given up. -/
def redisHistory : List EngineChange :=
  [.registered "valkey" (.requested "valkey" 6380), .registered "redis" (.requested "redis" 1),
    .removed "memcached", .registered "redis" (.requested "redis" 6379)]

def clusterOf (engine : Text) : ClusterDescription :=
  ⟨.str "c", .str engine, some ⟨.str "cfg", .null⟩, [⟨.str "n-1", .int 0⟩, ⟨.str "n-2", .int 7000⟩]⟩

def describing (d : ClusterDescription) : Handler Unit where
  answer s
    | .describe _ _ => (.ok [d], s)
    | _ => (.error .noFields, s)

/-- The second port of redis counts, and memcached is not supported any more. -/
theorem redis_has_its_second_port :
    let engines := shipped.after redisHistory
    let resolver : Resolver := ⟨engines, .supplied, none⟩
    engines.supported = [Text.ofString "redis", Text.ofString "valkey"] ∧
      ((resolver.resolveCluster (.str "c")).run (describing (clusterOf "redis")) ()).outcome =
        .ok ⟨.str "cfg", .int 6379, .str "redis",
          [⟨.str "n-1", .int 6379⟩, ⟨.str "n-2", .int 7000⟩]⟩ ∧
      ((resolver.resolveCluster (.str "c")).run (describing (clusterOf "memcached")) ()).outcome =
        .error (.unsupportedEngine (.str "c") (.str "memcached")
          [Text.ofString "redis", Text.ofString "valkey"]) := by
  intro engines resolver
  obtain ⟨hascending, -, hresolve⟩ :=
    last_change_decides (.registered "memcached" Engine.memcached :: redisHistory)
  rw [← shipped_after] at hascending hresolve
  have hnames : engines.names = [Text.ofString "valkey", Text.ofString "redis"] := by decide
  have hlist : engines.supported = [Text.ofString "redis", Text.ofString "valkey"] := by
    refine List.Perm.eq_of_pairwise ?_ hascending (by decide) ?_
    · intro a b _ _ hab hba
      exact absurd hba (List.lt_asymm hab)
    · exact engines.supported_perm.trans (hnames ▸ List.Perm.swap ..)
  have hunlisted : Text.ofString "memcached" ∉ engines.supported := by
    rw [hlist]
    decide
  obtain ⟨-, hredis, -⟩ := hresolve (describing (clusterOf "redis")) () .supplied none (.str "c")
    (clusterOf "redis") _ rfl rfl
  obtain ⟨-, -, hmemcached, -⟩ := hresolve (describing (clusterOf "memcached")) () .supplied none
    (.str "c") (clusterOf "memcached") _ rfl rfl
  refine ⟨hlist, ?_, ?_⟩
  · have hlast : LastChange (.registered "memcached" Engine.memcached :: redisHistory)
        (.registered "redis" (.requested "redis" 6379)) :=
      ⟨.registered "memcached" Engine.memcached :: redisHistory.dropLast, [], rfl, by simp⟩
    exact hredis "redis" _ rfl hlast
  · rw [← hlist]
    refine hmemcached (by simp [clusterOf, Value.key?]) ?_
    intro hp
    obtain ⟨name, hm, he⟩ := hp
    cases he
    exact hunlisted hm

end Engines

end CacheWiring
