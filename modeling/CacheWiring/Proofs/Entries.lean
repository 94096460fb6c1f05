import CacheWiring.Proofs.Phases
import CacheWiring.Proofs.Stores
import CacheWiring.Proofs.Writes

namespace CacheWiring

variable {σ : Type} {h : Handler σ}

namespace Registry

variable {r : Registry} {known : List Text}

theorem holds_str_iff {cache : Cache} {other : Text} (hn : cache.name = .str other) (name : Text) :
    holds (.str name) cache = true ↔ other = name := by
  simp [holds, hn, Value.key?, same_str_iff]

theorem name_of_mem (hk : r.names = known.map Value.str) {cache : Cache} (hm : cache ∈ r.caches) :
    ∃ name ∈ known, cache.name = .str name := by
  have hname : cache.name ∈ r.names := List.mem_map_of_mem hm
  rw [hk] at hname
  obtain ⟨name, hn, he⟩ := List.mem_map.mp hname
  exact ⟨name, hn, he.symm⟩

theorem eq_of_name (hk : r.names = known.map Value.str) {cache other : Cache}
    (hm : cache ∈ r.caches) (ho : other ∈ r.caches) (hn : other.name = cache.name) :
    other = cache := by
  have hknown : known.Nodup := (no_conflict_iff hk).mp r.distinct
  have hnames : (r.caches.map Cache.name).Nodup := by
    rw [← names, hk]
    exact hknown.map fun _ _ he => by simpa using he
  exact List.inj_on_of_nodup_map hnames ho hm hn

theorem find?_of_mem (hk : r.names = known.map Value.str) {cache : Cache} (hm : cache ∈ r.caches)
    {name : Text} (hn : cache.name = .str name) :
    r.caches.find? (holds (.str name)) = some cache := by
  cases hf : r.caches.find? (holds (.str name)) with
  | none => exact absurd ((holds_str_iff hn name).mpr rfl) (List.find?_eq_none.mp hf cache hm)
  | some other =>
    have ho := List.mem_of_find?_eq_some hf
    obtain ⟨otherName, -, he⟩ := name_of_mem hk ho
    obtain rfl := (holds_str_iff he name).mp (List.find?_some hf)
    rw [eq_of_name hk hm ho (he.trans hn.symm)]

/-- The cache of a known name is found under it. -/
theorem request_known (hk : r.names = known.map Value.str) {name : Text} (hn : name ∈ known) :
    ∃ cache ∈ r.caches, cache.name = .str name ∧ r.request (.str name) = .ok cache := by
  have hname : Value.str name ∈ r.names := hk ▸ List.mem_map_of_mem hn
  obtain ⟨cache, hm, he⟩ := List.mem_map.mp hname
  refine ⟨cache, hm, he, ?_⟩
  simp only [request, get?, Value.key?, find?_of_mem hk hm he]
  rfl

/-- Under any other name none is found, and the known ones are listed. -/
theorem request_unknown (hk : r.names = known.map Value.str) {name : Text} (hn : name ∉ known) :
    r.request (.str name) = .error (.cacheNotFound (.str name) known) := by
  have hf : r.caches.find? (holds (.str name)) = none := by
    refine List.find?_eq_none.mpr fun cache hm hh => ?_
    obtain ⟨other, ho, he⟩ := name_of_mem hk hm
    exact hn ((holds_str_iff he name).mp hh ▸ ho)
  have ht : r.nameTexts = .ok known := (mapM_toStr_iff _ _).mpr hk
  simp only [request, get?, Value.key?, hf, ht]
  rfl

end Registry

/-- Each client is a dictionary of its own: a call is answered from what it holds, and makes no
difference to what others hold. A client that has just been connected is a new one. -/
structure Handler.Dictionaries (h : Handler σ) (holds : σ → Nat → Option Store) : Prop where
  called : ∀ s client store c, holds s client = some store →
    (h.answer s (.call client c)).1 = .ok (store.answer c).1 ∧
      holds (h.answer s (.call client c)).2 =
        Function.update (holds s) client (some (store.after c))
  connected : ∀ s servers settings client,
    (h.answer s (.connect servers settings)).1 = .ok client →
      holds s client = none ∧ ∃ store,
        holds (h.answer s (.connect servers settings)).2 =
          Function.update (holds s) client (some store)

/-- Something done under the text of a key. Without a text nothing is done. -/
def Store.under (store : Store) (key : Value) (act : Text → Value × Store) :
    Except Fault Value × Store :=
  match Cache.keyText key with
  | .ok k => (.ok (act k).1, (act k).2)
  | .error fault => (.error fault, store)

/-- The result of an operation on a map of entries, and the map after it. -/
def Operation.serve (store : Store) : Operation → Except Fault Value × Store
  | .get key fallback => store.under key fun k => ((store k).getD fallback, store)
  | .put key value => store.under key fun k => (.null, store.hold k value)
  | .putIfAbsent key value => store.under key fun k =>
    match store k with
    | some held => (held, store)
    | none => (.null, store.hold k value)
  | .evict key => store.under key fun k => (.null, store.drop k)
  | .clear => (.ok .null, .empty)

variable {holds : σ → Nat → Option Store}

/-- A program that starts with a call goes on with what its client, as a dictionary, replies. -/
theorem run_ask {α : Type} (hd : h.Dictionaries holds) {client : Nat} {s : σ} {store : Store}
    (hs : holds s client = some store) {p : Program α} {c : Call}
    {next : Except Fault c.Reply → Program α} (hp : p = .ask (.call client c) next) :
    ∃ s', holds s' = Function.update (holds s) client (some (store.after c)) ∧
      (p.run h s).outcome = ((next (.ok (store.answer c).1)).run h s').outcome ∧
      (p.run h s).state = ((next (.ok (store.answer c).1)).run h s').state := by
  obtain ⟨hreply, hafter⟩ := hd.called s client store c hs
  subst hp
  refine ⟨_, hafter, ?_⟩
  simp only [Program.run]
  rw [hreply]
  exact ⟨rfl, rfl⟩

theorem run_one {α : Type} (hd : h.Dictionaries holds) {client : Nat} {s : σ} {store : Store}
    (hs : holds s client = some store) {p : Program α} {c : Call}
    {next : Except Fault c.Reply → Program α} (hp : p = .ask (.call client c) next) {a : α}
    (hn : next (.ok (store.answer c).1) = pure a) :
    (p.run h s).outcome = .ok a ∧
      holds (p.run h s).state = Function.update (holds s) client (some (store.after c)) := by
  obtain ⟨s', hafter, houtcome, hstate⟩ := run_ask hd hs hp
  rw [houtcome, hstate, hn]
  exact ⟨rfl, hafter⟩

theorem run_putIfAbsent (hd : h.Dictionaries holds) {cache : Cache} {s : σ} {store : Store}
    (hs : holds s cache.client = some store) (k : Text) (value : Value) :
    ((cache.putIfAbsent (.str k) value).run h s).outcome = .ok ((store k).getD .null) ∧
      holds ((cache.putIfAbsent (.str k) value).run h s).state =
        Function.update (holds s) cache.client
          (some (if (store k).isSome then store else store.hold k value)) := by
  have hask : cache.putIfAbsent (.str k) value =
      .ask (.call cache.client (.add k value cache.expiration)) _ := rfl
  cases hk : store k with
  | none =>
    have hadd := Store.answer_add_absent hk value cache.expiration
    have hone := run_one hd hs hask (a := .null) (by rw [hadd]; rfl)
    simpa [Store.after, hadd] using hone
  | some held =>
    -- The addition leaves the map as it is, and the read that follows finds what is held.
    have hadd := Store.answer_add_present hk value cache.expiration
    obtain ⟨s', hafter, houtcome, hstate⟩ := run_ask hd hs hask
    rw [houtcome, hstate, hadd]
    rw [Store.after, hadd] at hafter
    have hs' : holds s' cache.client = some store := by rw [hafter, Function.update_self]
    have hread := run_one (p := cache.get (.str k) .null) (c := .get k .null) hd hs' rfl rfl
    rw [hafter, Function.update_idem] at hread
    change ((cache.get (.str k) .null).run h s').outcome = _ ∧
      holds ((cache.get (.str k) .null).run h s').state = _
    simpa [hk, Store.answer] using hread

/-- An operation does what it does under the text of its key. Without a text it leaves everything as
it is. -/
theorem run_of_texted {operation : Operation} {key : Value} {make : Text → Operation}
    (ht : operation.texted = (Cache.keyText key).map make) {cache : Cache} {s : σ} {store : Store}
    (hs : holds s cache.client = some store) {act : Text → Value × Store}
    (hm : ∀ k, (((make k).on cache).run h s).outcome = .ok (act k).1 ∧
      holds (((make k).on cache).run h s).state =
        Function.update (holds s) cache.client (some (act k).2)) :
    ((operation.on cache).run h s).outcome = (store.under key act).1 ∧
      holds ((operation.on cache).run h s).state =
        Function.update (holds s) cache.client (some (store.under key act).2) := by
  have hkept : Function.update (holds s) cache.client (some store) = holds s := by
    rw [← hs, Function.update_eq_self]
  rw [Operation.on_texted, Program.run_bind, Program.run_ofExcept, ht, Store.under]
  cases Cache.keyText key with
  | error fault => exact ⟨rfl, hkept.symm⟩
  | ok k => exact hm k

theorem run_operation (hd : h.Dictionaries holds) {cache : Cache} {s : σ} {store : Store}
    (hs : holds s cache.client = some store) (operation : Operation) :
    ((operation.on cache).run h s).outcome = (operation.serve store).1 ∧
      holds ((operation.on cache).run h s).state =
        Function.update (holds s) cache.client (some (operation.serve store).2) := by
  cases operation with
  | clear => exact run_one (p := Operation.clear.on cache) hd hs rfl rfl
  | get key fallback =>
    exact run_of_texted rfl hs fun k =>
      run_one (p := (Operation.get (.str k) fallback).on cache) hd hs rfl rfl
  | put key value =>
    exact run_of_texted rfl hs fun k =>
      run_one (p := (Operation.put (.str k) value).on cache) hd hs rfl rfl
  | evict key =>
    exact run_of_texted rfl hs fun k =>
      run_one (p := (Operation.evict (.str k)).on cache) hd hs rfl rfl
  | putIfAbsent key value =>
    refine run_of_texted rfl hs fun k => ?_
    have hrun := run_putIfAbsent hd hs k value
    cases hk : store k <;> simpa [Operation.on, hk] using hrun

def Maps := Text → Store

def Maps.put (maps : Maps) (name : Text) (store : Store) : Maps := Function.update maps name store

@[simp] theorem Maps.put_same (maps : Maps) (name : Text) (store : Store) :
    maps.put name store name = store := Function.update_self ..

theorem Maps.put_other (maps : Maps) {name other : Text} (ho : other ≠ name) (store : Store) :
    maps.put name store other = maps other := Function.update_of_ne ho ..

/-- The caches are under the known names, each on a client of its own that holds the map of the
name. -/
structure Registry.Represents (r : Registry) (known : List Text) (held : Nat → Option Store)
    (maps : Maps) : Prop where
  names : r.names = known.map Value.str
  clients : (r.caches.map Cache.client).Nodup
  held : ∀ cache ∈ r.caches, ∀ name, cache.name = .str name → held cache.client = some (maps name)

def Registry.mapsOf (r : Registry) (held : Nat → Option Store) : Maps := fun name =>
  match r.caches.find? (Registry.holds (.str name)) with
  | some cache => (held cache.client).getD .empty
  | none => .empty

/-- Caches under texts represent maps as soon as each is on a dictionary of its own. -/
theorem Registry.represents {r : Registry} {known : List Text} {held : Nat → Option Store}
    (hk : r.names = known.map Value.str) (hclients : (r.caches.map Cache.client).Nodup)
    (hheld : ∀ cache ∈ r.caches, (held cache.client).isSome) :
    r.Represents known held (r.mapsOf held) := by
  refine ⟨hk, hclients, fun cache hm name hn => ?_⟩
  obtain ⟨store, hstore⟩ := Option.isSome_iff_exists.mp (hheld cache hm)
  simp only [mapsOf, find?_of_mem hk hm hn, hstore, Option.getD_some]

structure Visit where
  name : Text
  operation : Operation

def Visit.on (r : Registry) (v : Visit) : Program Value := do
  let cache ← Program.ofExcept (r.request (.str v.name))
  v.operation.on cache

def Registry.visit (r : Registry) (visits : List Visit) : Program (List (Except Fault Value)) :=
  Program.each (fun v => (v.on r).attempt) visits

/-- The result of a visit on maps of entries, and the maps after it. -/
def Visit.serve (known : List Text) (maps : Maps) (v : Visit) : Except Fault Value × Maps :=
  if v.name ∈ known then
    ((v.operation.serve (maps v.name)).1, maps.put v.name (v.operation.serve (maps v.name)).2)
  else (.error (.cacheNotFound (.str v.name) known), maps)

def Maps.serve (known : List Text) (maps : Maps) : List Visit → List (Except Fault Value)
  | [] => []
  | v :: rest => (v.serve known maps).1 :: Maps.serve known (v.serve known maps).2 rest

namespace Registry.Represents

variable {r : Registry} {known : List Text} {held : Nat → Option Store} {maps : Maps}

theorem update (hr : r.Represents known held maps) {cache : Cache} (hm : cache ∈ r.caches)
    {name : Text} (hn : cache.name = .str name) (store : Store) :
    r.Represents known (Function.update held cache.client (some store)) (maps.put name store) := by
  refine ⟨hr.names, hr.clients, fun other ho otherName hother => ?_⟩
  by_cases he : otherName = name
  · subst he
    obtain rfl := eq_of_name hr.names hm ho (hother.trans hn.symm)
    simp
  · have hclient : other.client ≠ cache.client := by
      intro hc
      obtain rfl := List.inj_on_of_nodup_map hr.clients ho hm hc
      exact he (by simpa [hn] using hother.symm)
    rw [Function.update_of_ne hclient, maps.put_other he]
    exact hr.held other ho otherName hother

theorem run_visit (hd : h.Dictionaries holds) {s : σ} (hr : r.Represents known (holds s) maps)
    (v : Visit) :
    ((v.on r).run h s).outcome = (v.serve known maps).1 ∧
      r.Represents known (holds ((v.on r).run h s).state) (v.serve known maps).2 := by
  simp only [Visit.on, Program.run_bind, Program.run_ofExcept, Visit.serve]
  by_cases hk : v.name ∈ known
  · obtain ⟨cache, hm, hn, hrequest⟩ := request_known hr.names hk
    obtain ⟨houtcome, hafter⟩ := run_operation hd (hr.held cache hm v.name hn) v.operation
    rw [hrequest, Run.andThen_ok, if_pos hk]
    exact ⟨houtcome, hafter ▸ hr.update hm hn _⟩
  · rw [request_unknown hr.names hk, Run.andThen_error, if_neg hk]
    exact ⟨rfl, hr⟩

theorem run_visits (hd : h.Dictionaries holds) {s : σ} (hr : r.Represents known (holds s) maps)
    (visits : List Visit) :
    ((r.visit visits).run h s).outcome = .ok (maps.serve known visits) := by
  induction visits generalizing s maps with
  | nil => rfl
  | cons v rest ih =>
    obtain ⟨houtcome, hnext⟩ := run_visit hd hr v
    have hrest := ih hnext
    simp only [Registry.visit] at hrest ⊢
    simp only [Program.run_each_cons, Program.run_attempt, Run.andThen_ok]
    rw [Run.andThen_of_ok hrest, houtcome]
    rfl

end Registry.Represents

/-- The text of the key, if it has one, unless the operation is on all entries. -/
def Operation.keyText? : Operation → Option (Option Text)
  | .get key _ | .put key _ | .putIfAbsent key _ | .evict key =>
    some (Cache.keyText key).toOption
  | .clear => none

/-- The same with the text of the key in place of the key. -/
def Visit.texted (v : Visit) : Text × Except Fault Operation := (v.name, v.operation.texted)

/-- Only the texts of keys matter. -/
theorem Registry.visit_of_texted (r : Registry) {visits others : List Visit}
    (ho : others.map Visit.texted = visits.map Visit.texted) : r.visit others = r.visit visits := by
  have hon {v w : Visit} (hw : w.texted = v.texted) : w.on r = v.on r := by
    obtain ⟨hname, hoperation⟩ := Prod.mk.inj hw
    simp only [Visit.on, Operation.on_texted w.operation, Operation.on_texted v.operation, hname,
      hoperation]
  induction visits generalizing others with
  | nil => rw [List.map_eq_nil_iff.mp ho]
  | cons v rest ih =>
    obtain ⟨w, more, rfl, hw, hmore⟩ := List.map_eq_cons_iff.mp ho
    have hrest := ih hmore
    simp only [Registry.visit] at hrest ⊢
    simp only [Program.each, hon hw, hrest]

/-- It is on this entry of this cache, be it on this alone or on all that there are. -/
def Visit.Concerns (name k : Text) (v : Visit) : Prop :=
  v.name = name ∧ (v.operation.keyText? = none ∨ v.operation.keyText? = some (some k))

instance (name k : Text) : DecidablePred (Visit.Concerns name k) :=
  fun _ => inferInstanceAs (Decidable (_ ∧ _))

/-- What is done under a text makes no difference elsewhere and, where it is done, depends on that
entry alone. -/
theorem Store.under_local {store other : Store} {key : Value} {k : Text}
    {act act' : Text → Value × Store} (hk : (Cache.keyText key).toOption = some k)
    (hresult : (act k).1 = (act' k).1) (hnext : (act k).2 k = (act' k).2 k) :
    (store.under key act).1 = (other.under key act').1 ∧
      (store.under key act).2 k = (other.under key act').2 k := by
  unfold under
  cases hkey : Cache.keyText key with
  | error fault =>
    rw [hkey] at hk
    cases hk
  | ok text =>
    rw [hkey] at hk
    obtain rfl : text = k := Option.some.inj hk
    exact ⟨congrArg Except.ok hresult, hnext⟩

theorem Store.under_frame {store : Store} {key : Value} {k : Text} {act : Text → Value × Store}
    (hact : ∀ {text}, text ≠ k → (act text).2 k = store k)
    (hk : (Cache.keyText key).toOption ≠ some k) : (store.under key act).2 k = store k := by
  unfold under
  cases hkey : Cache.keyText key with
  | error fault => rfl
  | ok text =>
    have hne : text ≠ k := by
      rintro rfl
      exact hk (by rw [hkey]; rfl)
    exact hact hne

/-- What an operation does to an entry, and what it replies of it, depends on that entry alone. -/
theorem Operation.serve_local {operation : Operation} {k : Text} {store other : Store}
    (hk : operation.keyText? = none ∨ operation.keyText? = some (some k))
    (hs : store k = other k) :
    (operation.serve store).1 = (operation.serve other).1 ∧
      (operation.serve store).2 k = (operation.serve other).2 k := by
  cases operation with
  | clear => exact ⟨rfl, rfl⟩
  | get key fallback =>
    exact Store.under_local (by simpa [keyText?] using hk) (by simp [hs]) hs
  | put key value => exact Store.under_local (by simpa [keyText?] using hk) rfl (by simp)
  | putIfAbsent key value =>
    refine Store.under_local (by simpa [keyText?] using hk) ?_ ?_
    · cases hheld : other k <;> simp [hs, hheld]
    · cases hheld : other k <;> simp [hs, hheld]
  | evict key => exact Store.under_local (by simpa [keyText?] using hk) rfl (by simp)

/-- An operation on another entry leaves it alone. -/
theorem Operation.serve_frame {operation : Operation} {k : Text} (store : Store)
    (hk : ¬ (operation.keyText? = none ∨ operation.keyText? = some (some k))) :
    (operation.serve store).2 k = store k := by
  cases operation with
  | clear => exact absurd (.inl rfl) hk
  | get key fallback => exact Store.under_frame (fun _ => rfl) (by simpa [keyText?] using hk)
  | put key value =>
    exact Store.under_frame (fun ho => store.hold_other ho.symm value)
      (by simpa [keyText?] using hk)
  | putIfAbsent key value =>
    refine Store.under_frame (fun {text} ho => ?_) (by simpa [keyText?] using hk)
    cases store text with
    | some held => rfl
    | none => exact store.hold_other ho.symm value
  | evict key =>
    exact Store.under_frame (fun ho => store.drop_other ho.symm) (by simpa [keyText?] using hk)

namespace Visit

variable (known : List Text) {maps other : Maps} {name k : Text} {v : Visit}

theorem serve_concerning (hv : v.Concerns name k) (hs : maps name k = other name k) :
    (v.serve known maps).1 = (v.serve known other).1 ∧
      (v.serve known maps).2 name k = (v.serve known other).2 name k := by
  obtain ⟨rfl, hk⟩ := hv
  obtain ⟨hresult, hnext⟩ := Operation.serve_local hk hs
  by_cases hknown : v.name ∈ known
  · simp [serve, hknown, hresult, hnext]
  · simp [serve, hknown, hs]

theorem serve_elsewhere (hv : ¬ v.Concerns name k) :
    (v.serve known maps).2 name k = maps name k := by
  by_cases hknown : v.name ∈ known
  · simp only [serve, if_pos hknown]
    by_cases hn : name = v.name
    · subst hn
      rw [Maps.put_same]
      exact Operation.serve_frame _ fun hk => hv ⟨rfl, hk⟩
    · rw [maps.put_other hn]
  · simp [serve, hknown]

end Visit

/-- Visits that do not concern an entry can be left out, and the others keep their results. -/
theorem Maps.serve_filter (known : List Text) {maps other : Maps} {name k : Text}
    (hs : maps name k = other name k) (visits : List Visit) :
    other.serve known (visits.filter (Visit.Concerns name k ·)) =
      ((visits.zip (maps.serve known visits)).filter (Visit.Concerns name k ·.1)).map Prod.snd := by
  induction visits generalizing maps other with
  | nil => rfl
  | cons v rest ih =>
    by_cases hv : v.Concerns name k
    · obtain ⟨hresult, hnext⟩ := Visit.serve_concerning known hv hs
      simp [serve, hv, hresult, ih hnext]
    · have hnext := (Visit.serve_elsewhere known hv).trans hs
      simp [serve, hv, ih hnext]

theorem run_connect (hd : h.Dictionaries holds) {options : ClientOptions}
    {servers : List NodeEndpoint} {client : Nat} {s s' : σ} {trace : List Happening}
    (hrun : (connect options servers).run h s = ⟨.ok client, s', trace⟩) :
    holds s client = none ∧ ∃ store, holds s' = Function.update (holds s) client (some store) := by
  have hconnected := hd.connected s servers (Engine.settings options) client
  obtain ⟨hfresh, store, hnext⟩ := hconnected (congrArg Run.outcome hrun)
  exact ⟨hfresh, store, (congrArg (fun run => holds run.state) hrun).symm.trans hnext⟩

/-- New clients, no two of them the same, which hold something in the end, as all do that held
something before. -/
structure Joined (clients : List Nat) (before after : Nat → Option Store) : Prop where
  nodup : clients.Nodup
  fresh : ∀ client ∈ clients, before client = none
  held : ∀ client ∈ clients, (after client).isSome
  kept : ∀ client, (before client).isSome → (after client).isSome

theorem Joined.cons {clients : List Nat} {client : Nat} {store : Store}
    {before after : Nat → Option Store} (hfresh : before client = none)
    (hj : Joined clients (Function.update before client (some store)) after) :
    Joined (client :: clients) before after := by
  have hfirst : (after client).isSome := hj.kept client (by simp)
  -- The client holds something from here on, so none that joins later is the same.
  have hapart : client ∉ clients := fun hm => by simpa using hj.fresh client hm
  refine ⟨List.nodup_cons.mpr ⟨hapart, hj.nodup⟩, List.forall_mem_cons.mpr ⟨hfresh, ?_⟩,
    List.forall_mem_cons.mpr ⟨hfirst, hj.held⟩, ?_⟩
  · intro other hm
    have hne : other ≠ client := fun he => hapart (he ▸ hm)
    simpa [hne] using hj.fresh other hm
  · intro other ho
    by_cases he : other = client
    · rwa [he]
    · exact hj.kept other (by simpa [he] using ho)

/-- Each cache that startup binds is on a client of its own. -/
theorem bound_joined (hd : h.Dictionaries holds) (options : ClientOptions)
    {clusters : List ResolvedCluster}
    (hengines : ∀ cluster ∈ clusters, cluster.endpoint.engine = .str "memcached")
    {caches : List Cache} {s s' : σ} {trace : List Happening}
    (hrun : (Program.each (Registry.bindCluster .shipped options) clusters).run h s =
      ⟨.ok caches, s', trace⟩) : Joined (caches.map Cache.client) (holds s) (holds s') := by
  induction clusters generalizing caches s trace with
  | nil =>
    cases hrun
    exact ⟨List.nodup_nil, by simp, by simp, fun _ => id⟩
  | cons cluster rest ih =>
    obtain ⟨hengine, hengines⟩ := List.forall_mem_cons.mp hengines
    obtain ⟨output, hbind⟩ := run_bindCluster_memcached h options hengine s
    rw [Program.run_each_cons, hbind] at hrun
    generalize hconnect : (connect options cluster.endpoint.servers).run h s = first at hrun
    obtain ⟨outcome, s₁, before⟩ := first
    cases outcome with
    | error fault => cases hrun
    | ok client =>
      obtain ⟨hfresh, store, hnext⟩ := run_connect hd hconnect
      simp only [Run.andThen_ok] at hrun
      generalize hrest :
        (Program.each (Registry.bindCluster .shipped options) rest).run h s₁ = others at hrun
      obtain ⟨outcome, s₂, more⟩ := others
      cases outcome with
      | error fault => cases hrun
      | ok others =>
        cases hrun
        exact .cons hfresh (hnext ▸ ih hengines hrest)

theorem represents_of_start (hd : h.Dictionaries holds) {c : Configuration} {given : Supplied}
    {s : σ} {context : CachingContext}
    (hc : ((c.start .shipped given).run h s).outcome = .ok context) :
    ∃ known maps, context.registry.Represents known
      (holds ((c.start .shipped given).run h s).state) maps := by
  rw [run_start] at hc ⊢
  obtain ⟨resolved, hr, hc⟩ := Run.andThen_outcome_ok.mp hc
  obtain ⟨registry, hb, hc⟩ := Run.andThen_outcome_ok.mp hc
  cases hc
  rw [Run.andThen_of_ok hr, Run.andThen_of_ok hb]
  obtain ⟨hn, hcaches, hdistinct⟩ := (Registry.build_ok_iff h _ _ _ _ registry).mp hb
  generalize hbinding : (Program.each (Registry.bindCluster .shipped c.client) resolved).run h
    ((c.resolveClusters .shipped given).run h s).state = binding at hcaches
  obtain ⟨outcome, s', trace⟩ := binding
  cases hcaches
  have hjoined := bound_joined hd c.client (resolved_engines hr) hbinding
  rcases Registry.run_build_bound h _ c.client hn hbinding with
    ⟨_, record, -, -, hrun⟩ | ⟨fault, hclash, -⟩
  · obtain ⟨known, hknown, -⟩ := hdistinct
    rw [hrun]
    exact ⟨known, _, Registry.represents hknown hjoined.nodup fun cache hm =>
      hjoined.held cache.client (List.mem_map_of_mem hm)⟩
  · exact absurd hdistinct hclash

/-- Where clients are dictionaries of their own, the caches of every context that has been started
represent maps under their names. On such caches all visits have the results that they have on the
maps; those to one entry have them without the others as well; and a key can be exchanged for any
other of its text. -/
theorem entries_apart {σ : Type} {h : Handler σ} {holds : σ → Nat → Option Store}
    (hd : h.Dictionaries holds) :
    (∀ (c : Configuration) (given : Supplied) (s : σ) (context : CachingContext),
      ((c.start .shipped given).run h s).outcome = .ok context →
        ∃ known maps, context.registry.Represents known
          (holds ((c.start .shipped given).run h s).state) maps) ∧
    ∀ (r : Registry) (known : List Text) (maps : Maps) (s : σ),
      r.Represents known (holds s) maps → ∀ visits : List Visit,
        let results := maps.serve known visits
        ((r.visit visits).run h s).outcome = .ok results ∧
          (∀ name k, ((r.visit (visits.filter (Visit.Concerns name k ·))).run h s).outcome =
            .ok (((visits.zip results).filter (Visit.Concerns name k ·.1)).map Prod.snd)) ∧
          ∀ others, others.map Visit.texted = visits.map Visit.texted →
            ((r.visit others).run h s).outcome = .ok results := by
  refine ⟨fun c given s context hc => represents_of_start hd hc, ?_⟩
  intro r known maps s hr visits results
  refine ⟨hr.run_visits hd visits, fun name k => ?_, fun others ho => ?_⟩
  · rw [hr.run_visits hd, Maps.serve_filter known rfl visits]
  · rw [r.visit_of_texted ho]
    exact hr.run_visits hd visits

/-- Every cluster is on a host of its own, and the clients are dictionaries in the order in which
they were connected. -/
def dictionaryPerClient : Handler (List Store) where
  answer stores
    | .describe id _ => (.ok [⟨id, .str "memcached", some ⟨id, .int 0⟩, []⟩], stores)
    | .connect .. => (.ok stores.length, stores ++ [.empty])
    | .call client c =>
      match stores[client]? with
      | some store => (.ok (store.answer c).1, stores.set client (store.after c))
      | none => (.error .noFields, stores)
    | _ => (.error .noFields, stores)

theorem dictionaryPerClient_apart :
    dictionaryPerClient.Dictionaries fun stores client => stores[client]? := by
  constructor
  · intro stores client store c hs
    have hlt : client < stores.length := (List.getElem?_eq_some_iff.mp hs).1
    simp only [dictionaryPerClient, hs]
    refine ⟨trivial, funext fun other => ?_⟩
    by_cases ho : other = client
    · rw [ho, List.getElem?_set_self hlt, Function.update_self]
    · rw [List.getElem?_set_ne (Ne.symm ho), Function.update_of_ne ho]
  · intro stores servers settings client hc
    obtain rfl : stores.length = client := Except.ok.inj hc
    refine ⟨List.getElem?_eq_none le_rfl, .empty, funext fun other => ?_⟩
    by_cases ho : other = stores.length
    · rw [ho, Function.update_self]
      exact List.getElem?_concat_length
    · rw [Function.update_of_ne ho]
      rcases Nat.lt_or_ge other stores.length with hlt | hge
      · exact List.getElem?_append_left hlt
      · have hlong : (stores ++ [Store.empty]).length ≤ other := by
          simp only [List.length_append, List.length_singleton]
          omega
        exact (List.getElem?_eq_none hlong).trans (List.getElem?_eq_none hge).symm

def turns : List Visit :=
  [⟨['a'], .put (.bool true) (.str ['x'])⟩, ⟨['b'], .put (.str "True") (.str ['y'])⟩,
    ⟨['a'], .putIfAbsent (.str "True") (.str ['z'])⟩, ⟨['b'], .clear⟩,
    ⟨['a'], .get (.bool true) .null⟩, ⟨['b'], .get (.bool true) .null⟩]

/-- Without the others, the uses of one entry come to what they came to among them. -/
theorem turns_apart :
    let run := (twoCaches.start .shipped ⟨some .supplied, none⟩).run dictionaryPerClient []
    dictionaryPerClient.Dictionaries (fun stores client => stores[client]?) ∧
      ∃ context, run.outcome = .ok context ∧
        ((context.registry.visit turns).run dictionaryPerClient run.state).outcome =
          .ok [.ok .null, .ok .null, .ok (.str ['x']), .ok .null, .ok (.str ['x']), .ok .null] ∧
        ((context.registry.visit (turns.filter (Visit.Concerns ['a'] "True" ·))).run
          dictionaryPerClient run.state).outcome =
          .ok [.ok .null, .ok (.str ['x']), .ok (.str ['x'])] := by
  intro run
  obtain ⟨context, hc, hall⟩ : ∃ context, run.outcome = .ok context ∧
      ((context.registry.visit turns).run dictionaryPerClient run.state).outcome =
        .ok [.ok .null, .ok .null, .ok (.str ['x']), .ok .null, .ok (.str ['x']), .ok .null] :=
    ⟨_, rfl, rfl⟩
  obtain ⟨hstart, hvisits⟩ := entries_apart dictionaryPerClient_apart
  obtain ⟨known, maps, hr⟩ := hstart _ _ _ _ hc
  obtain ⟨hresults, hone, -⟩ := hvisits _ _ _ _ hr turns
  have hserved := Except.ok.inj (hresults.symm.trans hall)
  refine ⟨dictionaryPerClient_apart, context, hc, hall, ?_⟩
  rw [hone, hserved]
  rfl

end CacheWiring
