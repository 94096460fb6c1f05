import CacheWiring.Proofs.FactoryCalls

namespace CacheWiring.Registry

variable {r : Registry} {known : List Text}

/-- The earliest name that has occurred before. -/
def FirstRepeated (texts : List Text) (t : Text) : Prop :=
  ∃ before after, texts = before ++ t :: after ∧ before.Nodup ∧ t ∈ before

structure Under (r : Registry) (t : Text) (cache : Cache) : Prop where
  mem : cache ∈ r.caches
  named : cache.name = .str t
  only : ∀ other ∈ r.caches, other.name = .str t → other = cache

theorem FirstRepeated.not_nodup {texts : List Text} {t : Text} (hf : FirstRepeated texts t) :
    ¬ texts.Nodup := by
  obtain ⟨before, after, rfl, -, ht⟩ := hf
  intro hn
  exact (List.nodup_append.mp hn).2.2 t ht t List.mem_cons_self rfl

/-- Where no name is repeated all of them are distinct. -/
theorem repeated_or_nodup (texts : List Text) : (∃ t, FirstRepeated texts t) ∨ texts.Nodup := by
  cases hc : nameConflict? [] (texts.map Value.str) with
  | none => exact .inr ((no_conflict_iff rfl).mp hc)
  | some fault =>
    obtain ⟨before, t, after, ht, hbefore, hm, -⟩ := repetition_of_conflict List.nodup_nil hc
    exact .inl ⟨t, before, after, ht, hbefore, hm⟩

section

variable {caches : List Cache} {texts : List Text}
  (named : caches.map Cache.name = texts.map Value.str)

include named

theorem ofCaches_of_nodup (hn : texts.Nodup) :
    ∃ r, ofCaches caches = .ok r ∧ r.caches = caches ∧ r.names = texts.map Value.str := by
  have hnone : nameConflict? [] (caches.map Cache.name) = none := (no_conflict_iff named).mpr hn
  exact ⟨_, ofCaches_ok hnone, rfl, named⟩

theorem ofCaches_of_repeated {t : Text} (hf : FirstRepeated texts t) :
    ofCaches caches = .error (.duplicateName (.str t)) := by
  obtain ⟨before, after, rfl, hbefore, ht⟩ := hf
  apply ofCaches_error
  rw [named]
  exact @conflict_of_repetition [] before t after hbefore ht

end

theorem under_of_mem (hk : r.names = known.map Value.str) {cache : Cache} {name : Text}
    (hm : cache ∈ r.caches) (hn : cache.name = .str name) : r.Under name cache :=
  ⟨hm, hn, fun _ ho he => eq_of_name hk hm ho (he.trans hn.symm)⟩

/-- A cache of the registry is what a request for its name comes to. -/
theorem request_of_mem (hk : r.names = known.map Value.str) {cache : Cache} (hm : cache ∈ r.caches) :
    r.request cache.name = .ok cache := by
  obtain ⟨name, hn, he⟩ := name_of_mem hk hm
  obtain ⟨other, ho, hother, hr⟩ := request_known hk hn
  rw [he, hr, eq_of_name hk hm ho (hother.trans he.symm)]

/-- Known names lead to their caches in the order of the request. -/
theorem requestAll_known (hk : r.names = known.map Value.str) {requested : List Text}
    (hr : ∀ t ∈ requested, t ∈ known) :
    ∃ found, r.requestAll (requested.map Value.str) = .ok found ∧
      List.Forall₂ r.Under requested found := by
  have hone : ∀ v ∈ requested.map Value.str, ∃ cache, r.request v = .ok cache ∧
      ∃ t, v = .str t ∧ r.Under t cache := by
    intro v hv
    obtain ⟨t, ht, rfl⟩ := List.mem_map.mp hv
    obtain ⟨cache, hm, hn, hc⟩ := request_known hk (hr t ht)
    exact ⟨cache, hc, t, rfl, under_of_mem hk hm hn⟩
  obtain ⟨found, hf, hall⟩ := mapM_total hone
  refine ⟨found, hf, (List.forall₂_map_left_iff.mp hall).imp fun t cache hu => ?_⟩
  obtain ⟨u, he, hu⟩ := hu
  cases he
  exact hu

/-- The first name that is not known ends a request, whatever comes after it. -/
theorem requestAll_unknown (hk : r.names = known.map Value.str) {before : List Text} {t : Text}
    (hb : ∀ u ∈ before, u ∈ known) (ht : t ∉ known) (after : List Text) :
    r.requestAll ((before ++ t :: after).map Value.str) =
      .error (.cacheNotFound (.str t) known) := by
  obtain ⟨found, hf, -⟩ := requestAll_known hk hb
  rw [requestAll] at hf ⊢
  rw [List.map_append, List.map_cons, List.mapM_append, bind_of_ok hf, List.mapM_cons,
    request_unknown hk ht]
  rfl

theorem requestAll_names (hk : r.names = known.map Value.str) :
    r.requestAll r.names = .ok r.caches := by
  rw [requestAll, mapM_eq_ok_iff, names, List.forall₂_map_left_iff, List.forall₂_same]
  exact fun cache hm => request_of_mem hk hm

/-- Caches are refused exactly when a name occurs twice, with the earliest that has occurred before.
Otherwise the registry has their names in their order, each leading to its own cache, and a request
for names comes to their caches in the order of the request, or fails over the first that is not
known and tells all that are. -/
theorem registry_is_dictionary {caches : List Cache} {texts : List Text}
    (named : caches.map Cache.name = texts.map Value.str) :
    ((∃ fault, ofCaches caches = .error fault) ↔ ¬ texts.Nodup) ∧
      (∀ fault, ofCaches caches = .error fault ↔
        ∃ t, FirstRepeated texts t ∧ fault = .duplicateName (.str t)) ∧
      ∀ r, ofCaches caches = .ok r →
        r.names = texts.map Value.str ∧ texts.Nodup ∧ r.size = caches.length ∧
        List.Forall₂ (fun name cache => r.get name = .ok cache) r.names caches ∧
        r.requestAll r.names = .ok caches ∧
        ∀ requested : List Text,
          ((∀ t ∈ requested, t ∈ texts) →
            ∃ found, r.requestAll (requested.map Value.str) = .ok found ∧
              List.Forall₂ r.Under requested found) ∧
          ∀ before t after, requested = before ++ t :: after → (∀ u ∈ before, u ∈ texts) →
            t ∉ texts → r.requestAll (requested.map Value.str) =
              .error (.cacheNotFound (.str t) texts) := by
  have hfault : ∀ fault, ofCaches caches = .error fault ↔
      ∃ t, FirstRepeated texts t ∧ fault = .duplicateName (.str t) := by
    intro fault
    constructor
    · intro hf
      rcases repeated_or_nodup texts with ⟨t, ht⟩ | hn
      · exact ⟨t, ht, Except.error.inj (hf.symm.trans (ofCaches_of_repeated named ht))⟩
      · obtain ⟨r, hr, -⟩ := ofCaches_of_nodup named hn
        cases hf.symm.trans hr
    · intro hp
      obtain ⟨t, ht, rfl⟩ := hp
      exact ofCaches_of_repeated named ht
  refine ⟨?_, hfault, ?_⟩
  · constructor
    · intro hp
      obtain ⟨fault, hf⟩ := hp
      obtain ⟨t, ht, -⟩ := (hfault fault).mp hf
      exact ht.not_nodup
    · intro hn
      obtain ⟨t, ht⟩ := (repeated_or_nodup texts).resolve_right hn
      exact ⟨_, ofCaches_of_repeated named ht⟩
  · intro r hr
    have hn : texts.Nodup := by
      rcases repeated_or_nodup texts with ⟨t, ht⟩ | hn
      · cases hr.symm.trans (ofCaches_of_repeated named ht)
      · exact hn
    obtain ⟨r', hr', rfl, hk⟩ := ofCaches_of_nodup named hn
    obtain rfl := Except.ok.inj (hr.symm.trans hr')
    refine ⟨hk, hn, rfl, ?_, requestAll_names hk, fun requested => ⟨requestAll_known hk, ?_⟩⟩
    · rw [names, List.forall₂_map_left_iff, List.forall₂_same]
      exact fun cache hm => get_of_mem hk hm
    · rintro before t after rfl hb ht
      exact requestAll_unknown hk hb ht after

def namesakes : List Cache :=
  [⟨.str ['a'], 0, .int 0⟩, ⟨.str ['b'], 1, .int 0⟩, ⟨.str ['a'], 2, .int 0⟩]

/-- All three are refused. The first two are not, and can be asked for in any order. -/
theorem namesakes_refused :
    ofCaches namesakes = .error (.duplicateName (.str ['a'])) ∧
      ∃ r, ofCaches (namesakes.take 2) = .ok r ∧
        r.requestAll [.str ['b'], .str ['c'], .str ['d']] =
          .error (.cacheNotFound (.str ['c']) [['a'], ['b']]) := by
  obtain ⟨-, hfault, -⟩ := @registry_is_dictionary namesakes [['a'], ['b'], ['a']] rfl
  obtain ⟨hrefused, -, hlaws⟩ := @registry_is_dictionary (namesakes.take 2) [['a'], ['b']] rfl
  refine ⟨(hfault _).mpr ⟨['a'], ⟨[['a'], ['b']], [], rfl, by decide, by decide⟩, rfl⟩, ?_⟩
  cases hr : ofCaches (namesakes.take 2) with
  | error fault => exact absurd (by decide) (hrefused.mp ⟨fault, hr⟩)
  | ok r =>
    obtain ⟨-, -, -, -, -, hrequests⟩ := hlaws r hr
    exact ⟨r, rfl, (hrequests [['b'], ['c'], ['d']]).2 [['b']] ['c'] [['d']] rfl (by decide)
      (by decide)⟩

end CacheWiring.Registry
