import CacheWiring.Proofs.Writes
import Mathlib.Tactic.NormNum

namespace CacheWiring

def Value.IsInt (v : Value) : Prop := ∃ n, v = .int n

def Value.IsCount (v : Value) : Prop := v = .null ∨ v.IsInt

def Value.counts (document : Value) : List Value :=
  (document.at? ["spec", "defaultExpiration"]).toList ++
    (document.at? ["spec", "client", "maxPoolSize"]).toList ++
    (((document.at? ["spec", "clusters"]).bind Value.items?).getD []).filterMap
      fun entry => entry.get? "expiration"

def Configuration.counts (c : Configuration) : List Value :=
  c.defaultExpiration :: c.client.maxPoolSize :: c.clusters.map ClusterDeclaration.expiration

theorem forall_getD_null {P : Value → Prop} (hnull : P .null) (field : Option Value) :
    P (field.getD .null) ↔ ∀ v ∈ field.toList, P v := by
  cases field with
  | none => simpa using hnull
  | some v => simp

theorem Configuration.Reflects.forall_counts {c : Configuration} {document : Value}
    (hc : c.Reflects document) {P : Value → Prop} (hnull : P .null) :
    (∀ v ∈ c.counts, P v) ↔ ∀ v ∈ document.counts, P v := by
  rw [counts, Value.counts, hc.clusterExpirations, hc.defaultExpiration, hc.maxPoolSize,
    List.filterMap_eq_flatMap_toList]
  simp only [List.forall_mem_cons, List.forall_mem_append, List.forall_mem_map,
    List.forall_mem_flatMap, forall_getD_null hnull, and_assoc]

/-- The counts of an accepted document's configuration are absent or whole numbers. -/
theorem Configuration.Reflects.counts_whole {c : Configuration} {document : Value}
    (hc : c.Reflects document) (hd : Grammar.Document document) :
    ∀ v ∈ c.counts, v = .null ∨ ∃ n, v.Whole n := by
  have hexpirations := hc.expirations hd
  have hsize := hc.maxPoolSize_whole hd
  simp only [counts, List.forall_mem_cons] at hexpirations ⊢
  have hwhole (v : Value) (hv : v = .null ∨ v.IsExpiration) : v = .null ∨ ∃ n, v.Whole n :=
    hv.imp_right fun ⟨n, hn, _⟩ => ⟨n, hn⟩
  exact ⟨hwhole _ hexpirations.1, hsize.imp_right fun ⟨n, hn, _⟩ => ⟨n, hn⟩,
    fun v hv => hwhole v (hexpirations.2 v hv)⟩

/-- Whole numbers are integers unless they are doubles. -/
theorem Value.isCount_iff {v : Value} (hv : v = .null ∨ ∃ n, v.Whole n) :
    v.IsCount ↔ ∀ x, v ≠ .float x := by
  constructor
  · intro hcount x hx
    rcases hcount with rfl | ⟨n, rfl⟩
    · cases hx
    · cases hx
  · intro hx
    rcases hv with rfl | ⟨n, hn⟩
    · exact .inl rfl
    · cases hn with
      | int n => exact .inr ⟨n, rfl⟩
      | float _ => exact absurd rfl (hx _)

/-- Each cache can be used, so that writes carry integers only where all caches have them. -/
theorem writes_integral_iff {σ : Type} (h : Handler σ) (caches : List Cache) (s : σ) :
    (∀ uses : List Use, (∀ use ∈ uses, use.cache ∈ caches) →
        ∀ write ∈ writes ((perform uses).run h s).trace, write.expire.IsInt) ↔
      ∀ cache ∈ caches, cache.expiration.IsInt := by
  simp only [writes_run_perform]
  constructor
  · intro hwrites cache hm
    -- one put is enough to see what a cache writes
    exact hwrites [⟨cache, .put .null .null⟩] (by simpa using hm) _ List.mem_cons_self
  · intro hcaches uses hu write hw
    obtain ⟨use, hm, hw⟩ := List.mem_flatMap.mp hw
    rw [(expire_of_mem_writes hw).2]
    exact hcaches use.cache (hu use hm)

/-- The configuration of an accepted document has whole numbers for counts, and integers exactly when
no count of the document is a double. All writes of its caches carry integers then; in general they
do exactly when the caches have no double, be it their own or the default. -/
theorem counts_of_accepted {σ : Type} (h : Handler σ) (document : Value)
    (accepted : checkDocument document = .ok []) (given : Supplied) (s s' : σ) :
    ∃ c, Configuration.ofDocument document = .ok c ∧
      (∀ v ∈ c.counts, v = .null ∨ ∃ n, v.Whole n) ∧
      ((∀ v ∈ c.counts, v.IsCount) ↔ ∀ v ∈ document.counts, ∀ x, v ≠ .float x) ∧
      ∀ context, ((c.start .shipped given).run h s).outcome = .ok context →
        c.Expires context.registry.caches ∧
        ((∀ v ∈ document.counts, ∀ x, v ≠ .float x) →
          ∀ cache ∈ context.registry.caches, cache.expiration.IsInt) ∧
        ((∀ uses : List Use, (∀ use ∈ uses, use.cache ∈ context.registry.caches) →
            ∀ write ∈ writes ((perform uses).run h s').trace, write.expire.IsInt) ↔
          ∀ cache ∈ context.registry.caches, cache.expiration.IsInt) := by
  have hd := document_of_checkDocument accepted
  obtain ⟨c, hc, hreflects⟩ := Configuration.ofDocument_document hd
  have hwhole := hreflects.counts_whole hd
  have hinteger : (∀ v ∈ c.counts, v.IsCount) ↔ ∀ v ∈ document.counts, ∀ x, v ≠ .float x := by
    rw [← hreflects.forall_counts (by simp)]
    exact forall₂_congr fun v hv => Value.isCount_iff (hwhole v hv)
  refine ⟨c, hc, hwhole, hinteger, fun context hstart => ?_⟩
  have hexpires := start_expires h hstart
  refine ⟨hexpires, fun hx => ?_, writes_integral_iff h _ s'⟩
  have hcounts := hinteger.mpr hx
  simp only [Configuration.counts, List.forall_mem_cons] at hcounts
  exact hexpires.each ⟨0, rfl⟩ (List.forall_mem_cons.mpr ⟨hcounts.1, hcounts.2.2⟩)

def Binary64.twelve : Binary64 := .finite false 6755399441055744 (-49) (by decide)

theorem Binary64.value?_twelve : twelve.value? = some 12 := by
  norm_num [twelve, value?]

theorem webDocument_twelve_accepted :
    checkDocument (webDocument (.float .twelve)) = .ok [] :=
  checkDocument_of_problems rfl (by decide +kernel)

theorem webConfiguration_of_twelve :
    Configuration.ofDocument (webDocument (.float .twelve)) =
      .ok (webConfiguration (.float .twelve)) := rfl

/-- A default that is written 12.0 comes to the cache without an explicit expiration, and to
writes. -/
theorem twelve_is_written :
    Binary64.twelve.value? = some 12 ∧
      checkDocument (webDocument (.float .twelve)) = .ok [] ∧ ∃ context,
      (((webConfiguration (.float .twelve)).start .shipped ⟨some .supplied, none⟩).run
        hostPerCluster ()).outcome = .ok context ∧
      context.registry.caches = [⟨.str "a", 7, .int 0⟩, ⟨.str "b", 7, .float .twelve⟩] ∧
      ¬ ∀ uses : List Use, (∀ use ∈ uses, use.cache ∈ context.registry.caches) →
        ∀ write ∈ writes ((perform uses).run hostPerCluster ()).trace, write.expire.IsInt := by
  obtain ⟨c, hc, -, -, hstarted⟩ := counts_of_accepted hostPerCluster
    (webDocument (.float .twelve)) webDocument_twelve_accepted ⟨some .supplied, none⟩ () ()
  obtain rfl := Except.ok.inj (webConfiguration_of_twelve.symm.trans hc)
  refine ⟨Binary64.value?_twelve, webDocument_twelve_accepted, _, rfl, rfl, fun hintegral => ?_⟩
  obtain ⟨-, -, hwrites⟩ := hstarted _ rfl
  obtain ⟨n, hn⟩ := hwrites.mp hintegral ⟨.str "b", 7, .float .twelve⟩ (.tail _ (.head _))
  cases hn

theorem not_every_accepted_count_is_an_integer :
    ¬ ∀ document c, checkDocument document = .ok [] →
      Configuration.ofDocument document = .ok c → ∀ v ∈ c.counts, v.IsCount := by
  intro hall
  have hcount := hall _ _ webDocument_twelve_accepted webConfiguration_of_twelve
    (.float .twelve) List.mem_cons_self
  rcases hcount with hnull | ⟨n, hn⟩
  · cases hnull
  · cases hn

end CacheWiring
