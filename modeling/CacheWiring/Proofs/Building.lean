import CacheWiring.Proofs.Names
import CacheWiring.Proofs.Teardown

namespace CacheWiring.Registry

variable {σ : Type} (h : Handler σ) (engines : Engines) (options : ClientOptions)

/-- While the factories succeed, building only collects their caches. -/
theorem run_bindAll_ok (built : List Cache) {caches : List Cache} {clusters : List ResolvedCluster}
    {s s' : σ} {trace : List Happening}
    (hc : (Program.each (bindCluster engines options) clusters).run h s = ⟨.ok caches, s', trace⟩) :
    (bindAll engines options built clusters).run h s = ⟨.ok (built ++ caches), s', trace⟩ := by
  induction clusters generalizing built caches s s' trace with
  | nil =>
    cases hc
    simp [bindAll]
  | cons cluster rest ih =>
    rw [Program.run_each_cons] at hc
    simp only [bindAll, Program.run_bind, Program.run_rescue]
    generalize (bindCluster engines options cluster).run h s = first at hc ⊢
    obtain ⟨outcome, s₁, trace₁⟩ := first
    cases outcome with
    | error fault => cases hc
    | ok cache =>
      simp only [Program.rescued_ok, Run.andThen_ok] at hc ⊢
      generalize ho : (Program.each (bindCluster engines options) rest).run h s₁ = others at hc
      obtain ⟨outcome, s₂, trace₂⟩ := others
      cases outcome with
      | error fault => cases hc
      | ok more =>
        cases hc
        simp [ih (built ++ [cache]) ho]

/-- The caches that are closed after a fault. A stop passes them by. -/
def closedAfter (fault : Fault) (built : List Cache) : List Cache :=
  if fault.isStop then [] else built

@[simp] theorem closedAfter_stop (reason : Stop) (built : List Cache) :
    closedAfter (.stop reason) built = [] := rfl

theorem closedAfter_error {fault : Fault} (hs : fault.isStop = false) (built : List Cache) :
    closedAfter fault built = built := by
  simp [closedAfter, hs]

/-- The first factory that fails is the last one called, and then the caches built so far are closed
unless it stops the program. -/
theorem run_bindAll_error (built : List Cache) {clusters : List ResolvedCluster} {fault : Fault}
    {s s' : σ} {trace : List Happening}
    (hc : (Program.each (bindCluster engines options) clusters).run h s =
      ⟨.error fault, s', trace⟩) :
    (bindAll engines options built clusters).run h s =
      (Run.mk (.ok ()) s' trace).andThen fun _ s' =>
        ((closeAll (closedAfter fault
          (built ++ Program.collected h (bindCluster engines options) clusters s))).run h
            s').andThen fun _ s'' => ⟨.error fault, s'', []⟩ := by
  induction clusters generalizing built s trace with
  | nil => cases hc
  | cons cluster rest ih =>
    rw [Program.run_each_cons] at hc
    simp only [bindAll, Program.run_bind, Program.run_rescue, Program.collected]
    generalize (bindCluster engines options cluster).run h s = first at hc ⊢
    obtain ⟨outcome, s₁, trace₁⟩ := first
    cases outcome with
    | error other =>
      cases hc
      cases hs : fault.isStop with
      | true => simp [Program.rescued, closedAfter, hs, closeAll, Program.run_bind]
      | false => simp [Program.rescued, closedAfter, hs, Program.run_bind]
    | ok cache =>
      simp only [Program.rescued_ok, Run.andThen_ok] at hc ⊢
      generalize ho : (Program.each (bindCluster engines options) rest).run h s₁ = others at hc
      obtain ⟨outcome, s₂, trace₂⟩ := others
      cases outcome with
      | ok more => cases hc
      | error other =>
        cases hc
        rw [ih _ ho]
        simp

theorem run_build_conflict {clusters : List ResolvedCluster} {fault : Fault}
    (hf : nameConflict? [] (clusters.map ResolvedCluster.logicalName) = some fault) (s : σ) :
    (build engines clusters options).run h s = ⟨.error fault, s, []⟩ := by
  simp [build, hf]

theorem ofCaches_ok {caches : List Cache} (hn : nameConflict? [] (caches.map Cache.name) = none) :
    ofCaches caches = .ok ⟨caches, hn⟩ := by
  unfold ofCaches
  split
  · rename_i fault hf
    cases hn.symm.trans hf
  · rfl

theorem ofCaches_error {caches : List Cache} {fault : Fault}
    (hf : nameConflict? [] (caches.map Cache.name) = some fault) :
    ofCaches caches = .error fault := by
  unfold ofCaches
  split
  · rename_i other ho
    cases ho.symm.trans hf
    rfl
  · rename_i hn
    cases hn.symm.trans hf

def builtRecord (texts : List Text) : LogRecord :=
  ⟨.info, .registry, "cache registry built: " ++ listed texts "(empty)"⟩

/-- Caches under distinct texts become the registry. -/
theorem run_build_distinct {clusters : List ResolvedCluster} {caches : List Cache} {s s' : σ}
    {trace : List Happening}
    (hn : nameConflict? [] (clusters.map ResolvedCluster.logicalName) = none)
    (hc : (Program.each (bindCluster engines options) clusters).run h s = ⟨.ok caches, s', trace⟩)
    {texts : List Text} (hnames : caches.map Cache.name = texts.map Value.str)
    (hd : texts.Nodup) :
    ∃ registry, registry.caches = caches ∧ (build engines clusters options).run h s =
      ⟨.ok registry, s', trace ++ [.said (.log (builtRecord texts))]⟩ := by
  have hdistinct : nameConflict? [] (caches.map Cache.name) = none :=
    (no_conflict_iff hnames).mpr hd
  have htexts : nameTexts ⟨caches, hdistinct⟩ = .ok texts := (mapM_toStr_iff _ _).mpr hnames
  refine ⟨⟨caches, hdistinct⟩, rfl, ?_⟩
  simp [build, hn, Program.run_bind, run_bindAll_ok h engines options [] hc,
    ofCaches_ok hdistinct, htexts, builtRecord]

/-- What is left to do with built caches: they become the registry. -/
theorem run_build_bound {clusters : List ResolvedCluster} {caches : List Cache} {s s' : σ}
    {trace : List Happening}
    (hn : nameConflict? [] (clusters.map ResolvedCluster.logicalName) = none)
    (hc : (Program.each (bindCluster engines options) clusters).run h s = ⟨.ok caches, s', trace⟩) :
    (∃ registry record, registry.caches = caches ∧ DistinctNames (caches.map Cache.name) ∧
        (build engines clusters options).run h s =
          ⟨.ok registry, s', trace ++ [.said (.log record)]⟩) ∨
      (∃ fault, ¬ DistinctNames (caches.map Cache.name) ∧
        (build engines clusters options).run h s = ⟨.error fault, s', trace⟩) := by
  by_cases hd : DistinctNames (caches.map Cache.name)
  · left
    obtain ⟨texts, hnames, hnodup⟩ := hd
    obtain ⟨registry, hcaches, hrun⟩ := run_build_distinct h engines options hn hc hnames hnodup
    exact ⟨registry, builtRecord texts, hcaches, ⟨texts, hnames, hnodup⟩, hrun⟩
  · right
    have hb := run_bindAll_ok h engines options [] hc
    simp only [build, hn, Program.run_bind, hb, Run.andThen_ok, Program.run_ofExcept,
      List.nil_append]
    -- the registry refuses the caches, or their names cannot be listed
    cases hnames : nameConflict? [] (caches.map Cache.name) with
    | some fault => exact ⟨fault, hd, by simp [ofCaches_error hnames]⟩
    | none =>
      cases htexts : nameTexts ⟨caches, hnames⟩ with
      | error fault => exact ⟨fault, hd, by simp [ofCaches_ok hnames, htexts]⟩
      | ok texts => exact absurd ((distinctNames_iff _).mpr ⟨hnames, texts, htexts⟩) hd

section

variable {engines options} {allowed : Happening → Prop}
  (hbind : ∀ cluster, (bindCluster engines options cluster).Only allowed)
  (hclose : ∀ client reply, allowed (.asked (.call client .close) reply))

include hbind hclose

/-- Clusters are bound, and caches are closed when that fails. -/
theorem bindAll_only (built : List Cache) (clusters : List ResolvedCluster) :
    (bindAll engines options built clusters).Only allowed := by
  induction clusters generalizing built with
  | nil => exact .pure _
  | cons cluster rest ih =>
    apply (hbind cluster).rescue.bind
    intro outcome
    cases outcome with
    | ok cache => exact ih _
    | error fault => exact (closeAll_only hclose built).bind fun _ => .fail _

theorem build_only (hlog : ∀ record, allowed (.said (.log record)))
    (clusters : List ResolvedCluster) : (build engines clusters options).Only allowed := by
  unfold build
  cases nameConflict? [] (clusters.map ResolvedCluster.logicalName) with
  | some fault => exact .fail _
  | none =>
    apply (bindAll_only hbind hclose [] clusters).bind
    intro _
    refine (Program.Only.ofExcept _).bind fun _ => (Program.Only.ofExcept _).bind fun _ => ?_
    exact (Program.Only.log (hlog _)).bind fun _ => .pure _

end

/-- Caches closed on the way out with a fault: a fault of their own goes before it. -/
theorem run_closeAll_fail (α : Type) (caches : List Cache) (fault : Fault) (s : σ) :
    (((closeAll caches).run h s).andThen fun _ s =>
        (⟨.error fault, s, []⟩ : Run σ α)).outcome =
        .error ((closeFault? (closeOutcomes h caches s)).getD fault) ∧
      closings (((closeAll caches).run h s).andThen fun _ s =>
          (⟨.error fault, s, []⟩ : Run σ α)).trace =
        (caches.take (closeReach (closeOutcomes h caches s))).map Cache.client := by
  obtain ⟨hpass, hasked⟩ := run_closeAll h caches s
  generalize (closeAll caches).run h s = closing at hpass hasked ⊢
  obtain ⟨outcome, s', after⟩ := closing
  dsimp only at hpass hasked
  rw [← hasked]
  cases hf : closeFault? (closeOutcomes h caches s) with
  | none =>
    simp only [closePass, hf] at hpass
    subst hpass
    simp
  | some other =>
    simp only [closePass, hf] at hpass
    subst hpass
    exact ⟨rfl, rfl⟩

/-- A factory that fails ends the build: the caches built before it are closed in one pass unless it
stops the program, and only a fault of that pass takes the place of its own. -/
theorem run_build_failing {clusters : List ResolvedCluster} {fault : Fault} {built : List Cache}
    {s s' : σ} {trace : List Happening}
    (hn : nameConflict? [] (clusters.map ResolvedCluster.logicalName) = none)
    (hc : (Program.each (bindCluster engines options) clusters).run h s =
      ⟨.error fault, s', trace⟩)
    (hb : Program.collected h (bindCluster engines options) clusters s = built) :
    let closed := closedAfter fault built
    ((build engines clusters options).run h s).outcome =
        .error ((closeFault? (closeOutcomes h closed s')).getD fault) ∧
      closings ((build engines clusters options).run h s).trace =
        closings trace ++
          (closed.take (closeReach (closeOutcomes h closed s'))).map Cache.client := by
  intro closed
  obtain ⟨hfault, hasked⟩ := run_closeAll_fail h (List Cache) closed fault s'
  have hbind := run_bindAll_error h engines options [] hc
  rw [hb, List.nil_append, Run.andThen_ok] at hbind
  simp only [build, hn, Program.run_bind, hbind]
  rw [hfault, Run.andThen_error, closings_append, hasked]
  exact ⟨rfl, rfl⟩

theorem caches_inj {r r' : Registry} (hr : r.caches = r'.caches) : r = r' := by
  obtain ⟨caches, hn⟩ := r
  cases hr
  rfl

/-- A build succeeds when no logical name occurs twice, every factory returns, and the names that
their caches have are distinct. -/
theorem build_ok_iff (clusters : List ResolvedCluster) (s : σ) (registry : Registry) :
    ((build engines clusters options).run h s).outcome = .ok registry ↔
      nameConflict? [] (clusters.map ResolvedCluster.logicalName) = none ∧
        ((Program.each (bindCluster engines options) clusters).run h s).outcome =
          .ok registry.caches ∧
        DistinctNames registry.names := by
  cases hn : nameConflict? [] (clusters.map ResolvedCluster.logicalName) with
  | some fault => simp [run_build_conflict h engines options hn s]
  | none =>
    generalize hc : (Program.each (bindCluster engines options) clusters).run h s = calls
    obtain ⟨outcome, s', trace⟩ := calls
    cases outcome with
    | error fault =>
      have hfailing := (run_build_failing h engines options hn hc rfl).1
      simp [hfailing]
    | ok caches =>
      rcases run_build_bound h engines options hn hc with
        ⟨built, record, rfl, hdistinct, hrun⟩ | ⟨fault, hclash, hrun⟩
      · rw [hrun]
        constructor
        · intro hp
          cases hp
          exact ⟨rfl, rfl, hdistinct⟩
        · intro hp
          obtain ⟨-, hsame, -⟩ := hp
          rw [caches_inj (Except.ok.inj hsame)]
      · rw [hrun]
        constructor
        · intro hp
          cases hp
        · intro hp
          obtain ⟨-, hsame, hdistinct⟩ := hp
          obtain rfl : caches = registry.caches := Except.ok.inj hsame
          exact absurd hdistinct hclash

/-- A build that succeeds does nothing but call the factories and say so. -/
theorem build_ok_trace {clusters : List ResolvedCluster} {s : σ} {registry : Registry}
    (hr : ((build engines clusters options).run h s).outcome = .ok registry) :
    ∃ record, ((build engines clusters options).run h s).trace =
      ((Program.each (bindCluster engines options) clusters).run h s).trace ++
        [.said (.log record)] := by
  obtain ⟨hn, hcaches, hdistinct⟩ := (build_ok_iff h engines options clusters s registry).mp hr
  generalize hc : (Program.each (bindCluster engines options) clusters).run h s = calls at hcaches ⊢
  obtain ⟨outcome, s', trace⟩ := calls
  cases hcaches
  rcases run_build_bound h engines options hn hc with
    ⟨_, record, -, -, hrun⟩ | ⟨_, hclash, -⟩
  · exact ⟨record, congrArg Run.trace hrun⟩
  · exact absurd hdistinct hclash

end CacheWiring.Registry
