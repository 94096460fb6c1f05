import CacheWiring.Proofs.AllOrNothing
import CacheWiring.Proofs.Writes

namespace CacheWiring

variable {σ : Type} (h : Handler σ)

inductive Deed where
  | close
  | leave (outcome : Except Fault Value)
  | use (use : Use)

namespace Deed

def Closing : Deed → Prop
  | .use _ => False
  | _ => True

/-- What an attempt comes to when nothing is wrong with it. -/
def result : Deed → Except Fault Value
  | .leave outcome => outcome
  | _ => .ok .null

end Deed

namespace CachingContext

def undergo (context : CachingContext) : Deed → Program (Except Fault Value × CachingContext)
  | .close => do
    match ← context.close.attempt with
    | .ok closed => return (.ok .null, closed)
    | .error fault => return (.error fault, context)
  | .leave outcome => context.leave outcome
  | .use use => do
    let outcome ← (use.operation.on use.cache).attempt
    return (outcome, context)

def live (context : CachingContext) : List Deed → Program CachingContext
  | [] => return context
  | deed :: rest => do
    let (_, next) ← context.undergo deed
    next.live rest

/-- An attempt in which every cache is asked to close, and is closed. -/
def ClosesAll (context : CachingContext) (deed : Deed) (s : σ) : Prop :=
  deed.Closing ∧ calls ((context.undergo deed).run h s).trace =
    context.registry.caches.map Cache.closing

def SomeClosesAll (context : CachingContext) (deeds : List Deed) (s : σ) : Prop :=
  ∃ before deed after now, deeds = before ++ deed :: after ∧
    ((context.live before).run h s).outcome = .ok now ∧
    now.ClosesAll h deed ((context.live before).run h s).state

end CachingContext

def Happening.announced? : Happening → Option LogRecord
  | .said (.log record) => if record.source = .context then some record else none
  | _ => none

/-- What contexts have put into the log. -/
def announcements (trace : List Happening) : List LogRecord :=
  trace.filterMap Happening.announced?

@[simp] theorem announcements_nil : announcements [] = [] := rfl

@[simp] theorem announcements_append (before after : List Happening) :
    announcements (before ++ after) = announcements before ++ announcements after :=
  List.filterMap_append

/-- No client is closed, and the log has nothing of a context. -/
def Happening.Elsewhere (happening : Happening) : Prop :=
  happening.closed? = none ∧ happening.announced? = none

theorem operation_elsewhere (use : Use) :
    (use.operation.on use.cache).Only Happening.Elsewhere := by
  have hcloses : .close ∉ use.calls := by
    obtain ⟨cache, operation⟩ := use
    cases operation <;> simp [Use.calls, Cache.mem_underText]
  refine use.only fun c hc reply => ?_
  cases c with
  | close => exact absurd hc hcloses
  | _ => exact ⟨rfl, rfl⟩

/-- What a deed can be. A use leaves the context alone; an attempt on a closed context does nothing;
an attempt on an open one is a pass over its caches, and only one without a fault closes it. -/
inductive Undergoes (context : CachingContext) (s : σ) :
    Deed → Run σ (Except Fault Value × CachingContext) → Prop
  | used {use : Use} {outcome : Except Fault Value} {s' : σ} {trace : List Happening}
      (hc : closings trace = []) (ha : announcements trace = []) :
      Undergoes context s (.use use) ⟨.ok (outcome, context), s', trace⟩
  | idle {deed : Deed} (hd : deed.Closing) (hc : context.closed = true) :
      Undergoes context s deed ⟨.ok (deed.result, context), s, []⟩
  | failed {deed : Deed} {pass : Run σ Unit} {fault : Fault} (hd : deed.Closing)
      (ho : context.closed = false)
      (hp : (Registry.closeAll context.registry.caches).run h s = pass)
      (hf : pass.outcome = .error fault) :
      Undergoes context s deed ⟨.ok (.error fault, context), pass.state, pass.trace⟩
  | passed {deed : Deed} {pass : Run σ Unit} (hd : deed.Closing) (ho : context.closed = false)
      (hp : (Registry.closeAll context.registry.caches).run h s = pass)
      (hf : pass.outcome = .ok ()) :
      Undergoes context s deed ⟨.ok (deed.result, { context with closed := true }), pass.state,
        pass.trace ++ [.said (.log closedRecord)]⟩

theorem run_leave_cases (context : CachingContext) (deed : Deed) (hd : deed.Closing) (s : σ) :
    Undergoes h context s deed ((context.leave deed.result).run h s) := by
  rw [run_leave]
  cases hc : context.closed with
  | true =>
    have hidle : context.close.run h s = ⟨.ok context, s, []⟩ := by simp [CachingContext.close, hc]
    rw [hidle]
    exact .idle hd hc
  | false =>
    rw [run_close_open h hc]
    generalize hp : (Registry.closeAll context.registry.caches).run h s = pass
    obtain ⟨outcome, s', trace⟩ := pass
    cases outcome with
    | error fault => exact .failed hd hc hp rfl
    | ok _ => exact .passed hd hc hp rfl

theorem run_undergo (context : CachingContext) (deed : Deed) (s : σ) :
    Undergoes h context s deed ((context.undergo deed).run h s) := by
  cases deed with
  | close => exact run_leave_cases h context .close trivial s
  | leave outcome => exact run_leave_cases h context (.leave outcome) trivial s
  | use use =>
    simp only [CachingContext.undergo, Program.run_bind, Program.run_attempt, Run.andThen_ok,
      Program.run_pure, List.append_nil]
    refine .used ?_ ?_
    · exact List.filterMap_eq_nil_iff.mpr fun _ hm => ((operation_elsewhere use).of_mem h hm).1
    · exact List.filterMap_eq_nil_iff.mpr fun _ hm => ((operation_elsewhere use).of_mem h hm).2

variable {h} {context : CachingContext} {s : σ}

theorem run_live_cons (deed : Deed) (rest : List Deed) :
    (context.live (deed :: rest)).run h s =
      ((context.undergo deed).run h s).andThen fun done s => (done.2.live rest).run h s :=
  Program.run_bind h (context.undergo deed) _ s

/-- A closed context stays as it is, and so do its caches. -/
theorem live_of_closed (context : CachingContext) (hc : context.closed = true) (deeds : List Deed) (s : σ) :
    let lived := (context.live deeds).run h s
    lived.outcome = .ok context ∧ closings lived.trace = [] ∧ announcements lived.trace = [] := by
  induction deeds generalizing s with
  | nil => exact ⟨rfl, rfl, rfl⟩
  | cons deed rest ih =>
    have hdone := run_undergo h context deed s
    rw [run_live_cons]
    generalize (context.undergo deed).run h s = done at hdone ⊢
    cases hdone with
    | @used use outcome s' trace hclosings hannounced =>
      simpa [hclosings, hannounced] using ih s'
    | idle => simpa using ih s
    | failed hd ho => simp [hc] at ho
    | passed hd ho => simp [hc] at ho

/-- Every deed has its turn, and nothing of a context changes but whether it is closed. -/
theorem live_ok (context : CachingContext) (deeds : List Deed) (s : σ) :
    ∃ closed, ((context.live deeds).run h s).outcome = .ok { context with closed := closed } := by
  induction deeds generalizing context s with
  | nil => exact ⟨context.closed, rfl⟩
  | cons deed rest ih =>
    have hdone := run_undergo h context deed s
    rw [run_live_cons]
    generalize (context.undergo deed).run h s = done at hdone ⊢
    cases hdone with
    | used _ _ => exact ih context _
    | idle _ _ => exact ih context _
    | failed _ _ _ _ => exact ih context _
    | passed _ _ _ _ => exact ih { context with closed := true } _

/-- A deed leaves the context closed if it was closed or all of its caches are closed now. -/
theorem closed_undergo_iff {deed : Deed} {outcome : Except Fault Value} {next : CachingContext}
    {s' : σ} {trace : List Happening}
    (hdone : (context.undergo deed).run h s = ⟨.ok (outcome, next), s', trace⟩) :
    next.closed = true ↔ context.closed = true ∨ context.ClosesAll h deed s := by
  have hu := run_undergo h context deed s
  unfold CachingContext.ClosesAll
  rw [hdone] at hu ⊢
  cases hu with
  | used _ _ => simp [Deed.Closing]
  | idle hd hc => simp [hc]
  | @failed _ pass fault hd ho hp hf =>
    have hcalls := (calls_closeAll_iff h context.registry.caches s).not.mpr
    rw [hp, hf] at hcalls
    simp [ho, hcalls]
  | @passed _ pass hd ho hp hf =>
    have hcalls := (calls_closeAll_iff h context.registry.caches s).mpr
    rw [hp] at hcalls
    simp [hd, hcalls hf]

theorem someClosesAll_cons {deed : Deed} {rest : List Deed} {outcome : Except Fault Value}
    {next : CachingContext} {s' : σ} {trace : List Happening}
    (hdone : (context.undergo deed).run h s = ⟨.ok (outcome, next), s', trace⟩) :
    context.SomeClosesAll h (deed :: rest) s ↔
      context.ClosesAll h deed s ∨ next.SomeClosesAll h rest s' := by
  have hcons (before : List Deed) : (context.live (deed :: before)).run h s =
      (Run.mk (.ok (outcome, next)) s' trace).andThen fun done s =>
        (done.2.live before).run h s := by rw [run_live_cons, hdone]
  constructor
  · intro hp
    obtain ⟨before, d, after, now, he, hn, hall⟩ := hp
    cases before with
    | nil =>
      obtain ⟨rfl, -⟩ := List.cons.inj he
      cases hn
      exact .inl hall
    | cons first before =>
      obtain ⟨rfl, hrest⟩ := List.cons.inj he
      rw [hcons] at hn hall
      exact .inr ⟨before, d, after, now, hrest, hn, hall⟩
  · intro hp
    rcases hp with hall | ⟨before, d, after, now, rfl, hn, hall⟩
    · exact ⟨[], deed, rest, context, rfl, rfl, hall⟩
    · refine ⟨deed :: before, d, after, now, rfl, ?_, ?_⟩
      · rw [hcons]
        exact hn
      · rw [hcons]
        exact hall

theorem closed_live_iff {deeds : List Deed} {now : CachingContext}
    (hn : ((context.live deeds).run h s).outcome = .ok now) :
    now.closed = true ↔ context.closed = true ∨ context.SomeClosesAll h deeds s := by
  induction deeds generalizing context s with
  | nil =>
    cases hn
    simp [CachingContext.SomeClosesAll]
  | cons deed rest ih =>
    rw [run_live_cons] at hn
    obtain ⟨⟨outcome, next⟩, hdeed, hrest⟩ := Run.andThen_outcome_ok.mp hn
    generalize hdone : (context.undergo deed).run h s = done at hdeed hrest
    obtain ⟨_, s', trace⟩ := done
    cases hdeed
    rw [ih hrest, closed_undergo_iff hdone, someClosesAll_cons hdone, or_assoc]

theorem announcements_closeAll (caches : List Cache) (s : σ) :
    announcements ((Registry.closeAll caches).run h s).trace = [] := by
  have honly : (Registry.closeAll caches).Only fun happening => happening.announced? = none :=
    closeAll_only (fun _ _ => rfl) caches
  exact List.filterMap_eq_nil_iff.mpr fun _ hm => honly.of_mem h hm

/-- The end of a context is announced once, when it has come. -/
theorem announcements_live (ho : context.closed = false) {deeds : List Deed}
    {now : CachingContext} (hn : ((context.live deeds).run h s).outcome = .ok now) :
    announcements ((context.live deeds).run h s).trace =
      if now.closed = true then [closedRecord] else [] := by
  induction deeds generalizing s with
  | nil =>
    cases hn
    simp [CachingContext.live, ho]
  | cons deed rest ih =>
    have hdone := run_undergo h context deed s
    rw [run_live_cons] at hn ⊢
    generalize (context.undergo deed).run h s = done at hdone hn ⊢
    cases hdone with
    | used _ ha =>
      rw [Run.andThen_ok, announcements_append, ha]
      exact ih hn
    | idle _ hc => simp [hc] at ho
    | failed _ _ hp _ =>
      subst hp
      rw [Run.andThen_ok, announcements_append, announcements_closeAll]
      exact ih hn
    | passed _ _ hp _ =>
      subst hp
      obtain ⟨hlast, -, hsilent⟩ := live_of_closed (h := h)
        { context with closed := true } rfl rest
        ((Registry.closeAll context.registry.caches).run h s).state
      cases hlast.symm.trans hn
      simp only [Run.andThen_ok, announcements_append, hsilent, announcements_closeAll]
      rfl

/-- Where no close fails, the first attempt closes every cache, and no other does anything. -/
theorem live_of_quiet (ho : context.closed = false) {deeds : List Deed}
    (quiet : ∀ client fault,
      ⟨client, .close, .error fault⟩ ∉ calls ((context.live deeds).run h s).trace)
    (hd : ∃ deed ∈ deeds, deed.Closing) :
    let lived := (context.live deeds).run h s
    lived.outcome = .ok { context with closed := true } ∧
      closings lived.trace = context.registry.caches.map Cache.client := by
  induction deeds generalizing s with
  | nil => simp at hd
  | cons deed rest ih =>
    have hdone := run_undergo h context deed s
    rw [run_live_cons] at quiet ⊢
    generalize (context.undergo deed).run h s = done at hdone quiet ⊢
    cases hdone with
    | @used _ _ s' _ hc _ =>
      simp only [Run.andThen_ok, calls_append, List.mem_append, not_or] at quiet
      obtain ⟨hlast, hasked⟩ :=
        ih (fun client fault => (quiet client fault).2) (by simpa [Deed.Closing] using hd)
      exact ⟨hlast, by simp [hc, hasked]⟩
    | idle _ hc => simp [hc] at ho
    | failed _ _ hp hf =>
      subst hp
      obtain ⟨client, hm⟩ := closeAll_stuck h hf
      simp only [Run.andThen_ok, calls_append, List.mem_append, not_or] at quiet
      exact absurd hm (quiet client _).1
    | passed _ _ hp hf =>
      subst hp
      obtain ⟨hlast, hnone, -⟩ := live_of_closed (h := h)
        { context with closed := true } rfl rest
        ((Registry.closeAll context.registry.caches).run h s).state
      obtain ⟨hpass, hasked⟩ := run_closeAll h context.registry.caches s
      rw [take_closeReach_of_quiet ((closePass_eq_ok_iff _).mp (hpass.symm.trans hf))] at hasked
      exact ⟨hlast, by simp [hnone, hasked]⟩

/-- An attempt on an open context asks its caches from the first on, up to the first that fails. -/
theorem undergo_of_open (ho : context.closed = false) {deed : Deed} (hd : deed.Closing) :
    let closes := closeOutcomes h context.registry.caches s
    let attempt := (context.undergo deed).run h s
    closings attempt.trace =
        (context.registry.caches.take (closeReach closes)).map Cache.client ∧
      attempt.outcome = match closeFault? closes with
        | some fault => .ok (.error fault, context)
        | none => .ok (deed.result, { context with closed := true }) := by
  obtain ⟨hpass, hasked⟩ := run_closeAll h context.registry.caches s
  intro closes attempt
  have hattempt : Undergoes h context s deed attempt := run_undergo h context deed s
  generalize attempt = attempt at hattempt ⊢
  cases hattempt with
  | used _ _ => exact hd.elim
  | idle _ hc => simp [hc] at ho
  | failed _ _ hp hf =>
    subst hp
    rw [hf] at hpass
    refine ⟨hasked, ?_⟩
    cases hfault : closeFault? closes with
    | none => cases hpass.trans ((closePass_eq_ok_iff closes).mpr
        ((closeFault?_eq_none_iff closes).mp hfault))
    | some other =>
      cases hpass.trans (closePass_error hfault)
      rfl
  | passed _ _ hp hf =>
    subst hp
    rw [hf] at hpass
    refine ⟨by simpa using hasked, ?_⟩
    cases hfault : closeFault? closes with
    | none => rfl
    | some other => cases hpass.trans (closePass_error hfault)

/-- A context is closed once there was an attempt in which all of its caches were closed. From then
on no client is closed again, and the end has been announced once. Until then an attempt asks the
caches from the first on; if one of them fails, its fault is what the attempt comes to and the
context is as before, for the next attempt to start over. So each client is closed once, in order,
where no close fails. -/
theorem context_closes_once (h : Handler σ) (context : CachingContext) (fresh : context.closed = false)
    (deeds : List Deed) (s : σ) :
    let lived := (context.live deeds).run h s
    ∃ now : CachingContext, lived.outcome = .ok now ∧
      (now.closed = true ↔ context.SomeClosesAll h deeds s) ∧
      announcements lived.trace = (if now.closed = true then [closedRecord] else []) ∧
      (now.closed = true → ∀ later, let after := (now.live later).run h lived.state
        after.outcome = .ok now ∧ closings after.trace = [] ∧ announcements after.trace = []) ∧
      (now.closed = false → ∀ deed : Deed, deed.Closing →
        let closes := closeOutcomes h context.registry.caches lived.state
        let attempt := (now.undergo deed).run h lived.state
        closings attempt.trace =
            (context.registry.caches.take (closeReach closes)).map Cache.client ∧
          attempt.outcome = match closeFault? closes with
            | some fault => .ok (.error fault, now)
            | none => .ok (deed.result, { now with closed := true })) ∧
      ((∀ client fault, ⟨client, .close, .error fault⟩ ∉ calls lived.trace) →
        (∃ deed ∈ deeds, deed.Closing) →
        now.closed = true ∧ closings lived.trace = context.registry.caches.map Cache.client) := by
  intro lived
  obtain ⟨closed, hlived⟩ := live_ok (h := h) context deeds s
  have hclosed : closed = true ↔ context.SomeClosesAll h deeds s := by
    simpa [fresh] using closed_live_iff hlived
  refine ⟨{ context with closed := closed }, hlived, hclosed, announcements_live fresh hlived,
    fun hc later => live_of_closed _ hc later _, fun ho deed hd => undergo_of_open ho hd,
    fun quiet hd => ?_⟩
  obtain ⟨hlast, hasked⟩ : lived.outcome = .ok { context with closed := true } ∧
    closings lived.trace = context.registry.caches.map Cache.client := live_of_quiet fresh quiet hd
  cases hlived.symm.trans hlast
  exact ⟨rfl, hasked⟩

/-- Cache servers that answer nothing but requests to close, of which the second fails. -/
def secondStuck : Handler Nat where
  answer asked
    | .call _ .close => (if asked = 1 then .error .wrongType else .ok (), asked + 1)
    | _ => (.error .noFields, asked)

/-- The first attempt fails at the second cache, so the next one asks both again. After that nothing
is asked to close. -/
theorem second_attempt_closes :
    let context : CachingContext := ⟨{}, pairOfCaches, [], false⟩
    let lived := (context.live [.leave (.error .noFields), .close]).run secondStuck 0
    lived.outcome = .ok { context with closed := true } ∧ closings lived.trace = [0, 1, 0, 1] ∧
      announcements lived.trace = [closedRecord] ∧
      ∀ later, closings ((({ context with closed := true } : CachingContext).live later).run
        secondStuck lived.state).trace = [] := by
  obtain ⟨now, hlast, -, hannounced, hidle, -, -⟩ := context_closes_once secondStuck
    ⟨{}, pairOfCaches, [], false⟩ rfl [.leave (.error .noFields), .close] 0
  cases hlast
  exact ⟨rfl, rfl, hannounced, fun later => (hidle rfl later).2.1⟩

end CacheWiring
