import CacheWiring.Program.Basic
import Mathlib.Data.List.Forall2

namespace CacheWiring

variable {σ α β : Type}

def Run.andThen (r : Run σ α) (next : α → σ → Run σ β) : Run σ β :=
  match r.outcome with
  | .ok a =>
    ⟨(next a r.state).outcome, (next a r.state).state, r.trace ++ (next a r.state).trace⟩
  | .error fault => ⟨.error fault, r.state, r.trace⟩

@[simp] theorem Run.andThen_ok (a : α) (s : σ) (trace : List Happening)
    (next : α → σ → Run σ β) :
    (Run.mk (.ok a) s trace).andThen next =
      ⟨(next a s).outcome, (next a s).state, trace ++ (next a s).trace⟩ := rfl

@[simp] theorem Run.andThen_error (fault : Fault) (s : σ) (trace : List Happening)
    (next : α → σ → Run σ β) :
    (Run.mk (.error fault) s trace).andThen next = ⟨.error fault, s, trace⟩ := rfl

/-- What happened before a run goes in front of its trace. -/
theorem Run.andThen_prefixed (r : Run σ α) (before : List Happening)
    (next : α → σ → Run σ β) :
    (Run.mk r.outcome r.state (before ++ r.trace)).andThen next =
      ⟨(r.andThen next).outcome, (r.andThen next).state, before ++ (r.andThen next).trace⟩ := by
  obtain ⟨outcome, s, trace⟩ := r
  cases outcome with
  | ok a => simp [List.append_assoc]
  | error fault => rfl

/-- A sequence ends well when both of its parts do. -/
theorem Run.andThen_outcome_ok {r : Run σ α} {next : α → σ → Run σ β} {b : β} :
    (r.andThen next).outcome = .ok b ↔
      ∃ a, r.outcome = .ok a ∧ (next a r.state).outcome = .ok b := by
  obtain ⟨outcome, s, trace⟩ := r
  cases outcome <;> simp

/-- It fails with its first part, or after it. -/
theorem Run.andThen_outcome_error {r : Run σ α} {next : α → σ → Run σ β} {fault : Fault} :
    (r.andThen next).outcome = .error fault ↔
      r.outcome = .error fault ∨
        ∃ a, r.outcome = .ok a ∧ (next a r.state).outcome = .error fault := by
  obtain ⟨outcome, s, trace⟩ := r
  cases outcome <;> simp

theorem Run.andThen_of_ok {r : Run σ α} {a : α} (hr : r.outcome = .ok a)
    (next : α → σ → Run σ β) :
    r.andThen next =
      ⟨(next a r.state).outcome, (next a r.state).state,
        r.trace ++ (next a r.state).trace⟩ := by
  obtain ⟨outcome, s, trace⟩ := r
  cases hr
  rfl

theorem Run.andThen_of_error {r : Run σ α} {fault : Fault} (hr : r.outcome = .error fault)
    (next : α → σ → Run σ β) : r.andThen next = ⟨.error fault, r.state, r.trace⟩ := by
  obtain ⟨outcome, s, trace⟩ := r
  cases hr
  rfl

/-- Nothing happens when a result is only turned into another. -/
@[simp] theorem Run.andThen_trace (r : Run σ α) (f : α → β) :
    (r.andThen fun a s => ⟨.ok (f a), s, []⟩).trace = r.trace := by
  obtain ⟨outcome, s, trace⟩ := r
  cases outcome <;> simp

/-- Nothing happens when a result is only looked at. -/
theorem Run.andThen_except (r : Run σ α) (f : α → Except Fault β) :
    (r.andThen fun a s => ⟨f a, s, []⟩) = ⟨r.outcome >>= f, r.state, r.trace⟩ := by
  obtain ⟨outcome, s, trace⟩ := r
  cases outcome with
  | ok a => simp only [Run.andThen_ok, List.append_nil]; rfl
  | error fault => rfl

theorem Fault.stop_or_not (fault : Fault) :
    (∃ reason, fault = .stop reason) ∨ fault.isStop = false := by
  cases fault <;> simp [isStop]

theorem Fault.isStop_eq_false_iff {fault : Fault} :
    fault.isStop = false ↔ ∀ reason, fault ≠ .stop reason := by
  cases fault <;> simp [isStop]

namespace Program

@[simp] theorem rescued_ok (a : α) : rescued (.ok a) = .ok (.ok a) := rfl

theorem rescued_error {fault : Fault} (hs : fault.isStop = false) :
    rescued (.error fault : Except Fault α) = .ok (.error fault) := by
  simp [rescued, hs]

@[simp] theorem rescued_stop (reason : Stop) :
    rescued (.error (.stop reason) : Except Fault α) = .error (.stop reason) := rfl

variable (h : Handler σ)

@[simp] theorem run_pure (a : α) (s : σ) : (pure a : Program α).run h s = ⟨.ok a, s, []⟩ := rfl

@[simp] theorem run_fail (fault : Fault) (s : σ) :
    (fail fault : Program α).run h s = ⟨.error fault, s, []⟩ := rfl

@[simp] theorem run_ofExcept (outcome : Except Fault α) (s : σ) :
    (ofExcept outcome).run h s = ⟨outcome, s, []⟩ := rfl

@[simp] theorem run_tell (output : Output) (s : σ) :
    (tell output).run h s = ⟨.ok (), s, [.said output]⟩ := rfl

@[simp] theorem run_log (level : Level) (source : LogSource) (message : Text) (s : σ) :
    (log level source message).run h s = ⟨.ok (), s, [.said (.log ⟨level, source, message⟩)]⟩ := rfl

theorem run_request (r : Request) (s : σ) :
    (request r).run h s = ⟨(h.answer s r).1, (h.answer s r).2, [.asked r (h.answer s r).1]⟩ := rfl

theorem run_bind (p : Program α) (f : α → Program β) (s : σ) :
    (p >>= f).run h s = (p.run h s).andThen fun a s => (f a).run h s := by
  change (p.bind f).run h s = _
  induction p generalizing s with
  | done outcome => cases outcome <;> rfl
  | emit output next ih =>
    simp only [Program.bind, run, ih s]
    exact (Run.andThen_prefixed (next.run h s) [.said output] _).symm
  | ask request next ih =>
    simp only [Program.bind, run, ih (h.answer s request).1 (h.answer s request).2]
    exact (Run.andThen_prefixed _ [.asked request (h.answer s request).1] _).symm

/-- Looking at an outcome changes neither the state nor the trace. -/
@[simp] theorem run_attempt (p : Program α) (s : σ) :
    p.attempt.run h s = ⟨.ok (p.run h s).outcome, (p.run h s).state, (p.run h s).trace⟩ := by
  induction p generalizing s with
  | done outcome => rfl
  | emit output next ih => simp [attempt, run, ih]
  | ask request next ih => simp [attempt, run, ih]

@[simp] theorem run_rescue (p : Program α) (s : σ) :
    p.rescue.run h s = ⟨rescued (p.run h s).outcome, (p.run h s).state, (p.run h s).trace⟩ := by
  have hrun := run_bind h p.attempt (fun outcome => ofExcept (rescued outcome)) s
  rw [run_attempt, Run.andThen_ok, run_ofExcept, List.append_nil] at hrun
  exact hrun

@[simp] theorem run_each_nil (f : α → Program β) (s : σ) :
    (each f []).run h s = ⟨.ok [], s, []⟩ := rfl

theorem run_each_cons (f : α → Program β) (a : α) (rest : List α) (s : σ) :
    (each f (a :: rest)).run h s =
      ((f a).run h s).andThen fun b s => ((each f rest).run h s).andThen fun others s =>
        ⟨.ok (b :: others), s, []⟩ := by
  simp only [each, run_bind, run_pure]

/-- A list is worked through when each of its items is; here no outcome depends on the state. -/
theorem each_outcome_ok_iff {f : α → Program β} {R : α → β → Prop} {items : List α}
    (hf : ∀ a ∈ items, ∀ s b, ((f a).run h s).outcome = .ok b ↔ R a b) (results : List β) (s : σ) :
    ((each f items).run h s).outcome = .ok results ↔ List.Forall₂ R items results := by
  induction items generalizing results s with
  | nil => simp [eq_comm]
  | cons a rest ih =>
    have hrest := ih fun b hb => hf b (List.mem_cons_of_mem a hb)
    simp only [run_each_cons, Run.andThen_outcome_ok, hf a List.mem_cons_self, hrest,
      List.forall₂_cons_left_iff, Except.ok.injEq]
    constructor
    · intro hp
      obtain ⟨b, hb, others, ho, rfl⟩ := hp
      exact ⟨b, others, hb, ho, rfl⟩
    · intro hp
      obtain ⟨b, others, hb, ho, rfl⟩ := hp
      exact ⟨b, hb, others, ho, rfl⟩

/-- What every successful run of an item gives its result holds of the results of a list. -/
theorem forall₂_of_each {f : α → Program β} {R : α → β → Prop} {items : List α}
    {results : List β} {s : σ} (hf : ∀ a s b, ((f a).run h s).outcome = .ok b → R a b)
    (hr : ((each f items).run h s).outcome = .ok results) : List.Forall₂ R items results := by
  induction items generalizing results s with
  | nil =>
    cases hr
    exact .nil
  | cons a rest ih =>
    simp only [run_each_cons, Run.andThen_outcome_ok] at hr
    obtain ⟨b, hb, others, ho, hr⟩ := hr
    cases hr
    exact .cons (hf a s b hb) (ih ho)

/-- A fault that ends a list is that of one of its items. -/
theorem fault_of_each {f : α → Program β} {items : List α} {fault : Fault} {s : σ}
    (hr : ((each f items).run h s).outcome = .error fault) :
    ∃ a ∈ items, ∃ s', ((f a).run h s').outcome = .error fault := by
  induction items generalizing s with
  | nil => cases hr
  | cons a rest ih =>
    rw [run_each_cons, Run.andThen_outcome_error] at hr
    rcases hr with ha | ⟨b, -, hr⟩
    · exact ⟨a, List.mem_cons_self, s, ha⟩
    · rcases Run.andThen_outcome_error.mp hr with hrest | ⟨others, -, hr⟩
      · obtain ⟨a', hm, s', ha'⟩ := ih hrest
        exact ⟨a', List.mem_cons_of_mem a hm, s', ha'⟩
      · cases hr

/-- The results that `each` has when it ends, be it with a fault. -/
def collected (f : α → Program β) : List α → σ → List β
  | [], _ => []
  | a :: rest, s =>
    match ((f a).run h s).outcome with
    | .ok b => b :: collected f rest ((f a).run h s).state
    | .error _ => []

theorem collected_of_ok {f : α → Program β} {items : List α} {results : List β} {s : σ}
    (hr : ((each f items).run h s).outcome = .ok results) : collected h f items s = results := by
  induction items generalizing results s with
  | nil =>
    cases hr
    rfl
  | cons a rest ih =>
    simp only [run_each_cons, Run.andThen_outcome_ok] at hr
    obtain ⟨b, hb, others, ho, hr⟩ := hr
    cases hr
    simp only [collected, hb, ih ho]

/-- A first item that fails is the last one tried. -/
theorem run_each_stops {f : α → Program β} {before : List α} {a : α} {results : List β}
    {fault : Fault} {s : σ} (hb : ((each f before).run h s).outcome = .ok results)
    (ha : ((f a).run h ((each f before).run h s).state).outcome = .error fault)
    (after : List α) :
    (each f (before ++ a :: after)).run h s =
        ⟨.error fault, ((f a).run h ((each f before).run h s).state).state,
          ((each f before).run h s).trace ++
            ((f a).run h ((each f before).run h s).state).trace⟩ ∧
      collected h f (before ++ a :: after) s = results := by
  induction before generalizing results s with
  | nil =>
    cases hb
    simp only [run_each_nil, List.nil_append] at ha ⊢
    simp only [collected, ha, run_each_cons, and_true]
    generalize (f a).run h s = first at ha ⊢
    obtain ⟨outcome, s', trace⟩ := first
    cases ha
    rfl
  | cons b rest ih =>
    rw [run_each_cons] at hb ha ⊢
    simp only [List.cons_append, run_each_cons, collected]
    generalize (f b).run h s = first at hb ha ⊢
    obtain ⟨outcome, s', trace⟩ := first
    cases outcome with
    | error other => cases hb
    | ok c =>
      simp only [Run.andThen_ok] at hb ha ⊢
      obtain ⟨others, ho, he⟩ := Run.andThen_outcome_ok.mp hb
      cases he
      generalize hrest : (each f rest).run h s' = second at ho ha ⊢
      obtain ⟨outcome, s'', more⟩ := second
      cases ho
      obtain ⟨hrun, hcol⟩ := @ih others s' (by rw [hrest]) (by rw [hrest]; exact ha)
      rw [hrest] at hrun
      simp [hrun, hcol]

end Program

end CacheWiring
