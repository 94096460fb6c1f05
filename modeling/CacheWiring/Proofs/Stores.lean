import CacheWiring.Program.Request
import Mathlib.Logic.Function.Basic

namespace CacheWiring

/-- What is held under each key, if anything. -/
def Store := Text → Option Value

namespace Store

def empty : Store := fun _ => none

def hold (store : Store) (key : Text) (value : Value) : Store :=
  Function.update store key (some value)

def drop (store : Store) (key : Text) : Store := Function.update store key none

/-- The reply to a call, and the store after it. -/
def answer (store : Store) : (c : Call) → c.Reply × Store
  | .get key fallback => ((store key).getD fallback, store)
  | .set key value _ => ((), store.hold key value)
  | .add key value _ =>
    match store key with
    | some _ => (false, store)
    | none => (true, store.hold key value)
  | .delete key => ((), store.drop key)
  | .flushAll => ((), empty)
  | .close => ((), store)

def after (store : Store) (c : Call) : Store := (store.answer c).2

@[simp] theorem empty_apply (key : Text) : empty key = none := rfl

@[simp] theorem hold_same (store : Store) (key : Text) (value : Value) :
    store.hold key value key = some value := Function.update_self ..

@[simp] theorem hold_other (store : Store) {key other : Text} (ho : other ≠ key) (value : Value) :
    store.hold key value other = store other := Function.update_of_ne ho ..

@[simp] theorem drop_same (store : Store) (key : Text) : store.drop key key = none :=
  Function.update_self ..

@[simp] theorem drop_other (store : Store) {key other : Text} (ho : other ≠ key) :
    store.drop key other = store other := Function.update_of_ne ho ..

@[simp] theorem after_get (store : Store) (key : Text) (fallback : Value) :
    store.after (.get key fallback) = store := rfl

@[simp] theorem after_set (store : Store) (key : Text) (value expire : Value) :
    store.after (.set key value expire) = store.hold key value := rfl

@[simp] theorem after_delete (store : Store) (key : Text) :
    store.after (.delete key) = store.drop key := rfl

@[simp] theorem after_flushAll (store : Store) : store.after .flushAll = empty := rfl

@[simp] theorem after_close (store : Store) : store.after .close = store := rfl

theorem answer_add_present {store : Store} {key : Text} {held : Value} (hk : store key = some held)
    (value expire : Value) : store.answer (.add key value expire) = (false, store) := by
  simp only [answer, hk]
  rfl

theorem answer_add_absent {store : Store} {key : Text} (hk : store key = none)
    (value expire : Value) :
    store.answer (.add key value expire) = (true, store.hold key value) := by
  simp only [answer, hk]
  rfl

/-- An addition stores under an absent key only. -/
theorem answer_add_iff (store : Store) (key : Text) (value expire : Value) :
    (store.answer (.add key value expire)).1 = true ↔ store key = none := by
  cases hk : store key with
  | none =>
    rw [answer_add_absent hk]
    exact iff_of_true rfl rfl
  | some held =>
    rw [answer_add_present hk]
    exact iff_of_false Bool.false_ne_true (by simp)

end Store

/-- A value is put under the key by this call, or would be if there were none. -/
def Call.Fills (key : Text) : Call → Prop
  | .set other .. | .add other .. => other = key
  | _ => False

/-- Nothing is held under the key after this call. -/
def Call.Clears (key : Text) : Call → Prop
  | .delete other => other = key
  | .flushAll => True
  | _ => False

namespace Store

/-- A key that is not cleared is absent only as long as nothing fills it. -/
theorem after_eq_none_iff (store : Store) {key : Text} {c : Call} (hc : ¬ c.Clears key) :
    store.after c key = none ↔ store key = none ∧ ¬ c.Fills key := by
  cases c with
  | get other fallback => simp [Call.Fills]
  | set other value expire =>
    by_cases ho : key = other
    · subst ho
      simp [Call.Fills]
    · simp [Call.Fills, ho, Ne.symm ho]
  | add other value expire =>
    by_cases ho : key = other
    · subst ho
      cases hk : store key with
      | none => simp [after, answer_add_absent hk, Call.Fills]
      | some held => simp [after, answer_add_present hk, hk]
    · cases hk : store other with
      | none => simp [after, answer_add_absent hk, Call.Fills, ho, Ne.symm ho]
      | some held => simp [after, answer_add_present hk, Call.Fills, Ne.symm ho]
  | delete other =>
    have ho : key ≠ other := fun he => hc he.symm
    simp [Call.Fills, ho]
  | flushAll => exact absurd trivial hc
  | close => simp [Call.Fills]

/-- What is held after a call was held before, or this call put it there. -/
theorem origin_after {store : Store} {key : Text} {c : Call} {value : Value}
    (hv : store.after c key = some value) :
    store key = some value ∨ (∃ expire, c = .set key value expire) ∨
      ∃ expire, c = .add key value expire ∧ store key = none := by
  cases c with
  | get other fallback => exact .inl hv
  | set other written expire =>
    by_cases ho : key = other
    · subst ho
      obtain rfl : written = value := by simpa using hv
      exact .inr (.inl ⟨expire, rfl⟩)
    · exact .inl (by simpa [ho] using hv)
  | add other written expire =>
    cases hk : store other with
    | some held => exact .inl (by simpa [after, answer_add_present hk] using hv)
    | none =>
      by_cases ho : key = other
      · subst ho
        obtain rfl : written = value := by simpa [after, answer_add_absent hk] using hv
        exact .inr (.inr ⟨expire, rfl, hk⟩)
      · exact .inl (by simpa [after, answer_add_absent hk, ho] using hv)
  | delete other =>
    by_cases ho : key = other
    · subst ho
      simp at hv
    · exact .inl (by simpa [ho] using hv)
  | flushAll => simp at hv
  | close => exact .inl hv

end Store

end CacheWiring
