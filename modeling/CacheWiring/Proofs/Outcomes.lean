import CacheWiring.Fault
import Mathlib.Data.List.Forall2

namespace CacheWiring

variable {α β : Type}

theorem bind_eq_ok_iff {first : Except Fault α} {next : α → Except Fault β} {b : β} :
    (first >>= next) = .ok b ↔ ∃ a, first = .ok a ∧ next a = .ok b := by
  cases first with
  | ok a => exact ⟨fun hb => ⟨a, rfl, hb⟩, fun ⟨_, ha, hb⟩ => by cases ha; exact hb⟩
  | error fault => exact ⟨fun hb => (nomatch hb), fun ⟨_, ha, _⟩ => (nomatch ha)⟩

theorem bind_of_ok {first : Except Fault α} {a : α} (hf : first = .ok a)
    (next : α → Except Fault β) : (first >>= next) = next a := by
  rw [hf]
  rfl

theorem pure_eq_ok_iff {a b : α} : (pure a : Except Fault α) = .ok b ↔ b = a :=
  ⟨fun h => (Except.ok.inj h).symm, fun h => congrArg Except.ok h.symm⟩

theorem map_eq_ok_iff {first : Except Fault α} {f : α → β} {b : β} :
    first.map f = .ok b ↔ ∃ a, first = .ok a ∧ f a = b := by
  cases first with
  | ok a =>
    exact ⟨fun hb => ⟨a, rfl, Except.ok.inj hb⟩,
      fun ⟨_, ha, hb⟩ => by cases ha; exact congrArg Except.ok hb⟩
  | error fault => exact ⟨fun hb => (nomatch hb), fun ⟨_, ha, _⟩ => (nomatch ha)⟩

theorem ite_bind (b : Bool) (first second : Except Fault α) (next : α → Except Fault β) :
    (if b then first >>= next else second >>= next) = (if b then first else second) >>= next := by
  cases b <;> rfl

/-- A list is read when each of its items is, and the results keep their places. -/
theorem mapM_eq_ok_iff (f : α → Except Fault β) (items : List α) (results : List β) :
    items.mapM f = .ok results ↔ List.Forall₂ (fun a b => f a = .ok b) items results := by
  induction items generalizing results with
  | nil => rw [List.mapM_nil, pure_eq_ok_iff, List.forall₂_nil_left_iff]
  | cons a rest ih =>
    simp only [List.mapM_cons, bind_eq_ok_iff, pure_eq_ok_iff, List.forall₂_cons_left_iff, ih]
    constructor
    · intro hp
      obtain ⟨b, hb, others, ho, rfl⟩ := hp
      exact ⟨b, others, hb, ho, rfl⟩
    · intro hp
      obtain ⟨b, others, hb, ho, rfl⟩ := hp
      exact ⟨b, hb, others, ho, rfl⟩

theorem exists_of_mapM_ok {f : α → Except Fault β} {items : List α} {results : List β}
    (hr : items.mapM f = .ok results) : ∀ a ∈ items, ∃ b, f a = .ok b := by
  rw [mapM_eq_ok_iff] at hr
  induction hr with
  | nil => simp
  | cons hfirst _ ih => exact List.forall_mem_cons.mpr ⟨⟨_, hfirst⟩, ih⟩

theorem mapM_cons_ok {f : α → Except Fault β} {a : α} {rest : List α} {b : β} {others : List β}
    (ha : f a = .ok b) (hrest : rest.mapM f = .ok others) :
    (a :: rest).mapM f = .ok (b :: others) := by
  rw [List.mapM_cons, ha, hrest]
  rfl

/-- A list that cannot be read has a first item that cannot. -/
theorem split_of_mapM_error {f : α → Except Fault β} {items : List α} {fault : Fault}
    (hf : items.mapM f = .error fault) :
    ∃ before a after results, items = before ++ a :: after ∧ before.mapM f = .ok results ∧
      f a = .error fault := by
  induction items with
  | nil => cases hf
  | cons a rest ih =>
    rw [List.mapM_cons] at hf
    cases ha : f a with
    | error other =>
      rw [ha] at hf
      cases hf
      exact ⟨[], a, rest, [], rfl, rfl, ha⟩
    | ok b =>
      cases hrest : rest.mapM f with
      | error other =>
        rw [ha, hrest] at hf
        cases hf
        obtain ⟨before, a', after, results, rfl, hbefore, ha'⟩ := ih hrest
        exact ⟨a :: before, a', after, b :: results, rfl, mapM_cons_ok ha hbefore, ha'⟩
      | ok others =>
        rw [ha, hrest] at hf
        cases hf

theorem exists_of_mapM_error {f : α → Except Fault β} {items : List α} {fault : Fault}
    (hf : items.mapM f = .error fault) : ∃ a ∈ items, f a = .error fault := by
  obtain ⟨before, a, after, -, rfl, -, ha⟩ := split_of_mapM_error hf
  exact ⟨a, by simp, ha⟩

theorem mapM_total {f : α → Except Fault β} {R : α → β → Prop} {items : List α}
    (hf : ∀ a ∈ items, ∃ b, f a = .ok b ∧ R a b) :
    ∃ results, items.mapM f = .ok results ∧ List.Forall₂ R items results := by
  induction items with
  | nil => exact ⟨[], rfl, .nil⟩
  | cons a rest ih =>
    obtain ⟨b, hb, hr⟩ := hf a List.mem_cons_self
    obtain ⟨others, ho, hrest⟩ := ih fun c hc => hf c (List.mem_cons_of_mem a hc)
    exact ⟨b :: others, mapM_cons_ok hb ho, .cons hr hrest⟩

/-- An outcome that is a result, or a fault of some kind. -/
def FailsAs (kind : Fault → Prop) (outcome : Except Fault α) : Prop :=
  ∀ fault, outcome = .error fault → kind fault

namespace FailsAs

variable {kind : Fault → Prop}

theorem ok (a : α) : FailsAs kind (.ok a) := by
  intro fault hf
  cases hf

theorem error {fault : Fault} (hk : kind fault) :
    FailsAs kind (.error fault : Except Fault α) := by
  intro other ho
  cases ho
  exact hk

theorem mono {other : Fault → Prop} {outcome : Except Fault α} (ho : FailsAs kind outcome)
    (hk : ∀ fault, kind fault → other fault) : FailsAs other outcome :=
  fun fault hf => hk fault (ho fault hf)

theorem bind {first : Except Fault α} {next : α → Except Fault β} (hfirst : FailsAs kind first)
    (hnext : ∀ a, FailsAs kind (next a)) : FailsAs kind (first >>= next) := by
  cases first with
  | ok a => exact hnext a
  | error fault => exact .error (hfirst fault rfl)

theorem map {first : Except Fault α} (hfirst : FailsAs kind first) (f : α → β) :
    FailsAs kind (first.map f) := by
  cases first with
  | ok a => exact .ok (f a)
  | error fault => exact .error (hfirst fault rfl)

theorem ite {c : Prop} [Decidable c] {first second : Except Fault α}
    (hfirst : FailsAs kind first) (hsecond : FailsAs kind second) :
    FailsAs kind (if c then first else second) := by
  split
  · exact hfirst
  · exact hsecond

theorem mapM {f : α → Except Fault β} (hf : ∀ a, FailsAs kind (f a)) (items : List α) :
    FailsAs kind (items.mapM f) := by
  intro fault hm
  obtain ⟨a, -, ha⟩ := exists_of_mapM_error hm
  exact hf a fault ha

end FailsAs

theorem forall₂_agree_iff {γ : Type} (f : α → γ) (g : β → γ) (items : List α) (results : List β) :
    List.Forall₂ (fun a b => g b = f a) items results ↔ results.map g = items.map f := by
  rw [eq_comm, ← List.forall₂_eq_eq_eq, List.forall₂_map_left_iff, List.forall₂_map_right_iff]
  simp only [eq_comm]

theorem forall₂_images_iff {γ : Type} {P : γ → Prop} (key : γ → α) (result : γ → β)
    (keys : List α) (results : List β) :
    List.Forall₂ (fun a b => ∃ c, key c = a ∧ P c ∧ result c = b) keys results ↔
      ∃ items : List γ, items.map key = keys ∧ (∀ c ∈ items, P c) ∧ items.map result = results := by
  constructor
  · intro hall
    induction hall with
    | nil => exact ⟨[], rfl, by simp, rfl⟩
    | cons hfirst _ ih =>
      obtain ⟨c, rfl, hc, rfl⟩ := hfirst
      obtain ⟨items, rfl, hitems, rfl⟩ := ih
      exact ⟨c :: items, rfl, List.forall_mem_cons.mpr ⟨hc, hitems⟩, rfl⟩
  · intro hp
    obtain ⟨items, rfl, hitems, rfl⟩ := hp
    rw [List.forall₂_map_left_iff, List.forall₂_map_right_iff, List.forall₂_same]
    exact fun c hc => ⟨c, rfl, hitems c hc, rfl⟩

end CacheWiring
