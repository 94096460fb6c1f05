import CacheWiring.Cache.Registry
import CacheWiring.Proofs.Outcomes
import Mathlib.Data.List.Nodup

namespace CacheWiring

/-- Names that a registry can show: texts, none of them twice. -/
def DistinctNames (names : List Value) : Prop :=
  ∃ texts : List Text, names = texts.map Value.str ∧ texts.Nodup

/-- A scalar that is the same key as a text is that text. -/
theorem same_str_iff (key : Scalar) (t : Text) : key.same (.str t) = true ↔ key = .str t := by
  simp only [Scalar.same, decide_eq_true_eq]
  constructor
  · intro hk
    unfold Scalar.canonical at hk
    split at hk
    · cases hk
    · split at hk
      · split at hk <;> cases hk
      · cases hk
    · cases hk
    · exact hk
  · intro hk
    rw [hk]

theorem any_same_iff (seen : List Text) (t : Text) :
    (seen.map Scalar.str).any (Scalar.same (.str t)) = true ↔ t ∈ seen := by
  simp [List.any_map, same_str_iff]

/-- Among texts a conflict is a repetition. -/
theorem nameConflict?_texts (seen texts : List Text) :
    nameConflict? (seen.map Scalar.str) (texts.map Value.str) = none ↔
      texts.Nodup ∧ ∀ t ∈ texts, t ∉ seen := by
  induction texts generalizing seen with
  | nil => simp [nameConflict?]
  | cons t rest ih =>
    have hseen := any_same_iff seen t
    simp only [List.map_cons, nameConflict?, Value.key?]
    by_cases ht : t ∈ seen
    · simp [hseen.mpr ht, ht]
    · have hnext := ih (seen ++ [t])
      simp only [List.map_append, List.map_cons, List.map_nil] at hnext
      rw [if_neg (mt hseen.mp ht), hnext]
      simp only [List.nodup_cons, List.mem_append, List.mem_cons, List.not_mem_nil, or_false,
        not_or, forall_eq_or_imp]
      constructor
      · intro hp
        obtain ⟨hrest, hapart⟩ := hp
        exact ⟨⟨fun hm => (hapart t hm).2 rfl, hrest⟩, ht, fun u hu => (hapart u hu).1⟩
      · intro hp
        obtain ⟨⟨hnew, hrest⟩, -, hapart⟩ := hp
        exact ⟨hrest, fun u hu => ⟨hapart u hu, fun he => hnew (he ▸ hu)⟩⟩

/-- So names that are texts are free of conflict exactly when none is repeated. -/
theorem no_conflict_iff {names : List Value} {texts : List Text}
    (named : names = texts.map Value.str) : nameConflict? [] names = none ↔ texts.Nodup := by
  rw [named]
  simpa using nameConflict?_texts [] texts

/-- A conflict among texts is at the earliest one that has occurred before. -/
theorem repetition_of_conflict {seen texts : List Text} (hs : seen.Nodup) {fault : Fault}
    (hf : nameConflict? (seen.map Scalar.str) (texts.map Value.str) = some fault) :
    ∃ before t after, texts = before ++ t :: after ∧ (seen ++ before).Nodup ∧
      t ∈ seen ++ before ∧ fault = .duplicateName (.str t) := by
  induction texts generalizing seen with
  | nil => cases hf
  | cons t rest ih =>
    have hseen := any_same_iff seen t
    simp only [List.map_cons, nameConflict?, Value.key?] at hf
    by_cases ht : t ∈ seen
    · rw [if_pos (hseen.mpr ht)] at hf
      exact ⟨[], t, rest, rfl, by simpa using hs, by simpa using ht, (Option.some.inj hf).symm⟩
    · rw [if_neg (mt hseen.mp ht)] at hf
      have hnext : (seen ++ [t]).Nodup := List.concat_eq_append ▸ hs.concat ht
      obtain ⟨before, u, after, rfl, hbefore, hu, he⟩ := ih hnext (by simpa using hf)
      rw [List.append_assoc, List.singleton_append] at hbefore hu
      exact ⟨t :: before, u, after, rfl, hbefore, hu, he⟩

theorem conflict_of_repetition {seen before : List Text} {t : Text} (after : List Text)
    (hbefore : (seen ++ before).Nodup) (ht : t ∈ seen ++ before) :
    nameConflict? (seen.map Scalar.str) ((before ++ t :: after).map Value.str) =
      some (.duplicateName (.str t)) := by
  induction before generalizing seen with
  | nil =>
    rw [List.append_nil] at ht
    simp only [List.nil_append, List.map_cons, nameConflict?, Value.key?]
    rw [if_pos ((any_same_iff seen t).mpr ht)]
  | cons u rest ih =>
    have hapart : u ∉ seen := by
      intro hu
      exact (List.nodup_append.mp hbefore).2.2 u hu u List.mem_cons_self rfl
    simp only [List.cons_append, List.map_cons, nameConflict?, Value.key?]
    rw [if_neg (mt (any_same_iff seen u).mp hapart)]
    rw [← List.singleton_append, ← List.append_assoc] at hbefore ht
    simpa using ih hbefore ht

theorem toStr_eq_ok_iff (v : Value) (t : Text) : v.toStr = .ok t ↔ v = .str t := by
  constructor
  · intro hv
    unfold Value.toStr at hv
    split at hv
    · cases hv
      rfl
    · cases hv
  · intro hp
    subst hp
    rfl

theorem mapM_toStr_iff (names : List Value) (texts : List Text) :
    names.mapM Value.toStr = .ok texts ↔ names = texts.map Value.str := by
  rw [mapM_eq_ok_iff]
  simp only [toStr_eq_ok_iff]
  rw [← List.forall₂_map_right_iff, List.forall₂_eq_eq_eq]

/-- Distinct names are those that are not in conflict and can be listed. -/
theorem distinctNames_iff (names : List Value) :
    DistinctNames names ↔
      nameConflict? [] names = none ∧ ∃ texts, names.mapM Value.toStr = .ok texts := by
  constructor
  · intro hp
    obtain ⟨texts, rfl, hd⟩ := hp
    exact ⟨(no_conflict_iff rfl).mpr hd, texts, (mapM_toStr_iff _ _).mpr rfl⟩
  · intro hp
    obtain ⟨hc, texts, ht⟩ := hp
    obtain rfl := (mapM_toStr_iff names texts).mp ht
    exact ⟨texts, rfl, (no_conflict_iff rfl).mp hc⟩

end CacheWiring
