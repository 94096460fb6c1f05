import CacheWiring.Proofs.Names
import CacheWiring.Proofs.Quantities

namespace CacheWiring

namespace Shape

mutual

def Fits : Shape → Value → Prop
  | .exactly text, v => v = .str text
  | .oneOf texts, v => ∃ text ∈ texts, v = .str (text : String)
  | .string nonEmpty, v => ∃ s : Text, v = .str s ∧ (nonEmpty = true → s ≠ [])
  | .integer least most, v => ∃ n, v.Whole n ∧ least ≤ n ∧ ∀ bound ∈ most, n ≤ bound
  | .number bound, v => v.IsNumeric ∧ ¬ v.AtMost bound
  | .list items, v => ∃ values, v.items? = some values ∧ ∀ value ∈ values, items.Fits value
  | .record required closed fields, v =>
    ∃ entries, v.entries? = some entries ∧
      (∀ name ∈ required, ∃ value, Value.lookup entries (.str (name : String)) = some value) ∧
      (closed = true → ∀ entry ∈ entries, ∃ name ∈ fields.map (·.1), entry.1 = .str (name : String)) ∧
      FieldsFit entries fields

def FieldsFit (entries : List (Scalar × Value)) : List (String × Shape) → Prop
  | [] => True
  | (name, shape) :: rest =>
    (∀ value, Value.lookup entries (.str name) = some value → shape.Fits value) ∧
      FieldsFit entries rest

end

theorem located_eq_nil_iff (path : List Step) (departures : List Departure) :
    located path departures = [] ↔ departures = [] := List.map_eq_nil_iff

theorem isStr_iff (v : Value) (t : Text) : v.isStr t = true ↔ v = .str t := by
  unfold Value.isStr
  split <;> simp_all

theorem isStr_eq_false_iff (v : Value) (t : Text) : v.isStr t = false ↔ v ≠ .str t := by
  rw [Ne, ← isStr_iff, Bool.not_eq_true]

theorem textDepartures_eq_nil_iff (nonEmpty : Bool) (v : Value) :
    textDepartures nonEmpty v = [] ↔ ∃ s, v = .str s ∧ (nonEmpty = true → s ≠ []) := by
  unfold textDepartures
  split
  · rename_i s
    simp
  · simp_all

theorem integerDepartures_eq_nil_iff (least : Int) (most : Option Int) (v : Value) :
    integerDepartures least most v = [] ↔
      ∃ n, v.Whole n ∧ least ≤ n ∧ ∀ bound ∈ most, n ≤ bound := by
  have htype : typeDeparture v.isInteger v "integer" = [] ↔ ∃ n, v.Whole n := by
    rw [← Value.isInteger_iff]
    unfold typeDeparture
    split <;> simp_all
  -- bounds are compared only once the type is right, so the number is at hand
  have hbounds (n : Int) (hn : v.Whole n) :
      integerDepartures least most v = [] ↔ least ≤ n ∧ ∀ bound ∈ most, n ≤ bound := by
    simp only [integerDepartures, List.append_eq_nil_iff, htype.mpr ⟨n, hn⟩, hn.standing]
    cases most <;> simp [compare_lt_iff_lt, compare_gt_iff_gt]
  constructor
  · intro hd
    have hwhole : typeDeparture v.isInteger v "integer" = [] := by
      simp only [integerDepartures, List.append_eq_nil_iff] at hd
      exact hd.1.1
    obtain ⟨n, hn⟩ := htype.mp hwhole
    exact ⟨n, hn, (hbounds n hn).mp hd⟩
  · intro hp
    obtain ⟨n, hn, hrange⟩ := hp
    exact (hbounds n hn).mpr hrange

theorem numberDepartures_eq_nil_iff (bound : Int) (v : Value) :
    numberDepartures bound v = [] ↔ v.IsNumeric ∧ ¬ v.AtMost bound := by
  rw [← Value.isNumber_iff, Value.atMost_iff]
  simp only [numberDepartures, typeDeparture, List.append_eq_nil_iff]
  refine and_congr (by simp) ?_
  cases hs : v.standing bound with
  | none => simp
  | some order => cases order <;> simp

theorem unexpectedKeys_eq_nil_iff (names : List String) (entries : List (Scalar × Value)) :
    unexpectedKeys names entries = [] ↔
      ∀ entry ∈ entries, ∃ name ∈ names, entry.1 = .str (name : String) := by
  rw [unexpectedKeys, ← List.length_eq_zero_iff, List.length_mergeSort, List.length_eq_zero_iff,
    List.filter_eq_nil_iff]
  simp [same_str_iff]

theorem recordDepartures_eq_nil_iff (required : List String) (closed : Bool)
    (names : List String) (entries : List (Scalar × Value)) :
    recordDepartures required closed names entries = [] ↔
      (∀ name ∈ required, ∃ value, Value.lookup entries (.str (name : String)) = some value) ∧
        (closed = true → ∀ entry ∈ entries, ∃ name ∈ names, entry.1 = .str (name : String)) := by
  simp only [recordDepartures, List.append_eq_nil_iff, List.map_eq_nil_iff, List.filter_eq_nil_iff]
  refine and_congr ?_ ?_
  · simp [Option.ne_none_iff_exists', -ne_eq]
  · rw [← unexpectedKeys_eq_nil_iff]
    cases closed <;> simp

mutual

/-- A value has no problems when it is of the shape; the path plays no part in that. -/
theorem problems_eq_nil_iff (path : List Step) (shape : Shape) (v : Value) :
    problems path shape v = [] ↔ shape.Fits v := by
  match shape with
  | .exactly text =>
    rw [problems, Fits, located_eq_nil_iff, ← isStr_iff]
    split <;> simp_all
  | .oneOf texts =>
    simp only [problems, Fits, located_eq_nil_iff, ← isStr_iff, ← List.any_eq_true]
    split <;> simp_all
  | .string nonEmpty =>
    rw [problems, Fits, located_eq_nil_iff, textDepartures_eq_nil_iff]
  | .integer least most =>
    rw [problems, Fits, located_eq_nil_iff, integerDepartures_eq_nil_iff]
  | .number bound =>
    rw [problems, Fits, located_eq_nil_iff, numberDepartures_eq_nil_iff]
  | .list items =>
    rw [problems, Fits]
    cases v.items? with
    | none => simp [located]
    | some values =>
      simp only [List.flatMap_eq_nil_iff, Option.some.injEq, exists_eq_left']
      constructor
      -- the problems of an item carry its index, the item itself does not
      · intro hp value hm
        obtain ⟨index, hi, rfl⟩ := List.mem_iff_getElem.mp hm
        exact (problems_eq_nil_iff _ items _).mp
          (hp (values[index], index) (List.mem_zipIdx_iff_getElem?.mpr (by simp [hi])))
      · intro hf entry hm
        exact (problems_eq_nil_iff _ items _).mpr (hf entry.1 (List.fst_mem_of_mem_zipIdx hm))
  | .record required closed fields =>
    rw [problems, Fits]
    cases v.entries? with
    | none => simp [located]
    | some entries =>
      simp only [List.append_eq_nil_iff, located_eq_nil_iff, recordDepartures_eq_nil_iff,
        fieldProblems_eq_nil_iff path entries fields, Option.some.injEq, exists_eq_left',
        and_assoc]

theorem fieldProblems_eq_nil_iff (path : List Step) (entries : List (Scalar × Value))
    (fields : List (String × Shape)) :
    fieldProblems path entries fields = [] ↔ FieldsFit entries fields := by
  match fields with
  | [] => simp [fieldProblems, FieldsFit]
  | (name, shape) :: rest =>
    rw [fieldProblems, FieldsFit, List.append_eq_nil_iff,
      fieldProblems_eq_nil_iff path entries rest]
    refine and_congr_left fun _ => ?_
    cases Value.lookup entries (.str name) with
    | none => simp
    | some value => simp [problems_eq_nil_iff _ shape value]

end

end Shape

end CacheWiring
