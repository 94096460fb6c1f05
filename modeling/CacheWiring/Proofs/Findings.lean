import CacheWiring.Proofs.Grammar

namespace CacheWiring

namespace Shape

/-- How a value departs from a shape by itself, whatever is inside it. -/
def departures : Shape → Value → List Departure
  | .exactly text, v => if v.isStr text then [] else [.notExactly text]
  | .oneOf texts, v => if texts.any fun text => v.isStr text then [] else [.notOneOf v texts]
  | .string nonEmpty, v => textDepartures nonEmpty v
  | .integer least most, v => integerDepartures least most v
  | .number bound, v => numberDepartures bound v
  | .list _, v => if v.items?.isSome then [] else [.notOfType v "array"]
  | .record required closed fields, v =>
    match v.entries? with
    | some entries => recordDepartures required closed (fields.map (·.1)) entries
    | none => [.notOfType v "object"]

/-- A departure and the path to it, from a value and its shape on. -/
inductive Finds : Shape → Value → List Step → Departure → Prop
  | here {shape : Shape} {v : Value} {d : Departure} (hd : d ∈ shape.departures v) :
      Finds shape v [] d
  | item {items : Shape} {v value : Value} {values : List Value} {i : Nat} {rest : List Step}
      {d : Departure} (hv : v.items? = some values) (hi : values[i]? = some value)
      (hd : Finds items value rest d) : Finds (.list items) v (.item i :: rest) d
  | field {required : List String} {closed : Bool} {fields : List (String × Shape)} {name : String}
      {shape : Shape} {v value : Value} {rest : List Step} {d : Departure}
      (hm : (name, shape) ∈ fields) (hv : v.get? name = some value)
      (hd : Finds shape value rest d) :
      Finds (.record required closed fields) v (.field name :: rest) d

/-- The paths that a shape describes. -/
inductive Leads : Shape → List Step → Prop
  | here (shape : Shape) : Leads shape []
  | item {items : Shape} (i : Nat) {rest : List Step} (hr : Leads items rest) :
      Leads (.list items) (.item i :: rest)
  | field {required : List String} {closed : Bool} {fields : List (String × Shape)} {name : String}
      {shape : Shape} {rest : List Step} (hm : (name, shape) ∈ fields) (hr : Leads shape rest) :
      Leads (.record required closed fields) (.field name :: rest)

theorem Finds.leads {shape : Shape} {v : Value} {path : List Step} {d : Departure}
    (hf : Finds shape v path d) : shape.Leads path := by
  induction hf with
  | here _ => exact .here _
  | item _ _ _ ih => exact .item _ ih
  | field hm _ _ ih => exact .field hm ih

theorem mem_located (path : List Step) (found : List Departure) (p : Problem) :
    p ∈ located path found ↔ p.path = path ∧ p.departure ∈ found := by
  obtain ⟨place, d⟩ := p
  simp only [located, List.mem_map, Problem.mk.injEq]
  constructor
  · intro hp
    obtain ⟨d, hd, rfl, rfl⟩ := hp
    exact ⟨rfl, hd⟩
  · intro hp
    obtain ⟨rfl, hd⟩ := hp
    exact ⟨d, hd, rfl, rfl⟩

theorem fieldProblems_cons (path : List Step) (entries : List (Scalar × Value)) (name : String)
    (shape : Shape) (others : List (String × Shape)) :
    fieldProblems path entries ((name, shape) :: others) =
      (Value.lookup entries (.str name)).toList.flatMap (problems (path ++ [.field name]) shape) ++
        fieldProblems path entries others := by
  rw [fieldProblems]
  cases Value.lookup entries (.str name) <;> simp

/-- A value in which nothing is found has the problems that it has by itself. -/
theorem mem_located_departures_iff (path : List Step) (shape : Shape) (v : Value)
    (hs : ∀ rest d, Finds shape v rest d → rest = []) (p : Problem) :
    p ∈ located path (shape.departures v) ↔
      ∃ rest, p.path = path ++ rest ∧ Finds shape v rest p.departure := by
  rw [mem_located]
  constructor
  · intro hp
    exact ⟨[], by simpa using hp.1, .here hp.2⟩
  · intro hp
    obtain ⟨rest, hp, hf⟩ := hp
    obtain rfl := hs rest _ hf
    cases hf with
    | here hd => exact ⟨by simpa using hp, hd⟩

mutual

/-- The problems of a value are what is found in it. -/
theorem mem_problems_iff (path : List Step) (shape : Shape) (v : Value) (p : Problem) :
    p ∈ problems path shape v ↔
      ∃ rest, p.path = path ++ rest ∧ Finds shape v rest p.departure := by
  match shape with
  | .exactly text =>
    exact mem_located_departures_iff path (.exactly text) v (fun _ _ hf => by cases hf; rfl) p
  | .oneOf texts =>
    exact mem_located_departures_iff path (.oneOf texts) v (fun _ _ hf => by cases hf; rfl) p
  | .string nonEmpty =>
    exact mem_located_departures_iff path (.string nonEmpty) v (fun _ _ hf => by cases hf; rfl) p
  | .integer least most =>
    exact mem_located_departures_iff path (.integer least most) v (fun _ _ hf => by cases hf; rfl) p
  | .number bound =>
    exact mem_located_departures_iff path (.number bound) v (fun _ _ hf => by cases hf; rfl) p
  | .list items =>
    rw [problems]
    cases hv : v.items? with
    | none =>
      have hown : (list items).departures v = [.notOfType v "array"] := by simp [departures, hv]
      rw [← hown]
      refine mem_located_departures_iff path (.list items) v (fun rest d hf => ?_) p
      cases hf with
      | here hd => rfl
      | item ho hi hf => cases hv.symm.trans ho
    | some values =>
      simp only [List.mem_flatMap, Prod.exists, List.mem_zipIdx_iff_getElem?,
        mem_problems_iff _ items]
      constructor
      · intro hp
        obtain ⟨value, i, hi, rest, hp, hf⟩ := hp
        exact ⟨.item i :: rest, by simpa using hp, .item hv hi hf⟩
      · intro hp
        obtain ⟨rest, hp, hf⟩ := hp
        cases hf with
        | here hd => simp [departures, hv] at hd
        | item ho hi hf =>
          cases hv.symm.trans ho
          exact ⟨_, _, hi, _, by simpa using hp, hf⟩
  | .record required closed fields =>
    rw [problems]
    cases hv : v.entries? with
    | none =>
      have hown : (record required closed fields).departures v = [.notOfType v "object"] := by
        simp [departures, hv]
      rw [← hown]
      refine mem_located_departures_iff path (.record required closed fields) v
        (fun rest d hf => ?_) p
      cases hf with
      | here hd => rfl
      | field hm ho hf => simp [Value.get?, hv] at ho
    | some entries =>
      simp only [List.mem_append, mem_located, mem_fieldProblems_iff path entries fields]
      constructor
      · intro hp
        rcases hp with ⟨hp, hd⟩ | ⟨name, shape, value, rest, hm, hl, hp, hf⟩
        · exact ⟨[], by simpa using hp, .here (by simpa [departures, hv] using hd)⟩
        · exact ⟨.field name :: rest, hp, .field hm (by rw [get?_of_entries? hv, hl]) hf⟩
      · intro hp
        obtain ⟨rest, hp, hf⟩ := hp
        cases hf with
        | here hd => exact .inl ⟨by simpa using hp, by simpa [departures, hv] using hd⟩
        | field hm ho hf =>
          rw [get?_of_entries? hv] at ho
          exact .inr ⟨_, _, _, _, hm, ho, hp, hf⟩

theorem mem_fieldProblems_iff (path : List Step) (entries : List (Scalar × Value))
    (fields : List (String × Shape)) (p : Problem) :
    p ∈ fieldProblems path entries fields ↔
      ∃ name shape value rest, (name, shape) ∈ fields ∧
        Value.lookup entries (.str name) = some value ∧ p.path = path ++ .field name :: rest ∧
        Finds shape value rest p.departure := by
  match fields with
  | [] => simp [fieldProblems]
  | (name, shape) :: others =>
    rw [fieldProblems_cons, List.mem_append, mem_fieldProblems_iff path entries others]
    simp only [List.mem_flatMap, Option.mem_toList, mem_problems_iff _ shape]
    constructor
    · intro hp
      rcases hp with ⟨value, hv, rest, hp, hf⟩ | ⟨other, shape, value, rest, hm, hf⟩
      · exact ⟨name, shape, value, rest, List.mem_cons_self, hv, by simpa using hp, hf⟩
      · exact ⟨other, shape, value, rest, List.mem_cons_of_mem _ hm, hf⟩
    · intro hp
      obtain ⟨other, shape', value, rest, hm, hv, hp, hf⟩ := hp
      rcases List.mem_cons.mp hm with he | hm
      · cases he
        exact .inl ⟨value, hv, rest, by simpa using hp, hf⟩
      · exact .inr ⟨other, shape', value, rest, hm, hv, hp, hf⟩

end

/-- What holds of the departures of a value does not depend on the path to it. -/
theorem forall_departure_iff (path : List Step) (shape : Shape) (v : Value)
    (holds : Departure → Prop) :
    (∀ p ∈ problems path shape v, holds p.departure) ↔
      ∀ rest d, Finds shape v rest d → holds d := by
  constructor
  · intro hp rest d hf
    exact hp ⟨path ++ rest, d⟩ ((mem_problems_iff ..).mpr ⟨rest, rfl, hf⟩)
  · intro hd p hp
    obtain ⟨rest, -, hf⟩ := (mem_problems_iff ..).mp hp
    exact hd rest p.departure hf

end Shape

end CacheWiring
