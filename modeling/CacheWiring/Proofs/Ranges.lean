import CacheWiring.Proofs.Places
import Mathlib.Data.List.Perm.Basic

namespace CacheWiring

namespace Value

theorem Whole.unique {v : Value} {m n : Int} (hm : v.Whole m) (hn : v.Whole n) : m = n := by
  cases hm with
  | int => cases hn with
    | int => rfl
  | float hx => cases hn with
    | float hy => exact_mod_cast Option.some.inj (hx.symm.trans hy)

theorem Whole.isExpiration_iff {v : Value} {n : Int} (hn : v.Whole n) :
    v.IsExpiration ↔ ¬ n < 0 ∧ ¬ maxExpiration < n := by
  have hmax : maxExpiration = 2592000 := rfl
  constructor
  · intro he
    obtain ⟨m, hm, hrange⟩ := he
    obtain rfl := hn.unique hm
    omega
  · intro hp
    exact ⟨n, hn, by omega⟩

instance : DecidablePred IsExpiration := fun v =>
  decidable_of_iff ((Shape.integerDepartures 0 (some maxExpiration) v).isEmpty = true) (by
    rw [List.isEmpty_iff, Shape.integerDepartures_eq_nil_iff]
    simp [IsExpiration, maxExpiration])

/-- How a whole number out of range departs from an expiration. -/
def misfit (v : Value) : Departure :=
  if v.standing 0 == some .lt then .below v 0 else .above v maxExpiration

theorem unwritable?_misfit (v : Value) : v.misfit.unwritable? = v.unwritable? := by
  unfold misfit
  split <;> rfl

theorem integerDepartures_whole {v : Value} {n : Int} (hn : v.Whole n) :
    Shape.integerDepartures 0 (some maxExpiration) v =
      if v.IsExpiration then [] else [v.misfit] := by
  have hinteger : v.isInteger = true := (isInteger_iff v).mpr ⟨n, hn⟩
  have hmax : maxExpiration = 2592000 := rfl
  simp only [Shape.integerDepartures, Shape.typeDeparture, hinteger, hn.standing, misfit,
    hn.isExpiration_iff, ↓reduceIte, List.nil_append, beq_iff_eq, Option.some.injEq,
    compare_lt_iff_lt, compare_gt_iff_gt]
  by_cases hlow : n < 0
  · have hhigh : ¬ maxExpiration < n := by omega
    simp [hlow, hhigh]
  · by_cases hhigh : maxExpiration < n
    · simp [hlow, hhigh]
    · simp [hlow, hhigh]

/-- What is declared as an expiration in a document, by default or for a cluster. -/
def expirations (document : Value) : List Value :=
  ((document.get? "spec").bind (·.get? "defaultExpiration")).toList ++
    (Problem.clusterEntries document).flatMap fun entry => (entry.get? "expiration").toList

def clusterNames (document : Value) : List Value :=
  (Problem.clusterEntries document).flatMap fun entry => (entry.get? "name").toList

def outOfRange (document : Value) : List Value :=
  document.expirations.filter fun v => !decide v.IsExpiration

def emptyNames (document : Value) : List Value := document.clusterNames.filter (·.isStr "")

theorem flatMap_integerDepartures {values : List Value} (hv : ∀ v ∈ values, ∃ n, v.Whole n) :
    values.flatMap (Shape.integerDepartures 0 (some maxExpiration)) =
      (values.filter fun v => !decide v.IsExpiration).map misfit := by
  induction values with
  | nil => rfl
  | cons v rest ih =>
    rw [List.forall_mem_cons] at hv
    obtain ⟨⟨n, hn⟩, hrest⟩ := hv
    rw [List.flatMap_cons, ih hrest, integerDepartures_whole hn]
    by_cases he : v.IsExpiration <;> simp [he]

theorem flatMap_textDepartures {values : List Value} (hv : ∀ v ∈ values, v.IsText) :
    values.flatMap (Shape.textDepartures true) =
      (values.filter (·.isStr "")).map Departure.empty := by
  induction values with
  | nil => rfl
  | cons v rest ih =>
    rw [List.forall_mem_cons] at hv
    obtain ⟨⟨s, rfl⟩, hrest⟩ := hv
    rw [List.flatMap_cons, ih hrest]
    cases s <;> rfl

end Value

namespace Grammar

/-- An entry by the grammar, but for the range of its expiration and an empty name. -/
structure RoughEntry (v : Value) : Prop where
  keys : v.HasOnly ["name", "expiration"]
  name : v.Must "name" Value.IsText
  expiration : v.May "expiration" fun e => ∃ n, e.Whole n

structure RoughSpecification (v : Value) : Prop where
  keys : v.HasOnly ["region", "defaultExpiration", "clusters", "stack", "client"]
  region : v.May "region" Value.IsName
  defaultExpiration : v.May "defaultExpiration" fun e => ∃ n, e.Whole n
  clusters : v.May "clusters" fun list =>
    ∃ items, list.items? = some items ∧ ∀ item ∈ items, RoughEntry item
  stack : v.May "stack" StackSection
  client : v.May "client" ClientSection

/-- A document by the grammar, but for the ranges of expirations and empty names of clusters. -/
structure RoughDocument (v : Value) : Prop where
  keys : v.HasOnly ["apiVersion", "kind", "metadata", "spec"]
  version : v.Must "apiVersion" fun version => version = .str "elasticache-caching/v1"
  kind : v.Must "kind" fun kind => kind = .str "CacheConfiguration"
  metadata : v.May "metadata" Metadata
  specification : v.Must "spec" RoughSpecification

end Grammar

namespace Shape

theorem departure_located (path : List Step) (departures : List Departure) :
    (located path departures).map Problem.departure = departures := by
  rw [located, List.map_map]
  exact List.map_id _

def fieldDepartures (path : List Step) (v : Value) (name : String) (shape : Shape) :
    List Departure :=
  (v.get? name).toList.flatMap fun value =>
    (problems (path ++ [.field name]) shape value).map Problem.departure

theorem departure_fieldProblems {v : Value} {entries : List (Scalar × Value)}
    (he : v.entries? = some entries) (path : List Step) (fields : List (String × Shape)) :
    (fieldProblems path entries fields).map Problem.departure =
      fields.flatMap fun field => fieldDepartures path v field.1 field.2 := by
  induction fields with
  | nil => rfl
  | cons field rest ih =>
    obtain ⟨name, shape⟩ := field
    rw [fieldProblems_cons, List.map_append, ih, List.map_flatMap, List.flatMap_cons,
      fieldDepartures, get?_of_entries? he]

/-- A closed mapping with the right keys has the departures of its fields. -/
theorem departure_closed {v : Value} {required : List String} {fields : List (String × Shape)}
    (hk : v.HasOnly (fields.map (·.1)))
    (hr : ∀ name ∈ required, ∃ value, v.get? (name : String) = some value) (path : List Step) :
    (problems path (record required true fields) v).map Problem.departure =
      fields.flatMap fun field => fieldDepartures path v field.1 field.2 := by
  obtain ⟨entries, he, hkeys⟩ := hk
  have hown : recordDepartures required true (fields.map (·.1)) entries = [] := by
    rw [recordDepartures_eq_nil_iff]
    simp only [get?_of_entries? he] at hr
    exact ⟨hr, fun _ => hkeys⟩
  simp only [problems, he, hown, located, List.map_nil, List.nil_append,
    departure_fieldProblems he]

theorem fieldDepartures_fitting {v : Value} {name : String} {shape : Shape}
    (hf : v.May name shape.Fits) (path : List Step) : fieldDepartures path v name shape = [] := by
  rw [fieldDepartures, List.flatMap_eq_nil_iff]
  intro value hv
  rw [(problems_eq_nil_iff _ _ _).mpr (hf value (Option.mem_toList.mp hv)), List.map_nil]

def entryDepartures (entry : Value) : List Departure :=
  (entry.get? "name").toList.flatMap (textDepartures true) ++
    (entry.get? "expiration").toList.flatMap (integerDepartures 0 (some maxExpiration))

theorem departure_roughEntry {v : Value} (hv : Grammar.RoughEntry v) (path : List Step) :
    (problems path clusterEntry v).map Problem.departure = entryDepartures v := by
  obtain ⟨name, hname, -⟩ := hv.name
  rw [clusterEntry, departure_closed hv.keys (by simp [hname])]
  simp [fieldDepartures, problems, departure_located, entryDepartures]

theorem departure_list {v : Value} {values : List Value} (hv : v.items? = some values)
    {items : Shape} {own : Value → List Departure}
    (ho : ∀ value ∈ values, ∀ path, (problems path items value).map Problem.departure = own value)
    (path : List Step) :
    (problems path (list items) v).map Problem.departure = values.flatMap own := by
  simp only [problems, hv, List.map_flatMap]
  calc values.zipIdx.flatMap (fun entry =>
        (problems (path ++ [.item entry.2]) items entry.1).map Problem.departure)
    _ = values.zipIdx.flatMap (fun entry => own entry.1) :=
      List.flatMap_congr fun entry hm => ho _ (List.fst_mem_of_mem_zipIdx hm) _
    _ = values.flatMap own := by
      rw [← List.flatMap_map, List.zipIdx_map_fst]

theorem departure_roughSpecification {v : Value} (hv : Grammar.RoughSpecification v)
    (path : List Step) :
    (problems path specSection v).map Problem.departure =
      (v.get? "defaultExpiration").toList.flatMap (integerDepartures 0 (some maxExpiration)) ++
        (((v.get? "clusters").bind Value.items?).getD []).flatMap entryDepartures := by
  have hregion : v.May "region" (string true).Fits := fits_name ▸ hv.region
  have hstack : v.May "stack" stackSection.Fits := fits_stackSection ▸ hv.stack
  have hclient : v.May "client" clientSection.Fits := fits_clientSection ▸ hv.client
  have hclusters : fieldDepartures path v "clusters" (list clusterEntry) =
      (((v.get? "clusters").bind Value.items?).getD []).flatMap entryDepartures := by
    cases hc : v.get? "clusters" with
    | none => simp [fieldDepartures, hc]
    | some clusters =>
      obtain ⟨items, hitems, hentries⟩ := hv.clusters clusters hc
      simp only [fieldDepartures, hc, hitems, Option.toList_some, List.flatMap_cons,
        List.flatMap_nil, List.append_nil, Option.bind_some, Option.getD_some]
      exact departure_list hitems (fun entry hm => departure_roughEntry (hentries entry hm)) _
  rw [specSection, departure_closed hv.keys (by simp)]
  simp only [List.flatMap_cons, List.flatMap_nil, fieldDepartures_fitting hregion,
    fieldDepartures_fitting hstack, fieldDepartures_fitting hclient, hclusters, List.nil_append,
    List.append_nil]
  simp [fieldDepartures, problems, departure_located]

theorem departure_roughDocument {document : Value} (hd : Grammar.RoughDocument document) :
    (Problem.found document).map Problem.departure =
      ((document.get? "spec").bind (·.get? "defaultExpiration")).toList.flatMap
          (integerDepartures 0 (some maxExpiration)) ++
        (Problem.clusterEntries document).flatMap entryDepartures := by
  obtain ⟨spec, hspec, hs⟩ := hd.specification
  obtain ⟨⟨version, hversion⟩, hknown⟩ := (Value.must_iff ..).mp hd.version
  obtain ⟨⟨kind, hkind⟩, hexact⟩ := (Value.must_iff ..).mp hd.kind
  have hfits : document.May "apiVersion" (exactly knownVersion).Fits := by
    rw [fits_exactly]
    exact hknown
  have hkindFits : document.May "kind" (exactly "CacheConfiguration").Fits := by
    rw [fits_exactly]
    exact hexact
  have hmetadata : document.May "metadata" metadataSection.Fits :=
    fits_metadataSection ▸ hd.metadata
  rw [Problem.found, Shape.document, departure_closed hd.keys (by simp [hversion, hkind, hspec])]
  simp only [List.flatMap_cons, List.flatMap_nil, fieldDepartures_fitting hfits,
    fieldDepartures_fitting hkindFits, fieldDepartures_fitting hmetadata, List.nil_append,
    List.append_nil]
  simp only [fieldDepartures, hspec, Option.toList_some, List.flatMap_cons, List.flatMap_nil,
    List.append_nil, Option.bind_some, departure_roughSpecification hs, Problem.clusterEntries]

end Shape

open Problem

namespace Grammar.RoughDocument

variable {document : Value}

theorem entries (hd : RoughDocument document) :
    ∀ entry ∈ clusterEntries document, RoughEntry entry := by
  obtain ⟨spec, hspec, hs⟩ := hd.specification
  intro entry hm
  obtain ⟨i, hi, rfl⟩ := List.mem_iff_getElem.mp hm
  obtain ⟨spec', clusters, items, hspec', hclusters, hitems, hentry⟩ :=
    (clusterEntries_getElem?_iff document i _).mp (List.getElem?_eq_getElem hi)
  obtain rfl := Option.some.inj (hspec.symm.trans hspec')
  obtain ⟨items', hitems', hentries⟩ := hs.clusters clusters hclusters
  obtain rfl := Option.some.inj (hitems.symm.trans hitems')
  exact hentries _ (List.mem_of_getElem? hentry)

theorem expirations_whole (hd : RoughDocument document) :
    ∀ v ∈ document.expirations, ∃ n, v.Whole n := by
  obtain ⟨spec, hspec, hs⟩ := hd.specification
  intro v hv
  rcases List.mem_append.mp hv with hv | hv
  · rw [hspec, Option.bind_some, Option.mem_toList] at hv
    exact hs.defaultExpiration v hv
  · obtain ⟨entry, hm, he⟩ := List.mem_flatMap.mp hv
    exact (hd.entries entry hm).expiration v (Option.mem_toList.mp he)

theorem clusterNames_texts (hd : RoughDocument document) :
    ∀ v ∈ document.clusterNames, v.IsText := by
  intro v hv
  obtain ⟨entry, hm, he⟩ := List.mem_flatMap.mp hv
  exact ((Value.must_iff ..).mp (hd.entries entry hm).name).2 v (Option.mem_toList.mp he)

/-- A rough document departs once for each expiration out of range and each empty name, in some
order, and in no other way. -/
theorem departure_perm (hd : RoughDocument document) :
    ((found document).map Problem.departure).Perm
      (document.outOfRange.map Value.misfit ++ document.emptyNames.map Departure.empty) := by
  rw [Shape.departure_roughDocument hd, Value.outOfRange, Value.emptyNames,
    ← Value.flatMap_integerDepartures hd.expirations_whole,
    ← Value.flatMap_textDepartures hd.clusterNames_texts, Value.expirations, Value.clusterNames,
    List.flatMap_append, List.flatMap_assoc, List.flatMap_assoc, List.append_assoc]
  apply List.Perm.append_left
  exact (List.flatMap_append_perm _ _ _).symm.trans List.perm_append_comm

end Grammar.RoughDocument

/-- The faults of a declaration with a value that is out of range. One that is too long to be shown
in the complaint makes a fault of its own. -/
inductive Fault.OfDeclaration : Fault → Prop
  | emptyName : OfDeclaration .emptyClusterName
  | tooLow (owner : ExpirationOwner) (found : Value) : OfDeclaration (.expirationTooLow owner found)
  | tooHigh (owner : ExpirationOwner) (found : Value) :
      OfDeclaration (.expirationTooHigh owner found)
  | tooLong : OfDeclaration (.tooManyDigits none)

theorem Value.Whole.not_tooDeep {v : Value} {n : Int} (hn : v.Whole n) :
    v.unwritable? ≠ some .tooDeep := by
  cases hn <;> exact unwritable?_scalar _

theorem ofExpiration_ofDeclaration {owner : ExpirationOwner} (ho : owner.unwritable? = none)
    {v : Value} {n : Int} (hn : v.Whole n) {complaint : Fault} (hc : complaint.OfDeclaration) :
    (ofExpiration owner v complaint).OfDeclaration := by
  rw [ofExpiration, ho, Option.none_or]
  cases hv : v.unwritable? with
  | none => exact hc
  | some reason =>
    cases reason with
    | tooManyDigits => exact .tooLong
    | tooDeep => exact absurd hv hn.not_tooDeep

theorem checkExpiration_whole (owner : ExpirationOwner) {v : Value} {n : Int} (hn : v.Whole n) :
    checkExpiration owner v =
      if n < 0 then .error (ofExpiration owner v (.expirationTooLow owner v))
      else if maxExpiration < n then .error (ofExpiration owner v (.expirationTooHigh owner v))
      else .ok () := by
  have hnull : v.isNull = false := by cases hn <;> rfl
  have hbelow : v.isBelow 0 = .ok (decide (n < 0)) := by
    simp [Value.isBelow, hn.compareInt?, compare_lt_iff_lt, Bool.beq_eq_decide_eq]
  have habove : v.isAbove maxExpiration = .ok (decide (maxExpiration < n)) := by
    simp [Value.isAbove, hn.compareInt?, compare_gt_iff_gt, Bool.beq_eq_decide_eq]
  simp only [checkExpiration, hnull, hbelow, habove, Bool.false_eq_true, ↓reduceIte]
  by_cases hlow : n < 0
  · rw [if_pos hlow, decide_eq_true hlow]
    rfl
  · rw [if_neg hlow, decide_eq_false hlow]
    by_cases hhigh : maxExpiration < n
    · rw [if_pos hhigh, decide_eq_true hhigh]
      rfl
    · rw [if_neg hhigh, decide_eq_false hhigh]
      rfl

/-- Of whole numbers just those in range pass. -/
theorem checkExpiration_rough (owner : ExpirationOwner) (ho : owner.unwritable? = none)
    {v : Value} (hv : v = .null ∨ ∃ n, v.Whole n) :
    FailsAs Fault.OfDeclaration (checkExpiration owner v) ∧
      (checkExpiration owner v = .ok () → v = .null ∨ v.IsExpiration) := by
  rcases hv with rfl | ⟨n, hn⟩
  · exact ⟨.ok (), fun _ => .inl rfl⟩
  · rw [checkExpiration_whole owner hn, hn.isExpiration_iff]
    by_cases hlow : n < 0
    · rw [if_pos hlow]
      exact ⟨.error (ofExpiration_ofDeclaration ho hn (.tooLow owner v)), nofun⟩
    · by_cases hhigh : maxExpiration < n
      · rw [if_neg hlow, if_pos hhigh]
        exact ⟨.error (ofExpiration_ofDeclaration ho hn (.tooHigh owner v)), nofun⟩
      · rw [if_neg hlow, if_neg hhigh]
        exact ⟨.ok (), fun _ => .inr ⟨hlow, hhigh⟩⟩

/-- A whole number that passes is in range, since it is not null. -/
theorem may_isExpiration {v : Value} {name : String} (hv : v.May name fun e => ∃ n, e.Whole n)
    (hp : (v.get? name).getD .null = .null ∨ ((v.get? name).getD .null).IsExpiration) :
    v.May name Value.IsExpiration := by
  intro e he
  rw [he, Option.getD_some] at hp
  rcases hp with rfl | hrange
  · obtain ⟨n, hn⟩ := hv _ he
    cases hn
  · exact hrange

theorem ClusterDeclaration.ofDocument_rough {entry : Value} (he : Grammar.RoughEntry entry) :
    FailsAs Fault.OfDeclaration (ClusterDeclaration.ofDocument entry) ∧
      ∀ d, ClusterDeclaration.ofDocument entry = .ok d → Grammar.ClusterEntry entry := by
  obtain ⟨name, hname, s, rfl⟩ := he.name
  obtain ⟨hfails, hpasses⟩ := checkExpiration_rough (.cluster (.str s)) rfl he.expiration.getD_null
  have hread : ClusterDeclaration.ofDocument entry =
      ClusterDeclaration.make (.str s) ((entry.get? "expiration").getD .null) := by
    rw [ClusterDeclaration.ofDocument, Value.required_eq hname, Value.field_eq he.keys.isMapping]
    rfl
  rw [hread, ClusterDeclaration.make]
  cases hs : (Value.str s).truthy with
  | false =>
    refine ⟨.error .emptyName, fun d hd => ?_⟩
    cases hd
  | true =>
    have hname' : s ≠ [] := by simpa [Value.truthy, Value.opened] using hs
    refine ⟨.bind hfails fun _ => .ok _, fun d hd => ?_⟩
    obtain ⟨_, hchecked, -⟩ := bind_eq_ok_iff.mp hd
    exact ⟨he.keys, ⟨_, hname, s, rfl, hname'⟩, may_isExpiration he.expiration (hpasses hchecked)⟩

/-- Making a configuration of a rough document fails at a declaration, if at all, and never when
the document is not by the grammar. -/
theorem Configuration.ofDocument_rough {document : Value} (hd : Grammar.RoughDocument document) :
    FailsAs Fault.OfDeclaration (Configuration.ofDocument document) ∧
      ∀ c, Configuration.ofDocument document = .ok c → Grammar.Document document := by
  have hentries := hd.entries
  obtain ⟨spec, hspec, hs⟩ := hd.specification
  obtain ⟨stack, -, hread⟩ := Configuration.ofDocument_eq hd.keys.isMapping
    (fun field hf => (hd.metadata field hf).mapping) hspec hs.keys.isMapping
    (fun list hf => (hs.clusters list hf).imp fun _ hi => hi.1) hs.stack
    (fun client hf => (hs.client client hf).keys.isMapping)
  obtain ⟨hfails, hpasses⟩ := checkExpiration_rough .default rfl hs.defaultExpiration.getD_null
  rw [clusterEntries, hspec, Option.bind_some] at hentries
  rw [hread]
  constructor
  · refine .bind ?_ fun clusters => .bind hfails fun _ => .ok _
    intro fault hf
    obtain ⟨entry, hm, hentry⟩ := exists_of_mapM_error hf
    exact (ClusterDeclaration.ofDocument_rough (hentries entry hm)).1 fault hentry
  · intro c hc
    obtain ⟨clusters, hclusters, hc⟩ := bind_eq_ok_iff.mp hc
    obtain ⟨_, hchecked, -⟩ := bind_eq_ok_iff.mp hc
    have hspecification : Grammar.Specification spec := by
      refine ⟨hs.keys, hs.region, may_isExpiration hs.defaultExpiration (hpasses hchecked),
        fun list hf => ?_, hs.stack, hs.client⟩
      obtain ⟨items, hitems, hrough⟩ := hs.clusters list hf
      rw [hf, Option.bind_some, hitems, Option.getD_some] at hclusters
      refine ⟨items, hitems, fun item hm => ?_⟩
      obtain ⟨d, hdeclared⟩ := exists_of_mapM_ok hclusters item hm
      exact (ClusterDeclaration.ofDocument_rough (hrough item hm)).2 d hdeclared
    exact ⟨hd.keys, hd.version, hd.kind, hd.metadata, ⟨spec, hspec, hspecification⟩⟩

namespace Grammar.RoughDocument

variable {document : Value}

theorem known (hd : RoughDocument document) :
    document.get? "apiVersion" = some (.str knownVersion) := by
  obtain ⟨version, hversion, rfl⟩ := hd.version
  exact hversion

theorem length_found (hd : RoughDocument document) :
    (found document).length = document.outOfRange.length + document.emptyNames.length := by
  simpa using hd.departure_perm.length_eq

/-- The problems can be told when the expirations out of range can be written. -/
theorem checked_iff (hd : RoughDocument document) :
    (∃ lines, checkDocument document = .ok lines) ↔
      ∀ v ∈ document.outOfRange, v.unwritable? = none := by
  have hempty : ∀ v ∈ document.emptyNames, (Departure.empty v).unwritable? = none := by
    intro v hv
    obtain rfl := (Shape.isStr_iff v "").mp (List.mem_filter.mp hv).2
    rfl
  calc (∃ lines, checkDocument document = .ok lines)
    _ ↔ ∀ p ∈ found document, p.departure.unwritable? = none := by
      simp only [checkDocument_eq_ok_iff hd.known, exists_and_left, exists_eq, and_true]
    _ ↔ ∀ d ∈ (found document).map Problem.departure, d.unwritable? = none := by
      rw [List.forall_mem_map]
    _ ↔ ∀ v ∈ document.outOfRange, v.unwritable? = none := by
      simp only [hd.departure_perm.mem_iff, List.forall_mem_append, List.forall_mem_map,
        Value.unwritable?_misfit]
      exact and_iff_left hempty

end Grammar.RoughDocument

/-- Of a rough document no configuration can be made exactly when it has an expiration out of range
or an empty name. The check has a line for each of these, and it can tell them exactly when the
expirations out of range can be written. -/
theorem rough_document_refused_iff {document : Value} (rough : Grammar.RoughDocument document) :
    ((∃ fault, Configuration.ofDocument document = .error fault ∧ fault.OfDeclaration) ↔
      document.outOfRange.length + document.emptyNames.length ≠ 0) ∧
    (∀ fault, Configuration.ofDocument document = .error fault → fault.OfDeclaration) ∧
    (∀ lines, checkDocument document = .ok lines →
      lines.length = document.outOfRange.length + document.emptyNames.length) ∧
    ((∃ lines, checkDocument document = .ok lines) ↔
      ∀ v ∈ document.outOfRange, v.unwritable? = none) := by
  obtain ⟨hfails, hpasses⟩ := Configuration.ofDocument_rough rough
  have hgrammar : Grammar.Document document ↔ found document = [] := by
    rw [found, Shape.problems_eq_nil_iff, Shape.fits_document]
  refine ⟨?_, hfails, fun lines hc => ?_, rough.checked_iff⟩
  · rw [← rough.length_found, Ne, List.length_eq_zero_iff, ← hgrammar]
    constructor
    · intro hf hd
      obtain ⟨fault, hf, -⟩ := hf
      obtain ⟨c, hc, -⟩ := Configuration.ofDocument_document hd
      cases hc.symm.trans hf
    · intro hd
      cases hc : Configuration.ofDocument document with
      | ok c => exact absurd (hpasses c hc) hd
      | error fault => exact ⟨fault, rfl, hfails fault hc⟩
  · rw [((checkDocument_eq_ok_iff rough.known lines).mp hc).2, List.length_map, told,
      List.length_mergeSort, rough.length_found]

def plainDocument (default : Int) (name : Text) : Value :=
  .dict [(.str "apiVersion", .str knownVersion), (.str "kind", .str "CacheConfiguration"),
    (.str "spec", .dict [(.str "defaultExpiration", .int default),
      (.str "clusters", .list [.dict [(.str "name", .str name)]])])]

theorem plainDocument_rough (default : Int) (name : Text) :
    Grammar.RoughDocument (plainDocument default name) where
  keys := ⟨_, rfl, by simp⟩
  version := ⟨_, rfl, rfl⟩
  kind := ⟨_, rfl, rfl⟩
  metadata := fun _ hf => nomatch hf
  specification := ⟨_, rfl, {
    keys := ⟨_, rfl, by simp⟩
    region := fun _ hf => nomatch hf
    defaultExpiration := fun _ hf => by
      cases hf
      exact ⟨default, .int default⟩
    clusters := fun _ hf => by
      cases hf
      refine ⟨_, rfl, fun item hm => ?_⟩
      obtain rfl := List.mem_singleton.mp hm
      exact ⟨⟨_, rfl, by simp⟩, ⟨_, rfl, name, rfl⟩, fun _ hf => nomatch hf⟩
    stack := fun _ hf => nomatch hf
    client := fun _ hf => nomatch hf }⟩

theorem two_misfits_are_reported :
    Grammar.RoughDocument (plainDocument (-1) "") ∧
      (∃ fault, Configuration.ofDocument (plainDocument (-1) "") = .error fault ∧
        fault.OfDeclaration) ∧
      ∃ lines, checkDocument (plainDocument (-1) "") = .ok lines ∧ lines.length = 2 := by
  have hrough := plainDocument_rough (-1) ""
  obtain ⟨hrefused, -, hlength, hchecked⟩ := rough_document_refused_iff hrough
  obtain ⟨lines, hlines⟩ := hchecked.mpr (by decide +kernel)
  exact ⟨hrough, hrefused.mpr (by decide +kernel), lines, hlines, hlength lines hlines⟩

/-- A default of more digits than can be written is refused, but not reported. -/
theorem not_every_misfit_is_reported :
    ¬ ∀ document, Grammar.RoughDocument document →
      ((∃ fault, Configuration.ofDocument document = .error fault ∧ fault.OfDeclaration) ↔
        ∃ lines, checkDocument document = .ok lines ∧ lines ≠ []) := by
  intro hall
  have hrough := plainDocument_rough (Nat.pow 10 4300) "a"
  have hdigits : (Value.int (Nat.pow 10 4300)).unwritable? = some .tooManyDigits := by
    decide +kernel
  have hfault : Configuration.ofDocument (plainDocument (Nat.pow 10 4300) "a") =
      .error (.tooManyDigits none) := by
    have hread (n : Int) : Configuration.ofDocument (plainDocument n "a") =
        checkExpiration .default (.int n) >>= fun _ =>
          .ok { clusters := [⟨.str "a", .null⟩], defaultExpiration := .int n } := rfl
    have hshown (complaint : Fault) : ofExpiration .default (.int (Nat.pow 10 4300)) complaint =
        .tooManyDigits none := by
      rw [ofExpiration, hdigits]
      rfl
    rw [hread, checkExpiration_whole .default (.int _), hshown, hshown,
      if_neg (by decide +kernel), if_pos (by decide +kernel)]
    rfl
  obtain ⟨lines, hlines, -⟩ := (hall _ hrough).mp ⟨_, hfault, .tooLong⟩
  have hwritable := hrough.checked_iff.mp ⟨lines, hlines⟩ (.int (Nat.pow 10 4300))
    (List.mem_filter.mpr ⟨List.mem_singleton_self _, by decide +kernel⟩)
  cases hdigits.symm.trans hwritable

end CacheWiring
