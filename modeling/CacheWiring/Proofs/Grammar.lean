import CacheWiring.Proofs.Shapes
import CacheWiring.Schema.Document
import Mathlib.Tactic.MkIffOfInductiveProp

namespace CacheWiring

namespace Value

def IsMapping (v : Value) : Prop := ∃ entries, v.entries? = some entries

/-- A mapping with no keys but these texts. -/
def HasOnly (v : Value) (names : List String) : Prop :=
  ∃ entries, v.entries? = some entries ∧
    ∀ entry ∈ entries, ∃ name ∈ names, entry.1 = .str (name : String)

def May (v : Value) (name : String) (P : Value → Prop) : Prop :=
  ∀ field, v.get? name = some field → P field

def Must (v : Value) (name : String) (P : Value → Prop) : Prop :=
  ∃ field, v.get? name = some field ∧ P field

def IsText (v : Value) : Prop := ∃ s : Text, v = .str s

def IsName (v : Value) : Prop := ∃ s : Text, v = .str s ∧ s ≠ []

/-- Up to thirty days in whole seconds. -/
def IsExpiration (v : Value) : Prop := ∃ n, v.Whole n ∧ 0 ≤ n ∧ n ≤ 2592000

theorem HasOnly.isMapping {v : Value} {names : List String} (h : v.HasOnly names) : v.IsMapping := by
  obtain ⟨entries, he, -⟩ := h
  exact ⟨entries, he⟩

theorem isMapping_of_get? {v field : Value} {name : Text} (hf : v.get? name = some field) :
    v.IsMapping := by
  obtain ⟨entries, he, -⟩ := Option.bind_eq_some_iff.mp hf
  exact ⟨entries, he⟩

theorem must_iff (v : Value) (name : String) (P : Value → Prop) :
    v.Must name P ↔ (∃ field, v.get? name = some field) ∧ v.May name P := by
  constructor
  · intro hm
    obtain ⟨field, hf, hp⟩ := hm
    refine ⟨⟨field, hf⟩, fun other ho => ?_⟩
    obtain rfl := Option.some.inj (hf.symm.trans ho)
    exact hp
  · intro hm
    obtain ⟨⟨field, hf⟩, hp⟩ := hm
    exact ⟨field, hf, hp field hf⟩

end Value

namespace Grammar

@[mk_iff]
structure ClusterEntry (v : Value) : Prop where
  keys : v.HasOnly ["name", "expiration"]
  name : v.Must "name" Value.IsName
  expiration : v.May "expiration" Value.IsExpiration

@[mk_iff]
structure StackSection (v : Value) : Prop where
  keys : v.HasOnly ["provider", "name", "project", "exportFile"]
  name : v.Must "name" Value.IsName
  provider : v.May "provider" fun p => p = .str "cloudformation" ∨ p = .str "pulumi"
  project : v.May "project" Value.IsText
  exportFile : v.May "exportFile" Value.IsText

/-- Time limits are numbers that are not at or below zero, and not a number is such a one. -/
@[mk_iff]
structure ClientSection (v : Value) : Prop where
  keys : v.HasOnly ["connectTimeout", "timeout", "maxPoolSize"]
  connectTimeout : v.May "connectTimeout" fun t => t.IsNumeric ∧ ¬ t.AtMost 0
  timeout : v.May "timeout" fun t => t.IsNumeric ∧ ¬ t.AtMost 0
  maxPoolSize : v.May "maxPoolSize" fun size => ∃ n, size.Whole n ∧ 1 ≤ n

@[mk_iff]
structure Specification (v : Value) : Prop where
  keys : v.HasOnly ["region", "defaultExpiration", "clusters", "stack", "client"]
  region : v.May "region" Value.IsName
  defaultExpiration : v.May "defaultExpiration" Value.IsExpiration
  clusters : v.May "clusters" fun list =>
    ∃ items, list.items? = some items ∧ ∀ item ∈ items, ClusterEntry item
  stack : v.May "stack" StackSection
  client : v.May "client" ClientSection

/-- Keys other than these two are free. -/
@[mk_iff]
structure Metadata (v : Value) : Prop where
  mapping : v.IsMapping
  name : v.May "name" Value.IsText
  description : v.May "description" Value.IsText

@[mk_iff]
structure Document (v : Value) : Prop where
  keys : v.HasOnly ["apiVersion", "kind", "metadata", "spec"]
  version : v.Must "apiVersion" fun version => version = .str "elasticache-caching/v1"
  kind : v.Must "kind" fun kind => kind = .str "CacheConfiguration"
  metadata : v.May "metadata" Metadata
  specification : v.Must "spec" Specification

end Grammar

namespace Shape

theorem get?_of_entries? {v : Value} {entries : List (Scalar × Value)}
    (he : v.entries? = some entries) (name : Text) :
    v.get? name = Value.lookup entries (.str name) := by
  simp [Value.get?, he]

theorem fieldsFit_iff {v : Value} {entries : List (Scalar × Value)}
    (he : v.entries? = some entries) (fields : List (String × Shape)) :
    FieldsFit entries fields ↔ ∀ field ∈ fields, v.May field.1 field.2.Fits := by
  induction fields with
  | nil => simp [FieldsFit]
  | cons field rest ih =>
    obtain ⟨name, shape⟩ := field
    simp only [FieldsFit, ih, List.forall_mem_cons, Value.May, get?_of_entries? he]

theorem fits_closed_iff (required : List String) (fields : List (String × Shape)) (v : Value) :
    (record required true fields).Fits v ↔
      v.HasOnly (fields.map (·.1)) ∧
        (∀ name ∈ required, ∃ field, v.get? (name : String) = some field) ∧
        ∀ field ∈ fields, v.May field.1 field.2.Fits := by
  rw [Fits]
  constructor
  · intro hp
    obtain ⟨entries, he, hrequired, hkeys, hfields⟩ := hp
    simp only [get?_of_entries? he]
    exact ⟨⟨entries, he, hkeys rfl⟩, hrequired, (fieldsFit_iff he fields).mp hfields⟩
  · intro hp
    obtain ⟨⟨entries, he, hkeys⟩, hrequired, hfields⟩ := hp
    simp only [get?_of_entries? he] at hrequired
    exact ⟨entries, he, hrequired, fun _ => hkeys, (fieldsFit_iff he fields).mpr hfields⟩

theorem fits_open_iff (fields : List (String × Shape)) (v : Value) :
    (record [] false fields).Fits v ↔
      v.IsMapping ∧ ∀ field ∈ fields, v.May field.1 field.2.Fits := by
  rw [Fits]
  constructor
  · intro hp
    obtain ⟨entries, he, -, -, hfields⟩ := hp
    exact ⟨⟨entries, he⟩, (fieldsFit_iff he fields).mp hfields⟩
  · intro hp
    obtain ⟨⟨entries, he⟩, hfields⟩ := hp
    exact ⟨entries, he, by simp, by simp, (fieldsFit_iff he fields).mpr hfields⟩

theorem fits_name : (string true).Fits = Value.IsName := by
  funext v
  simp [Fits, Value.IsName]

theorem fits_text : (string false).Fits = Value.IsText := by
  funext v
  simp [Fits, Value.IsText]

theorem fits_expiration : (integer 0 (some maxExpiration)).Fits = Value.IsExpiration := by
  funext v
  simp [Fits, Value.IsExpiration, maxExpiration]

theorem fits_provider : (oneOf ["cloudformation", "pulumi"]).Fits =
    fun p => p = .str "cloudformation" ∨ p = .str "pulumi" := by
  funext p
  simp [Fits]

theorem fits_timeLimit : (number 0).Fits = fun t => t.IsNumeric ∧ ¬ t.AtMost 0 := by
  funext t
  rw [Fits]

theorem fits_poolSize : (integer 1 none).Fits = fun size => ∃ n, size.Whole n ∧ 1 ≤ n := by
  funext size
  simp [Fits]

theorem fits_clusterEntry : clusterEntry.Fits = Grammar.ClusterEntry := by
  funext v
  simp [clusterEntry, fits_closed_iff, Grammar.clusterEntry_iff, Value.must_iff, fits_name,
    fits_expiration, and_assoc]

theorem fits_clusters : (list clusterEntry).Fits = fun list =>
    ∃ items, list.items? = some items ∧ ∀ item ∈ items, Grammar.ClusterEntry item := by
  funext v
  rw [Fits, fits_clusterEntry]

theorem fits_stackSection : stackSection.Fits = Grammar.StackSection := by
  funext v
  simp [stackSection, fits_closed_iff, Grammar.stackSection_iff, Value.must_iff, fits_name,
    fits_text, fits_provider, and_assoc, and_left_comm]

theorem fits_clientSection : clientSection.Fits = Grammar.ClientSection := by
  funext v
  simp [clientSection, fits_closed_iff, Grammar.clientSection_iff, fits_timeLimit, fits_poolSize]

theorem fits_specSection : specSection.Fits = Grammar.Specification := by
  funext v
  simp [specSection, fits_closed_iff, Grammar.specification_iff, fits_name, fits_expiration,
    fits_clusters, fits_stackSection, fits_clientSection]

theorem fits_metadataSection : metadataSection.Fits = Grammar.Metadata := by
  funext v
  simp [metadataSection, fits_open_iff, Grammar.metadata_iff, fits_text]

theorem fits_exactly (text : String) : (exactly text).Fits = fun v => v = .str text := by
  funext v
  rw [Fits]

theorem fits_document : document.Fits = Grammar.Document := by
  funext v
  simp [document, fits_closed_iff, Grammar.document_iff, Value.must_iff, fits_exactly, knownVersion,
    fits_metadataSection, fits_specSection, and_assoc, and_left_comm]

end Shape

/-- There are no lines only when there are no problems, whether or not these can be written. -/
theorem problemLines_eq_nil_iff (document : Value) (problems : List Problem) :
    problemLines document problems = .ok [] ↔ problems = [] := by
  constructor
  · intro hp
    unfold problemLines at hp
    split at hp
    · cases hp
    · have hlength := congrArg List.length (Except.ok.inj hp)
      rw [List.length_map, List.length_mergeSort] at hlength
      exact List.length_eq_zero_iff.mp hlength
  · intro hp
    rw [hp]
    simp [problemLines]

/-- With a known version it is the shape that decides. -/
theorem checkDocument_known {document : Value}
    (hv : document.get? "apiVersion" = some (.str knownVersion)) :
    checkDocument document = problemLines document (Shape.document.problems [] document) := by
  unfold checkDocument
  cases he : document.entries? with
  | none => simp [Value.get?, he] at hv
  | some entries =>
    have htruthy : (Value.str knownVersion).truthy = true := rfl
    have hknown : (Value.str knownVersion).isStr knownVersion = true := (Shape.isStr_iff _ _).mpr rfl
    simp only [hv, htruthy, hknown]
    rfl

/-- Any other version ends the check before that, with a line or a fault. -/
theorem version_of_checkDocument {document : Value} (hc : checkDocument document = .ok []) :
    document.get? "apiVersion" = some (.str knownVersion) := by
  unfold checkDocument at hc
  split at hc
  · cases hc
  · split at hc
    · cases hc
    · rename_i version hv
      split at hc
      · cases hc
      · split at hc
        · rename_i hknown
          rw [hv, (Shape.isStr_iff _ _).mp hknown]
        · cases hc

theorem document_of_checkDocument {document : Value} (hc : checkDocument document = .ok []) :
    Grammar.Document document := by
  rw [checkDocument_known (version_of_checkDocument hc), problemLines_eq_nil_iff,
    Shape.problems_eq_nil_iff, Shape.fits_document] at hc
  exact hc

theorem checkDocument_of_problems {document : Value}
    (hv : document.get? "apiVersion" = some (.str knownVersion))
    (hp : Shape.document.problems [] document = []) : checkDocument document = .ok [] := by
  rw [checkDocument_known hv, problemLines_eq_nil_iff]
  exact hp

theorem checkDocument_of_document {document : Value} (hd : Grammar.Document document) :
    checkDocument document = .ok [] := by
  obtain ⟨version, hv, rfl⟩ := hd.version
  apply checkDocument_of_problems hv
  rw [Shape.problems_eq_nil_iff, Shape.fits_document]
  exact hd

/-- A document has no problems exactly when it is written by the grammar. -/
theorem checkDocument_eq_nil_iff (document : Value) :
    checkDocument document = .ok [] ↔ Grammar.Document document :=
  ⟨document_of_checkDocument, checkDocument_of_document⟩

end CacheWiring
