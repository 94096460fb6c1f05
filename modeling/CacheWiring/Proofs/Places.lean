import CacheWiring.Proofs.Findings
import CacheWiring.Proofs.Loading
import CacheWiring.Proofs.Quotation

namespace CacheWiring

namespace Shape

theorem leads_record_iff (required : List String) (closed : Bool) (fields : List (String × Shape))
    (path : List Step) :
    (record required closed fields).Leads path ↔
      path = [] ∨ ∃ field ∈ fields, ∃ rest, field.2.Leads rest ∧ path = .field field.1 :: rest := by
  constructor
  · intro hl
    cases hl with
    | here => exact .inl rfl
    | field hm hr => exact .inr ⟨_, hm, _, hr, rfl⟩
  · intro hp
    rcases hp with rfl | ⟨field, hm, rest, hr, rfl⟩
    · exact .here _
    · exact .field hm hr

theorem leads_list_iff (items : Shape) (path : List Step) :
    (list items).Leads path ↔ path = [] ∨ ∃ i rest, items.Leads rest ∧ path = .item i :: rest := by
  constructor
  · intro hl
    cases hl with
    | here => exact .inl rfl
    | item i hr => exact .inr ⟨i, _, hr, rfl⟩
  · intro hp
    rcases hp with rfl | ⟨i, rest, hr, rfl⟩
    · exact .here _
    · exact .item i hr

def isLeaf : Shape → Bool
  | .list _ | .record .. => false
  | _ => true

theorem leads_leaf_iff {shape : Shape} (hs : shape.isLeaf = true) (path : List Step) :
    shape.Leads path ↔ path = [] := by
  constructor
  · intro hl
    cases hl with
    | here => rfl
    | item | field => cases hs
  · intro hp
    rw [hp]
    exact .here _

def withFields (path : List Step) (names : List String) : List (List Step) :=
  path :: names.map fun name => path ++ [.field name]

def plainPaths : List (List Step) :=
  [[], [.field "apiVersion"], [.field "kind"]] ++
    withFields [.field "metadata"] ["name", "description"] ++
    withFields [.field "spec"] ["region", "defaultExpiration", "clusters"] ++
    withFields [.field "spec", .field "stack"] ["provider", "name", "project", "exportFile"] ++
    withFields [.field "spec", .field "client"] ["connectTimeout", "timeout", "maxPoolSize"]

theorem leads_document_iff (path : List Step) :
    document.Leads path ↔ path ∈ plainPaths ∨
      ∃ i rest, clusterEntry.Leads rest ∧
        path = .field "spec" :: .field "clusters" :: .item i :: rest := by
  simp (disch := decide) only [document, metadataSection, specSection, stackSection, clientSection,
    leads_record_iff, leads_list_iff, leads_leaf_iff, plainPaths, withFields, List.mem_cons,
    List.not_mem_nil, List.cons_append, List.nil_append, List.map_cons, List.map_nil, or_false,
    or_and_right, exists_or, exists_eq_left, true_and, and_true, or_assoc, ↓existsAndEq]
  rw [← eq_iff_iff]
  ac_rfl

end Shape

namespace Problem

def entryPath (index : Nat) : List Step := [.field "spec", .field "clusters", .item index]

/-- The places outside the cluster entries, as they are told. -/
def plainPlaces : List String :=
  ["document", "apiVersion", "kind", "metadata", "metadata.name", "metadata.description", "spec",
    "region", "defaultExpiration", "clusters", "stack", "stack provider", "stack name",
    "stack project", "stack exportFile", "client", "client.connectTimeout", "client.timeout",
    "client.maxPoolSize"]

theorem place_plain (document : Value) :
    Shape.plainPaths.map (place document) = plainPlaces.map Text.ofString := rfl

def called (name : Option Text) (index : Nat) : Text :=
  match name with
  | some name => "cluster " ++ Text.quoted name
  | none => "cluster #" ++ toString (index + 1)

theorem joined_cons (separator head : Text) (texts : List Text) :
    Text.joined separator (head :: texts) = head ++ texts.flatMap (separator ++ ·) := by
  induction texts generalizing head with
  | nil => simp [Text.joined]
  | cons text rest ih =>
    have hrest := ih text
    simp only [Text.joined, List.intercalate] at hrest ⊢
    simp [hrest]

/-- The steps into an entry, each after a space. -/
def inside (rest : List Step) : Text := rest.flatMap fun step => " " ++ Text.ofString step.text

theorem place_entryPath (document : Value) (index : Nat) (rest : List Step) :
    place document (entryPath index ++ rest) = clusterLabel document index ++ inside rest := by
  have hplace : place document (entryPath index ++ rest) =
      spaced (clusterLabel document index) rest := rfl
  rw [hplace, spaced, joined_cons, inside, List.flatMap_map]

/-- The code points of a number in decimal. -/
theorem ofString_toString (n : Nat) :
    Text.ofString (toString n) = Text.ofChars (Nat.toDigits 10 n) := by
  rw [Text.ofString, Nat.toString_eq_repr, Nat.toList_repr]

theorem number_inj {m n : Nat} (he : Text.ofString (toString m) = Text.ofString (toString n)) :
    m = n := by
  rw [ofString_toString, ofString_toString] at he
  have hdigits : Nat.toDigits 10 m = Nat.toDigits 10 n := by
    rw [← Text.chars_ofChars (Nat.toDigits 10 m), he, Text.chars_ofChars]
  have hm := Numeral.digitsValue?_toDigits (show 1 < 10 by omega) (by omega) m
  rw [hdigits, Numeral.digitsValue?_toDigits (by omega) (by omega)] at hm
  exact (Option.some.inj hm).symm

theorem ofString_inj {s t : String} (he : Text.ofString s = Text.ofString t) : s = t := by
  have hchars : s.toList = t.toList := by
    rw [← Text.chars_ofChars s.toList, ← Text.chars_ofChars t.toList]
    exact congrArg Text.chars he
  exact String.toList_inj.mp hchars

/-- The path without the specification, in which most things lie. -/
def inner : List Step → List Step
  | .field "spec" :: rest => rest
  | path => path

/-- What an entry is called, if its name can be written. -/
def call (entry : Value) (index : Nat) : Except Fault Text :=
  match entry.get? "name" with
  | some name =>
    if name.truthy then
      match name.unwritable? with
      | some reason => .error (.ofUnwritable reason)
      | none => .ok ("cluster " ++ name.literal)
    else .ok ("cluster #" ++ toString (index + 1))
  | none => .ok ("cluster #" ++ toString (index + 1))

def found (document : Value) : List Problem := Shape.document.problems [] document

theorem mem_found_iff (document : Value) (p : Problem) :
    p ∈ found document ↔ Shape.document.Finds document p.path p.departure := by
  rw [found, Shape.mem_problems_iff]
  simp only [List.nil_append, exists_eq_left']

/-- The same problems in the order in which they are told. -/
def told (document : Value) : List Problem := (found document).mergeSort notAfter

/-- All problems are told once each of them can be written. -/
theorem checkDocument_eq_ok_iff {document : Value}
    (known : document.get? "apiVersion" = some (.str knownVersion)) (lines : List Text) :
    checkDocument document = .ok lines ↔
      (∀ p ∈ found document, p.departure.unwritable? = none) ∧
        lines = (told document).map (line document) := by
  rw [checkDocument_known known, ← found, ← List.findSome?_eq_none_iff, problemLines, told]
  constructor
  · intro hc
    split at hc
    · cases hc
    · rename_i hw
      exact ⟨hw, (Except.ok.inj hc).symm⟩
  · intro hp
    rw [hp.1, hp.2]

theorem clusterEntries_getElem?_iff (document : Value) (index : Nat) (entry : Value) :
    (clusterEntries document)[index]? = some entry ↔
      ∃ spec clusters items, document.get? "spec" = some spec ∧
        spec.get? "clusters" = some clusters ∧ clusters.items? = some items ∧
        items[index]? = some entry := by
  constructor
  · intro he
    cases hitems : ((document.get? "spec").bind (·.get? "clusters")).bind Value.items? with
    | none =>
      rw [clusterEntries, hitems] at he
      cases he
    | some items =>
      rw [clusterEntries, hitems] at he
      obtain ⟨clusters, hclusters, hi⟩ := Option.bind_eq_some_iff.mp hitems
      obtain ⟨spec, hspec, hc⟩ := Option.bind_eq_some_iff.mp hclusters
      exact ⟨spec, clusters, items, hspec, hc, hi, he⟩
  · intro hp
    obtain ⟨spec, clusters, items, hspec, hclusters, hitems, hi⟩ := hp
    simp [clusterEntries, hspec, hclusters, hitems, hi]

/-- What is found in an entry is found there in the document, and nothing else is. -/
theorem finds_entry_iff (document : Value) (index : Nat) (rest : List Step) (d : Departure) :
    Shape.document.Finds document (entryPath index ++ rest) d ↔
      ∃ entry, (clusterEntries document)[index]? = some entry ∧
        Shape.clusterEntry.Finds entry rest d := by
  simp only [clusterEntries_getElem?_iff]
  constructor
  · intro hf
    cases hf with
    | field hspec hs hf =>
      obtain rfl : _ = Shape.specSection := by simpa using hspec
      cases hf with
      | field hclusters hc hf =>
        obtain rfl : _ = Shape.list Shape.clusterEntry := by simpa using hclusters
        cases hf with
        | item hitems hi hf => exact ⟨_, ⟨_, _, _, hs, hc, hitems, hi⟩, hf⟩
  · intro hp
    obtain ⟨entry, ⟨spec, clusters, items, hs, hc, hitems, hi⟩, hf⟩ := hp
    have hclusters : Shape.specSection.Finds spec (.field "clusters" :: .item index :: rest) d :=
      .field (.tail _ (.tail _ (.head _))) hc (.item hitems hi hf)
    exact .field (.tail _ (.tail _ (.tail _ (.head _)))) hs hclusters

end Problem

open Problem

end CacheWiring
