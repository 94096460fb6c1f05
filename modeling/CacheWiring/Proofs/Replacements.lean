import CacheWiring.Proofs.Places

namespace CacheWiring

namespace Value

def withField (v : Value) (name : String) (field : Value) : Value :=
  .dict (insert ((v.entries?).getD []) (.str name) field)

def withItem (v : Value) (index : Nat) (item : Value) : Value :=
  .list (((v.items?).getD []).set index item)

theorem keys_insert {α : Type} {entries : List (Scalar × α)} {key : Scalar} {value : α}
    (hk : ∃ entry ∈ entries, entry.1.same key = true) :
    (insert entries key value).map (·.1) = entries.map (·.1) := by
  induction entries with
  | nil => simp at hk
  | cons entry rest ih =>
    obtain ⟨first, old⟩ := entry
    rw [insert]
    by_cases hs : first.same key = true
    · rw [if_pos hs]
      rfl
    · rw [if_neg hs, List.map_cons, List.map_cons, ih (by simpa [hs] using hk)]

theorem lookup_insert_self (entries : List (Scalar × Value)) (name : Text) (value : Value) :
    lookup (insert entries (.str name) value) (.str name) = some value := by
  induction entries with
  | nil => simp [insert, lookup, same_str_iff]
  | cons entry rest ih =>
    obtain ⟨first, old⟩ := entry
    rw [insert]
    by_cases hs : first.same (.str name) = true
    · simp [hs, lookup]
    · rw [if_neg hs, ← ih]
      simp [lookup, hs]

theorem lookup_insert_ne (entries : List (Scalar × Value)) {name other : Text} (value : Value)
    (hne : other ≠ name) :
    lookup (insert entries (.str name) value) (.str other) = lookup entries (.str other) := by
  have hother : Scalar.same (.str name) (.str other) = false := by
    rw [← Bool.not_eq_true, same_str_iff]
    intro he
    exact hne (Scalar.str.inj he).symm
  induction entries with
  | nil => simp [insert, lookup, hother]
  | cons entry rest ih =>
    obtain ⟨first, old⟩ := entry
    rw [insert]
    by_cases hs : first.same (.str name) = true
    · obtain rfl := (same_str_iff first name).mp hs
      simp [hs, lookup, hother]
    · rw [if_neg hs]
      by_cases ho : first.same (.str other) = true
      · simp [lookup, ho]
      · simpa [lookup, ho] using ih

theorem insert_self {entries : List (Scalar × Value)} {key : Scalar} {value : Value}
    (hl : lookup entries key = some value) : insert entries key value = entries := by
  induction entries with
  | nil => cases hl
  | cons entry rest ih =>
    obtain ⟨first, old⟩ := entry
    rw [insert]
    by_cases hs : first.same key = true
    · rw [if_pos hs]
      simp [lookup, hs] at hl
      rw [hl]
    · rw [if_neg hs, ih (by simpa [lookup, hs] using hl)]

theorem exists_key_of_lookup {entries : List (Scalar × Value)} {key : Scalar} {value : Value}
    (hl : lookup entries key = some value) : ∃ entry ∈ entries, entry.1.same key = true := by
  obtain ⟨entry, he, -⟩ := Option.map_eq_some_iff.mp hl
  have hsame := List.find?_some he
  exact ⟨entry, List.mem_of_find?_eq_some he, hsame⟩

theorem get?_withField_self (v : Value) (name : String) (field : Value) :
    (v.withField name field).get? name = some field :=
  lookup_insert_self _ _ field

theorem get?_withField_ne (v : Value) {name other : String} (field : Value) (hne : other ≠ name) :
    (v.withField name field).get? other = v.get? other := by
  have hother : Text.ofString other ≠ Text.ofString name := fun he => hne (Problem.ofString_inj he)
  refine (lookup_insert_ne _ field hother).trans ?_
  unfold get?
  cases v.entries? <;> rfl

end Value

namespace Shape

/-- Some problems stand before and after those of a part, whatever the part is. None of them lies
in the part. -/
def Frames (path : List Step) (outer inner : Value → List Problem) : Prop :=
  ∃ before after, (∀ p ∈ before ++ after, ¬ path <+: p.path) ∧
    ∀ part, outer part = before ++ inner part ++ after

theorem Frames.trans {path steps : List Step} {outer middle inner : Value → List Problem}
    {put : Value → Value} (hf : Frames path outer middle)
    (hg : Frames (path ++ steps) (fun part => middle (put part)) inner) :
    Frames (path ++ steps) (fun part => outer (put part)) inner := by
  obtain ⟨before, after, hout, hframe⟩ := hf
  obtain ⟨before', after', hout', hframe'⟩ := hg
  refine ⟨before ++ before', after' ++ after, fun p hp hpath => ?_, fun part => ?_⟩
  · simp only [List.mem_append] at hp hout hout'
    rcases hp with (hp | hp) | (hp | hp)
    · exact hout p (.inl hp) ((List.prefix_append path steps).trans hpath)
    · exact hout' p (.inl hp) hpath
    · exact hout' p (.inr hp) hpath
    · exact hout p (.inr hp) ((List.prefix_append path steps).trans hpath)
  · calc outer (put part)
      _ = before ++ middle (put part) ++ after := hframe (put part)
      _ = before ++ (before' ++ inner part ++ after') ++ after := by rw [← hframe' part]
      _ = before ++ before' ++ inner part ++ (after' ++ after) := by simp only [List.append_assoc]

/-- Parts with the same problems can stand for each other. -/
theorem Frames.congr {path : List Step} {outer inner : Value → List Problem}
    (hf : Frames path outer inner) {part other : Value} (he : inner part = inner other) :
    outer part = outer other := by
  obtain ⟨before, after, -, hframe⟩ := hf
  rw [hframe, hframe, he]

theorem recordDepartures_insert (required : List String) (closed : Bool) (names : List String)
    {entries : List (Scalar × Value)} {name : String} {old : Value}
    (hl : Value.lookup entries (.str name) = some old) (field : Value) :
    recordDepartures required closed names (Value.insert entries (.str name) field) =
      recordDepartures required closed names entries := by
  have hlookup (other : String) :
      (Value.lookup (Value.insert entries (.str name) field) (.str other)).isNone =
        (Value.lookup entries (.str other)).isNone := by
    by_cases hne : other = name
    · rw [hne, Value.lookup_insert_self, hl]
      rfl
    · rw [Value.lookup_insert_ne _ _ fun he => hne (Problem.ofString_inj he)]
  have hkeys : unexpectedKeys names (Value.insert entries (.str name) field) =
      unexpectedKeys names entries := by
    rw [unexpectedKeys, unexpectedKeys, Value.keys_insert (Value.exists_key_of_lookup hl)]
  simp only [recordDepartures, hlookup, hkeys]

theorem fieldProblems_insert (path : List Step) (entries : List (Scalar × Value)) (name : String)
    (field : Value) {fields : List (String × Shape)} (hn : name ∉ fields.map (·.1)) :
    fieldProblems path (Value.insert entries (.str name) field) fields =
      fieldProblems path entries fields := by
  induction fields with
  | nil => rfl
  | cons first rest ih =>
    obtain ⟨other, shape⟩ := first
    rw [List.map_cons, List.mem_cons, not_or] at hn
    rw [fieldProblems_cons, fieldProblems_cons, ih hn.2,
      Value.lookup_insert_ne _ _ fun he => hn.1 (Problem.ofString_inj he).symm]

theorem fieldProblems_append (path : List Step) (entries : List (Scalar × Value))
    (earlier later : List (String × Shape)) :
    fieldProblems path entries (earlier ++ later) =
      fieldProblems path entries earlier ++ fieldProblems path entries later := by
  induction earlier with
  | nil => rfl
  | cons first rest ih =>
    obtain ⟨name, shape⟩ := first
    rw [List.cons_append, fieldProblems_cons, fieldProblems_cons, ih, List.append_assoc]

theorem not_prefix_of_mem_fieldProblems {path : List Step} {entries : List (Scalar × Value)}
    {name : String} {fields : List (String × Shape)} (hn : name ∉ fields.map (·.1)) {p : Problem}
    (hp : p ∈ fieldProblems path entries fields) : ¬ path ++ [.field name] <+: p.path := by
  obtain ⟨other, shape, value, rest, hm, -, hpath, -⟩ := (mem_fieldProblems_iff _ _ _ p).mp hp
  rw [hpath, List.prefix_append_right_inj, List.prefix_cons_iff]
  intro hprefix
  rcases hprefix with he | ⟨_, he, -⟩
  · cases he
  · cases he
    exact hn (List.mem_map_of_mem hm)

/-- The problems of a field stand among those of the mapping. -/
theorem frames_field (path : List Step) (required : List String) (closed : Bool)
    {earlier later : List (String × Shape)} {name : String} (shape : Shape)
    (hn : name ∉ (earlier ++ later).map (·.1)) {v old : Value} (hv : v.get? name = some old) :
    Frames (path ++ [.field name])
      (fun part => problems path (record required closed (earlier ++ (name, shape) :: later))
        (v.withField name part))
      (problems (path ++ [.field name]) shape) := by
  obtain ⟨entries, he, hl⟩ := Option.bind_eq_some_iff.mp hv
  rw [List.map_append, List.mem_append, not_or] at hn
  let names := (earlier ++ (name, shape) :: later).map (·.1)
  refine ⟨located path (recordDepartures required closed names entries) ++
    fieldProblems path entries earlier, fieldProblems path entries later, fun p hp => ?_,
    fun part => ?_⟩
  · simp only [List.mem_append, mem_located] at hp
    rcases hp with (⟨hpath, -⟩ | hp) | hp
    · rw [hpath]
      exact fun hprefix => absurd hprefix.length_le (by simp)
    · exact not_prefix_of_mem_fieldProblems hn.1 hp
    · exact not_prefix_of_mem_fieldProblems hn.2 hp
  · have hentries : (v.withField name part).entries? =
        some (Value.insert entries (.str name) part) := by
      rw [Value.withField, he]
      rfl
    simp only [problems, hentries, recordDepartures_insert _ _ _ hl, fieldProblems_append,
      fieldProblems_cons, fieldProblems_insert _ _ _ _ hn.1, fieldProblems_insert _ _ _ _ hn.2,
      Value.lookup_insert_self, Option.toList_some, List.flatMap_cons, List.flatMap_nil,
      List.append_nil, List.append_assoc, names]

def itemProblems (path : List Step) (items : Shape) (values : List (Value × Nat)) : List Problem :=
  values.flatMap fun (value, index) => problems (path ++ [.item index]) items value

theorem problems_list {path : List Step} {items : Shape} {v : Value} {values : List Value}
    (hv : v.items? = some values) :
    problems path (list items) v = itemProblems path items values.zipIdx := by
  rw [problems, hv]
  rfl

theorem not_prefix_of_mem_itemProblems {path : List Step} {items : Shape}
    {values : List (Value × Nat)} {i : Nat} (hi : ∀ entry ∈ values, entry.2 ≠ i) {p : Problem}
    (hp : p ∈ itemProblems path items values) : ¬ path ++ [.item i] <+: p.path := by
  obtain ⟨⟨value, index⟩, hm, hp⟩ := List.mem_flatMap.mp hp
  obtain ⟨rest, hpath, -⟩ := (mem_problems_iff _ _ _ _).mp hp
  rw [hpath, List.append_assoc, List.prefix_append_right_inj, List.singleton_append,
    List.prefix_cons_iff]
  intro hprefix
  rcases hprefix with he | ⟨_, he, -⟩
  · cases he
  · cases he
    exact hi _ hm rfl

theorem zipIdx_set {values : List Value} {i : Nat} (hi : i < values.length) (part : Value) :
    (values.set i part).zipIdx =
      (values.take i).zipIdx ++ (part, i) :: (values.drop (i + 1)).zipIdx (i + 1) := by
  rw [List.set_eq_take_append_cons_drop, if_pos hi, List.zipIdx_append, List.zipIdx_cons,
    List.length_take_of_le hi.le, Nat.zero_add]

/-- The problems of an item stand among those of the list. -/
theorem frames_item (path : List Step) (items : Shape) {v : Value} {values : List Value}
    (hv : v.items? = some values) {i : Nat} (hi : i < values.length) :
    Frames (path ++ [.item i]) (fun part => problems path (list items) (v.withItem i part))
      (problems (path ++ [.item i]) items) := by
  refine ⟨itemProblems path items (values.take i).zipIdx,
    itemProblems path items ((values.drop (i + 1)).zipIdx (i + 1)), fun p hp => ?_, fun part => ?_⟩
  · rcases List.mem_append.mp hp with hp | hp
    · refine not_prefix_of_mem_itemProblems (fun entry hm => ?_) hp
      have hlast := List.snd_lt_add_of_mem_zipIdx hm
      have htake := List.length_take_le i values
      omega
    · refine not_prefix_of_mem_itemProblems (fun entry hm => ?_) hp
      have hfirst := List.le_snd_of_mem_zipIdx hm
      omega
  · have hitems : (v.withItem i part).items? = some (values.set i part) := by
      rw [Value.withItem, hv]
      rfl
    simp only [problems_list hitems, zipIdx_set hi, itemProblems, List.flatMap_append,
      List.flatMap_cons, List.append_assoc]

end Shape

theorem filter_split {α : Type} {test : α → Bool} {a x : List α}
    (ha : ∀ c ∈ a, test c = false) (hx : ∀ c ∈ x, test c = true) :
    (a ++ x).filter test = x ∧ ((a ++ x).filter fun c => !test c) = a := by
  constructor
  · rw [List.filter_append, List.filter_eq_nil_iff.mpr (by simpa using ha),
      List.filter_eq_self.mpr hx, List.nil_append]
  · rw [List.filter_append, List.filter_eq_self.mpr (by simpa using ha),
      List.filter_eq_nil_iff.mpr (by simpa using hx), List.append_nil]

/-- A list splits in one way into what fails a test and what passes it. -/
theorem append_inj_of_test {α : Type} {test : α → Bool} {a b x y : List α}
    (ha : ∀ c ∈ a, test c = false) (hb : ∀ c ∈ b, test c = false) (hx : ∀ c ∈ x, test c = true)
    (hy : ∀ c ∈ y, test c = true) (he : a ++ x = b ++ y) : a = b ∧ x = y := by
  obtain ⟨hpass, hfail⟩ := filter_split ha hx
  rw [he] at hpass hfail
  obtain ⟨hpass', hfail'⟩ := filter_split hb hy
  exact ⟨hfail.symm.trans hfail', hpass.symm.trans hpass'⟩

/-- Sorting keeps the order of what is equal, so that it does not matter whether some items are
taken out before or after. -/
theorem filter_mergeSort {α : Type} {le : α → α → Bool}
    (trans : ∀ a b c, le a b = true → le b c = true → le a c = true)
    (total : ∀ a b, (le a b || le b a) = true) (keep : α → Bool) (items : List α) :
    (items.mergeSort le).filter keep = (items.filter keep).mergeSort le := by
  induction items with
  | nil => simp
  | cons a rest ih =>
    obtain ⟨before, after, hsorted, hrest, hbefore⟩ := List.mergeSort_cons trans total a rest
    have hafter : ∀ b ∈ after, le a b = true := by
      have hpairs := List.pairwise_mergeSort trans total (a :: rest)
      rw [hsorted, List.pairwise_append, List.pairwise_cons] at hpairs
      exact hpairs.2.1.1
    rw [hrest, List.filter_append] at ih
    rw [hsorted, List.filter_append]
    cases hk : keep a with
    | false => simp [hk, ih]
    | true =>
      obtain ⟨before', after', hsorted', hrest', hbefore'⟩ :=
        List.mergeSort_cons trans total a (rest.filter keep)
      have hafter' : ∀ b ∈ after', le a b = true := by
        have hpairs := List.pairwise_mergeSort trans total (a :: rest.filter keep)
        rw [hsorted', List.pairwise_append, List.pairwise_cons] at hpairs
        exact hpairs.2.1.1
      -- both sorts put the item before the first one that it is not after
      obtain ⟨hb, ha⟩ := append_inj_of_test
        (fun b hm => by simpa using hbefore b (List.mem_filter.mp hm).1)
        (fun b hm => by simpa using hbefore' b hm)
        (fun b hm => hafter b (List.mem_filter.mp hm).1) hafter' (ih.trans hrest')
      rw [List.filter_cons_of_pos hk, List.filter_cons_of_pos hk, hb, ha, hsorted']

namespace Problem

theorem notAfter_trans (p q r : Problem) (hpq : notAfter p q = true) (hqr : notAfter q r = true) :
    notAfter p r = true := by
  rw [notAfter, Bool.not_eq_true', decide_eq_false_iff_not, List.not_lt] at hpq hqr ⊢
  exact List.le_trans hpq hqr

theorem notAfter_total (p q : Problem) : (notAfter p q || notAfter q p) = true := by
  rw [notAfter, notAfter, Bool.or_eq_true, Bool.not_eq_true', Bool.not_eq_true',
    decide_eq_false_iff_not, decide_eq_false_iff_not, List.not_lt, List.not_lt]
  exact List.le_total ..

theorem filter_told (document : Value) (keep : Problem → Bool) :
    (told document).filter keep = ((found document).filter keep).mergeSort notAfter :=
  filter_mergeSort notAfter_trans notAfter_total keep _

def inEntry (index : Nat) (p : Problem) : Bool := (entryPath index).isPrefixOf p.path

def linesIn (index : Nat) (document : Value) : List Text :=
  ((told document).filter (inEntry index)).map (line document)

def linesBeside (index : Nat) (document : Value) : List Text :=
  ((told document).filter fun p => !inEntry index p).map (line document)

end Problem

/-- A document with another value in place of a cluster entry. -/
def Value.withEntry (document : Value) (index : Nat) (entry : Value) : Value :=
  let spec := (document.get? "spec").getD .null
  let clusters := (spec.get? "clusters").getD .null
  document.withField "spec" (spec.withField "clusters" (clusters.withItem index entry))

namespace Shape

theorem problems_withField_self {path : List Step} {required : List String} {closed : Bool}
    {fields : List (String × Shape)} {v field : Value} {name : String}
    (hv : v.get? name = some field) :
    problems path (record required closed fields) (v.withField name field) =
      problems path (record required closed fields) v := by
  obtain ⟨entries, he, hl⟩ := Option.bind_eq_some_iff.mp hv
  have hentries : (v.withField name field).entries? = some entries := by
    rw [Value.withField, he, Option.getD_some, Value.insert_self hl]
    rfl
  rw [problems, problems, hentries, he]

theorem problems_withItem_self {path : List Step} {items : Shape} {v item : Value}
    {values : List Value} {i : Nat} (hv : v.items? = some values) (hi : values[i]? = some item) :
    problems path (list items) (v.withItem i item) = problems path (list items) v := by
  have hitems : (v.withItem i item).items? = some values := by
    obtain ⟨hlt, rfl⟩ := List.getElem?_eq_some_iff.mp hi
    rw [Value.withItem, hv, Option.getD_some, List.set_getElem_self hlt]
    rfl
  rw [problems_list hitems, problems_list hv]

end Shape

namespace Problem

/-- Where an entry is, problems can be told from the entry up: its own stand among the others. -/
theorem frames_entry {document entry : Value} {i : Nat}
    (he : (clusterEntries document)[i]? = some entry) :
    Shape.Frames (entryPath i) (fun v => found (document.withEntry i v))
        (Shape.clusterEntry.problems (entryPath i)) ∧
      found (document.withEntry i entry) = found document := by
  obtain ⟨spec, clusters, items, hs, hc, hitems, hi⟩ :=
    (clusterEntries_getElem?_iff document i entry).mp he
  obtain ⟨hlt, -⟩ := List.getElem?_eq_some_iff.mp hi
  have hspec : Shape.Frames [.field "spec"] (fun part => found (document.withField "spec" part))
      (Shape.specSection.problems [.field "spec"]) :=
    @Shape.frames_field [] _ _ [_, _, _] [] "spec" _ (by decide) document spec hs
  have hclusters : Shape.Frames ([.field "spec"] ++ [.field "clusters"])
      (fun part => Shape.specSection.problems [.field "spec"] (spec.withField "clusters" part))
      ((Shape.list Shape.clusterEntry).problems [.field "spec", .field "clusters"]) :=
    @Shape.frames_field [.field "spec"] _ _ [_, _] [_, _] "clusters" _ (by decide) spec clusters hc
  have hitem := Shape.frames_item [.field "spec", .field "clusters"] Shape.clusterEntry hitems hlt
  have hwith (v : Value) : document.withEntry i v =
      document.withField "spec" (spec.withField "clusters" (clusters.withItem i v)) := by
    rw [Value.withEntry, hs, Option.getD_some, hc, Option.getD_some]
  simp only [hwith]
  refine ⟨(hspec.trans hclusters).trans hitem, ?_⟩
  calc found (document.withField "spec" (spec.withField "clusters" (clusters.withItem i entry)))
    _ = found (document.withField "spec" (spec.withField "clusters" clusters)) :=
      (hspec.trans hclusters).congr (Shape.problems_withItem_self hitems hi)
    _ = found (document.withField "spec" spec) := hspec.congr (Shape.problems_withField_self hc)
    _ = found document := Shape.problems_withField_self hs

theorem inEntry_iff (index : Nat) (p : Problem) :
    inEntry index p = true ↔ entryPath index <+: p.path :=
  List.isPrefixOf_iff_prefix

theorem inEntry_of_mem {i : Nat} {v : Value} {p : Problem}
    (hp : p ∈ Shape.clusterEntry.problems (entryPath i) v) : inEntry i p = true := by
  obtain ⟨rest, hpath, -⟩ := (Shape.mem_problems_iff _ _ _ p).mp hp
  rw [inEntry_iff, hpath]
  exact List.prefix_append _ _

/-- The problems of an entry stand between two parts that do not depend on it. -/
theorem found_split {document entry : Value} {i : Nat}
    (he : (clusterEntries document)[i]? = some entry) :
    ∃ before after, (∀ p ∈ before ++ after, inEntry i p = false) ∧
      found document = before ++ Shape.clusterEntry.problems (entryPath i) entry ++ after ∧
      ∀ v, found (document.withEntry i v) =
        before ++ Shape.clusterEntry.problems (entryPath i) v ++ after := by
  obtain ⟨⟨before, after, hout, hframe⟩, hself⟩ := frames_entry he
  refine ⟨before, after, fun p hp => ?_, hself.symm.trans (hframe entry), hframe⟩
  rw [← Bool.not_eq_true, inEntry_iff]
  exact hout p hp

theorem filter_inEntry {document entry : Value} {i : Nat}
    (he : (clusterEntries document)[i]? = some entry) :
    (found document).filter (inEntry i) = Shape.clusterEntry.problems (entryPath i) entry := by
  obtain ⟨before, after, hout, hfound, -⟩ := found_split he
  rw [List.forall_mem_append] at hout
  have hnone (part : List Problem) (hp : ∀ p ∈ part, inEntry i p = false) :
      part.filter (inEntry i) = [] :=
    List.filter_eq_nil_iff.mpr fun p hm => by simp [hp p hm]
  have hself : (Shape.clusterEntry.problems (entryPath i) entry).filter (inEntry i) =
      Shape.clusterEntry.problems (entryPath i) entry :=
    List.filter_eq_self.mpr fun p hp => inEntry_of_mem hp
  rw [hfound, List.filter_append, List.filter_append, hnone _ hout.1, hself, hnone _ hout.2,
    List.nil_append, List.append_nil]

theorem filter_beside {document entry : Value} {i : Nat}
    (he : (clusterEntries document)[i]? = some entry) (v : Value) :
    ((found (document.withEntry i v)).filter fun p => !inEntry i p) =
      (found document).filter fun p => !inEntry i p := by
  obtain ⟨before, after, -, hfound, hframe⟩ := found_split he
  have hnone (part : Value) :
      ((Shape.clusterEntry.problems (entryPath i) part).filter fun p => !inEntry i p) = [] :=
    List.filter_eq_nil_iff.mpr fun p hp => by simp [inEntry_of_mem hp]
  rw [hfound, hframe]
  simp only [List.filter_append, hnone]

theorem clusterEntries_withEntry {document entry : Value} {i : Nat}
    (he : (clusterEntries document)[i]? = some entry) (v : Value) :
    clusterEntries (document.withEntry i v) = (clusterEntries document).set i v := by
  obtain ⟨spec, clusters, items, hs, hc, hitems, hi⟩ :=
    (clusterEntries_getElem?_iff document i entry).mp he
  simp only [clusterEntries, Value.withEntry, hs, hc, hitems, Value.withItem, Option.getD_some,
    Option.bind_some, Value.get?_withField_self]
  rfl

theorem getElem?_withEntry_self {document entry : Value} {i : Nat}
    (he : (clusterEntries document)[i]? = some entry) (v : Value) :
    (clusterEntries (document.withEntry i v))[i]? = some v := by
  obtain ⟨hlt, -⟩ := List.getElem?_eq_some_iff.mp he
  rw [clusterEntries_withEntry he, List.getElem?_set_self hlt]

theorem clusterLabel_congr {document other : Value} {i : Nat}
    (he : (clusterEntries document)[i]? = (clusterEntries other)[i]?) :
    clusterLabel document i = clusterLabel other i := by
  rw [clusterLabel, clusterLabel, he]

theorem place_entry_congr {document other : Value} {i : Nat}
    (he : (clusterEntries document)[i]? = (clusterEntries other)[i]?) (rest : List Step) :
    place document (entryPath i ++ rest) = place other (entryPath i ++ rest) := by
  rw [place_entryPath, place_entryPath, clusterLabel_congr he]

/-- A place elsewhere is told alike with any value in place of the entry. -/
theorem place_withEntry {document entry : Value} {i : Nat}
    (he : (clusterEntries document)[i]? = some entry) (v : Value) {path : List Step}
    (hl : Shape.document.Leads path) (hp : ¬ entryPath i <+: path) :
    place (document.withEntry i v) path = place document path := by
  rcases (Shape.leads_document_iff path).mp hl with hplain | ⟨j, rest, -, rfl⟩
  · exact List.map_inj_left.mp ((place_plain _).trans (place_plain document).symm) path hplain
  · apply place_entry_congr
    rw [clusterEntries_withEntry he, List.getElem?_set_ne]
    intro hij
    exact hp (hij ▸ List.prefix_append (entryPath j) rest)

/-- The lines in an entry depend on nothing but where it is and what it is. -/
theorem linesIn_congr {document other entry : Value} {i : Nat}
    (hd : (clusterEntries document)[i]? = some entry)
    (ho : (clusterEntries other)[i]? = some entry) : linesIn i document = linesIn i other := by
  unfold linesIn
  rw [filter_told, filter_told, filter_inEntry hd, filter_inEntry ho]
  apply List.map_congr_left
  intro p hp
  obtain ⟨rest, hpath, -⟩ :=
    (Shape.mem_problems_iff _ _ _ p).mp ((List.mergeSort_perm _ _).mem_iff.mp hp)
  rw [line, line, hpath, place_entry_congr (hd.trans ho.symm)]

/-- The lines elsewhere stay, in their order, with any value in place of the entry. -/
theorem linesBeside_withEntry {document entry : Value} {i : Nat}
    (he : (clusterEntries document)[i]? = some entry) (v : Value) :
    linesBeside i (document.withEntry i v) = linesBeside i document := by
  unfold linesBeside
  rw [filter_told, filter_told, filter_beside he]
  apply List.map_congr_left
  intro p hp
  obtain ⟨hf, hout⟩ := List.mem_filter.mp ((List.mergeSort_perm _ _).mem_iff.mp hp)
  rw [Bool.not_eq_true', ← Bool.not_eq_true, inEntry_iff] at hout
  rw [line, line, place_withEntry he v ((mem_found_iff document p).mp hf).leads hout]

theorem get?_withEntry_ne (document : Value) (i : Nat) (v : Value) {name : String}
    (hne : name ≠ "spec") : (document.withEntry i v).get? name = document.get? name :=
  Value.get?_withField_ne document _ hne

/-- What can be written in the entry and what can be written elsewhere is all there is. -/
theorem writable_withEntry_iff {document entry : Value} {i : Nat}
    (he : (clusterEntries document)[i]? = some entry) (v : Value) :
    (∀ p ∈ found (document.withEntry i v), p.departure.unwritable? = none) ↔
      (∀ p ∈ found document, inEntry i p = false → p.departure.unwritable? = none) ∧
        ∀ p ∈ Shape.clusterEntry.problems [] v, p.departure.unwritable? = none := by
  have hbeside : (∀ p ∈ found document, inEntry i p = false → p.departure.unwritable? = none) ↔
      ∀ p ∈ found (document.withEntry i v), inEntry i p = false →
        p.departure.unwritable? = none := by
    have hsame := congrArg (fun problems => ∀ p ∈ problems, p.departure.unwritable? = none)
      (filter_beside he v)
    simpa [List.mem_filter] using hsame.symm
  have hinside : (∀ p ∈ Shape.clusterEntry.problems [] v, p.departure.unwritable? = none) ↔
      ∀ p ∈ found (document.withEntry i v), inEntry i p = true →
        p.departure.unwritable? = none := by
    rw [Shape.forall_departure_iff [] _ _ (·.unwritable? = none),
      ← Shape.forall_departure_iff (entryPath i), ← filter_inEntry (getElem?_withEntry_self he v)]
    simp only [List.mem_filter, and_imp]
  rw [hbeside, hinside]
  constructor
  · intro hp
    exact ⟨fun p hm _ => hp p hm, fun p hm _ => hp p hm⟩
  · intro hp p hm
    cases hin : inEntry i p with
    | false => exact hp.1 p hm hin
    | true => exact hp.2 p hm hin

end Problem

open Problem

/-- Another value in place of a cluster entry leaves the lines of all other problems as they are, in
their order, and the lines in the entry are the same in every document that has the value there. All
are told exactly when each problem can be written, be it in the entry or elsewhere. -/
theorem problems_of_replaced_entry {document entry : Value} {i : Nat}
    (known : document.get? "apiVersion" = some (.str knownVersion))
    (there : (clusterEntries document)[i]? = some entry) (v : Value) :
    linesBeside i (document.withEntry i v) = linesBeside i document ∧
      (∀ other, (clusterEntries other)[i]? = some v →
        linesIn i other = linesIn i (document.withEntry i v)) ∧
      (∀ lines, checkDocument document = .ok lines →
        lines = (told document).map (line document)) ∧
      ∀ lines, checkDocument (document.withEntry i v) = .ok lines ↔
        ((∀ p ∈ found document, inEntry i p = false → p.departure.unwritable? = none) ∧
          ∀ p ∈ Shape.clusterEntry.problems [] v, p.departure.unwritable? = none) ∧
        lines = (told (document.withEntry i v)).map (line (document.withEntry i v)) := by
  refine ⟨linesBeside_withEntry there v, fun other ho => ?_, fun lines hc => ?_, fun lines => ?_⟩
  · exact linesIn_congr ho (getElem?_withEntry_self there v)
  · exact ((checkDocument_eq_ok_iff known lines).mp hc).2
  · have hversion : (document.withEntry i v).get? "apiVersion" = some (.str knownVersion) :=
      (get?_withEntry_ne document i v (by decide)).trans known
    rw [checkDocument_eq_ok_iff hversion, writable_withEntry_iff there]

/-- Two entries, the first of them out of range. -/
def overdueDocument : Value :=
  .dict [(.str "apiVersion", .str knownVersion), (.str "kind", .str "CacheConfiguration"),
    (.str "spec", .dict [(.str "clusters", .list
      [.dict [(.str "name", .str "a"), (.str "expiration", .int (-1))],
        .dict [(.str "name", .str "b")]])])]

theorem linesBeside_overdueDocument :
    linesBeside 1 overdueDocument =
      [Text.ofString "cluster 'a' expiration: -1 is less than the minimum of 0"] := by
  have hsorted : told overdueDocument = found overdueDocument :=
    List.mergeSort_of_pairwise (by decide +kernel)
  rw [linesBeside, hsorted]
  decide +kernel

theorem overdueDocument_writable :
    ∀ p ∈ found overdueDocument, p.departure.unwritable? = none := by decide +kernel

def lateEntry : Value := .dict [(.str "name", .str "c"), (.str "expiration", .int 2592001)]

theorem overdue_line_stays :
    overdueDocument.get? "apiVersion" = some (.str knownVersion) ∧
      (clusterEntries overdueDocument)[1]? = some (.dict [(.str "name", .str "b")]) ∧
      linesBeside 1 (overdueDocument.withEntry 1 lateEntry) =
        [Text.ofString "cluster 'a' expiration: -1 is less than the minimum of 0"] ∧
      ∃ lines, checkDocument (overdueDocument.withEntry 1 lateEntry) = .ok lines := by
  obtain ⟨hbeside, -, -, hlines⟩ :=
    @problems_of_replaced_entry overdueDocument (.dict [(.str "name", .str "b")]) 1 rfl rfl
      lateEntry
  have hlate : ∀ p ∈ Shape.clusterEntry.problems [] lateEntry, p.departure.unwritable? = none := by
    decide +kernel
  exact ⟨rfl, rfl, hbeside.trans linesBeside_overdueDocument, _,
    (hlines _).mpr ⟨⟨fun p hp _ => overdueDocument_writable p hp, hlate⟩, rfl⟩⟩

/-- An entry whose name is an integer of more digits than can be written. -/
def overlongEntry : Value := .dict [(.str "name", .int (Nat.pow 10 4300))]

/-- One value that cannot be written hides the problems of all other entries. -/
theorem not_every_problem_outlasts_a_replacement :
    ¬ ∀ (document entry : Value) (i : Nat) (v : Value),
      document.get? "apiVersion" = some (.str knownVersion) →
      (clusterEntries document)[i]? = some entry →
      ∀ lines, checkDocument document = .ok lines → ∀ line ∈ linesBeside i document,
        ∃ lines', checkDocument (document.withEntry i v) = .ok lines' ∧ line ∈ lines' := by
  intro hall
  have hcheck : checkDocument overdueDocument =
      .ok ((told overdueDocument).map (line overdueDocument)) :=
    (checkDocument_eq_ok_iff rfl _).mpr ⟨overdueDocument_writable, rfl⟩
  have hline : Text.ofString "cluster 'a' expiration: -1 is less than the minimum of 0" ∈
      linesBeside 1 overdueDocument := by
    rw [linesBeside_overdueDocument]
    exact List.mem_singleton_self _
  obtain ⟨lines, hc, -⟩ := hall overdueDocument _ 1 overlongEntry rfl rfl _ hcheck _ hline
  have hwritable := ((checkDocument_eq_ok_iff rfl _).mp hc).1
  have hname : Shape.clusterEntry.Finds overlongEntry [.field "name"]
      (.notOfType (.int (Nat.pow 10 4300)) "string") :=
    .field (.head _) rfl (.here (.head _))
  have hinside := ((writable_withEntry_iff rfl overlongEntry).mp hwritable).2
  have hnone := (Shape.forall_departure_iff [] _ _ (·.unwritable? = none)).mp hinside _ _ hname
  have hdigits : (Value.int (Nat.pow 10 4300)).unwritable? = some .tooManyDigits := by
    decide +kernel
  cases hdigits.symm.trans hnone

end CacheWiring
