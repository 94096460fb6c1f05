import CacheWiring.Proofs.Replacements

namespace CacheWiring

/-- What follows does not matter once two lists of one length are in order. -/
theorem append_lt_append {a b : List Char} (hl : a.length = b.length) (hlt : a < b)
    (x y : List Char) : a ++ x < b ++ y := by
  induction a generalizing b with
  | nil =>
    cases b with
    | nil => exact absurd hlt (List.lt_irrefl [])
    | cons d b => cases hl
  | cons c a ih =>
    cases b with
    | nil => cases hl
    | cons d b =>
      rw [List.cons_append, List.cons_append, List.cons_lt_cons_iff]
      rcases List.cons_lt_cons_iff.mp hlt with hcd | ⟨hcd, hab⟩
      · exact .inl hcd
      · exact .inr ⟨hcd, ih (Nat.succ.inj hl) hab⟩

theorem digitChar_lt : ∀ n < 10, ∀ m < n, Nat.digitChar m < Nat.digitChar n := by decide

theorem singleton_digitChar_lt {m n : Nat} (hn : n < 10) (hlt : m < n) :
    [Nat.digitChar m] < [Nat.digitChar n] :=
  List.cons_lt_cons_iff.mpr (.inl (digitChar_lt n hn m hlt))

/-- A number of at least ten is written as its tenth part and one more digit. -/
theorem toDigits_of_ten_le {n : Nat} (hn : 10 ≤ n) :
    Nat.toDigits 10 n = Nat.toDigits 10 (n / 10) ++ [Nat.digitChar (n % 10)] := by
  rw [Nat.toDigits_eq_if (by omega), if_neg (by omega)]

/-- Among numbers of equally many digits the lesser one has the lesser digits. By induction on the
number of digits: the last digit counts only when the others agree. -/
theorem toDigits_lt {m n : Nat}
    (hl : (Nat.toDigits 10 m).length = (Nat.toDigits 10 n).length) (hlt : m < n) :
    Nat.toDigits 10 m < Nat.toDigits 10 n := by
  induction m using Nat.strong_induction_on generalizing n with
  | _ m ih =>
    rcases Nat.lt_or_ge n 10 with hn | hn
    · rw [Nat.toDigits_of_lt_base hn, Nat.toDigits_of_lt_base (hlt.trans hn)]
      exact singleton_digitChar_lt hn hlt
    · rw [toDigits_of_ten_le hn] at hl ⊢
      have htens : 0 < (Nat.toDigits 10 (n / 10)).length := Nat.length_toDigits_pos
      rcases Nat.lt_or_ge m 10 with hm | hm
      · rw [Nat.toDigits_of_lt_base hm, List.length_append, List.length_singleton,
          List.length_singleton] at hl
        omega
      · rw [toDigits_of_ten_le hm] at hl ⊢
        rcases Nat.lt_or_ge (m / 10) (n / 10) with htenth | htenth
        · have hl' : (Nat.toDigits 10 (m / 10)).length = (Nat.toDigits 10 (n / 10)).length := by
            simpa using hl
          exact append_lt_append hl' (ih (m / 10) (by omega) hl' htenth) _ _
        · have hsame : m / 10 = n / 10 := by omega
          rw [hsame]
          exact List.append_left_lt (singleton_digitChar_lt (by omega) (by omega))

theorem toString_lt_iff {m n : Nat} (hl : (toString m).length = (toString n).length) :
    toString m < toString n ↔ m < n := by
  have hdigits (k l : Nat) (hl : (toString k).length = (toString l).length) (hlt : k < l) :
      toString k < toString l := by
    rw [Nat.toString_eq_repr, Nat.toString_eq_repr, ← String.length_toList, ← String.length_toList,
      Nat.toList_repr, Nat.toList_repr] at hl
    change (toString k).toList < (toString l).toList
    rw [Nat.toString_eq_repr, Nat.toString_eq_repr, Nat.toList_repr, Nat.toList_repr]
    exact toDigits_lt hl hlt
  constructor
  · intro hlt
    rcases Nat.lt_trichotomy m n with h | rfl | h
    · exact h
    · exact absurd hlt (String.lt_irrefl _)
    · exact absurd (String.lt_trans hlt (hdigits n m hl.symm h)) (String.lt_irrefl _)
  · exact hdigits m n hl

namespace Problem

def Faulty (document : Value) (index : Nat) : Prop := ∃ p ∈ found document, inEntry index p = true

/-- All that is told of an entry comes before all that is told of a later one. -/
def InDeclaredOrder (document : Value) : Prop :=
  ∀ (a b i j : Nat) (p q : Problem), (told document)[a]? = some p →
    (told document)[b]? = some q → inEntry i p = true → inEntry j q = true → i < j → a < b

theorem sortKey_of_inEntry {i : Nat} {p : Problem} (hp : inEntry i p = true) :
    ∃ rest, p.sortKey = "spec" :: "clusters" :: toString i :: rest := by
  obtain ⟨rest, hpath⟩ := (inEntry_iff i p).mp hp
  refine ⟨rest.map Step.text, ?_⟩
  rw [sortKey, ← hpath]
  rfl

/-- A problem lies in one entry at most. -/
theorem index_unique {i j : Nat} {p : Problem} (hi : inEntry i p = true) (hj : inEntry j p = true) :
    i = j := by
  obtain ⟨rest, hpath⟩ := (inEntry_iff i p).mp hi
  obtain ⟨rest', hpath'⟩ := (inEntry_iff j p).mp hj
  have hsame := hpath.trans hpath'.symm
  simp only [entryPath, List.cons_append, List.cons.injEq, Step.item.injEq] at hsame
  exact hsame.2.2.1

theorem toString_ne {i j : Nat} (hne : i ≠ j) : toString i ≠ toString j :=
  fun he => hne (number_inj (congrArg Text.ofString he))

/-- Of problems in two entries the indices decide which is not after the other. -/
theorem notAfter_iff {i j : Nat} {p q : Problem} (hp : inEntry i p = true)
    (hq : inEntry j q = true) (hne : i ≠ j) :
    notAfter p q = true ↔ toString i < toString j := by
  obtain ⟨rest, hp⟩ := sortKey_of_inEntry hp
  obtain ⟨rest', hq⟩ := sortKey_of_inEntry hq
  have hother := toString_ne hne
  rw [notAfter, hp, hq, Bool.not_eq_true', decide_eq_false_iff_not]
  simp only [List.cons_lt_cons_iff, String.lt_irrefl, false_or, true_and, hother.symm, false_and,
    or_false]
  constructor
  · intro hnot
    by_contra hlt
    exact hother (String.le_antisymm hnot hlt)
  · intro hlt hgt
    exact String.lt_irrefl _ (String.lt_trans hlt hgt)

theorem told_pairwise (document : Value) :
    (told document).Pairwise fun p q => notAfter p q = true :=
  List.pairwise_mergeSort notAfter_trans notAfter_total _

/-- Problems of two entries are told in the order of the texts of their indices. -/
theorem before_iff {document : Value} {a b i j : Nat} {p q : Problem}
    (ha : (told document)[a]? = some p) (hb : (told document)[b]? = some q)
    (hp : inEntry i p = true) (hq : inEntry j q = true) (hne : i ≠ j) :
    a < b ↔ toString i < toString j := by
  obtain ⟨hla, rfl⟩ := List.getElem?_eq_some_iff.mp ha
  obtain ⟨hlb, rfl⟩ := List.getElem?_eq_some_iff.mp hb
  have hpairs := List.pairwise_iff_getElem.mp (told_pairwise document)
  constructor
  · intro hlt
    exact (notAfter_iff hp hq hne).mp (hpairs a b hla hlb hlt)
  · intro hlt
    rcases Nat.lt_trichotomy a b with h | rfl | h
    · exact h
    · exact absurd (index_unique hp hq) hne
    · have hgt := (notAfter_iff hq hp hne.symm).mp (hpairs b a hlb hla h)
      exact absurd (String.lt_trans hlt hgt) (String.lt_irrefl _)

theorem Faulty.exists_told {document : Value} {i : Nat} (hf : Faulty document i) :
    ∃ (a : Nat) (p : Problem), (told document)[a]? = some p ∧ inEntry i p = true := by
  obtain ⟨p, hp, hi⟩ := hf
  obtain ⟨a, ha⟩ := List.mem_iff_getElem?.mp (List.mem_mergeSort.mpr hp)
  exact ⟨a, p, ha, hi⟩

theorem faulty_of_told {document : Value} {a i : Nat} {p : Problem}
    (ha : (told document)[a]? = some p) (hi : inEntry i p = true) : Faulty document i :=
  ⟨p, List.mem_mergeSort.mp (List.mem_of_getElem? ha), hi⟩

/-- Something can be found only in an entry that is there. -/
theorem Faulty.lt_length {document : Value} {i : Nat} (hf : Faulty document i) :
    i < (clusterEntries document).length := by
  obtain ⟨p, hp, hi⟩ := hf
  obtain ⟨rest, hpath⟩ := (inEntry_iff i p).mp hi
  rw [mem_found_iff, ← hpath] at hp
  obtain ⟨entry, he, -⟩ := (finds_entry_iff document i rest p.departure).mp hp
  exact (List.getElem?_eq_some_iff.mp he).1

/-- Problems are told in declared order exactly if the texts of the indices are in that order. -/
theorem inDeclaredOrder_iff (document : Value) :
    InDeclaredOrder document ↔
      ∀ i j, Faulty document i → Faulty document j → i < j → toString i < toString j := by
  constructor
  · intro ho i j hi hj hlt
    obtain ⟨a, p, ha, hp⟩ := hi.exists_told
    obtain ⟨b, q, hb, hq⟩ := hj.exists_told
    exact (before_iff ha hb hp hq hlt.ne).mp (ho a b i j p q ha hb hp hq hlt)
  · intro hi a b i j p q ha hb hp hq hlt
    exact (before_iff ha hb hp hq hlt.ne).mpr
      (hi i j (faulty_of_told ha hp) (faulty_of_told hb hq) hlt)

/-- Indices of equally many digits are in declared order. -/
theorem inDeclaredOrder_of_length {document : Value} {digits : Nat}
    (hd : ∀ i, Faulty document i → (toString i).length = digits) : InDeclaredOrder document := by
  rw [inDeclaredOrder_iff]
  intro i j hi hj hlt
  exact (toString_lt_iff ((hd i hi).trans (hd j hj).symm)).mpr hlt

/-- The lines of a check: the problems told, or that the document is none of a known version. -/
theorem checkDocument_cases {document : Value} {lines : List Text}
    (hc : checkDocument document = .ok lines) :
    (document.get? "apiVersion" = some (.str knownVersion) ∧
        lines = (told document).map (line document)) ∨
      lines = ["document: must be a mapping"] ∨ lines = ["document: apiVersion is required"] := by
  by_cases hknown : document.get? "apiVersion" = some (.str knownVersion)
  · exact .inl ⟨hknown, ((checkDocument_eq_ok_iff hknown lines).mp hc).2⟩
  · right
    unfold checkDocument at hc
    split at hc
    · exact .inl (Except.ok.inj hc).symm
    · split at hc
      · exact .inr (Except.ok.inj hc).symm
      · rename_i version hv
        split at hc
        · exact .inr (Except.ok.inj hc).symm
        · split at hc
          · rename_i hs
            rw [Shape.isStr_iff] at hs
            exact absurd (hs ▸ hv) hknown
          · cases hc

end Problem

open Problem

theorem length_toString_of_lt_ten {i : Nat} (hi : i < 10) : (toString i).length = 1 := by
  rw [Nat.toString_eq_repr, ← String.length_toList, Nat.toList_repr, Nat.toDigits_of_lt_base hi]
  rfl

/-- Problems of different cluster entries are told in the order of the texts of their indices. That
is the declared order exactly if no entry in which something is found has a text before that of an
earlier such entry, and so whenever all their indices have equally many digits, as among ten
entries. -/
theorem entries_in_text_order {document : Value} {lines : List Text}
    (checked : checkDocument document = .ok lines) :
    ((document.get? "apiVersion" = some (.str knownVersion) ∧
        lines = (told document).map (line document)) ∨
      lines = ["document: must be a mapping"] ∨ lines = ["document: apiVersion is required"]) ∧
      (∀ (a b i j : Nat) (p q : Problem), (told document)[a]? = some p →
        (told document)[b]? = some q → inEntry i p = true → inEntry j q = true → i ≠ j →
          (a < b ↔ toString i < toString j)) ∧
      (InDeclaredOrder document ↔
        ∀ i j, Faulty document i → Faulty document j → i < j → toString i < toString j) ∧
      (∀ digits, (∀ i, Faulty document i → (toString i).length = digits) →
        InDeclaredOrder document) ∧
      ((clusterEntries document).length ≤ 10 → InDeclaredOrder document) := by
  refine ⟨checkDocument_cases checked, fun _ _ _ _ _ _ => before_iff,
    inDeclaredOrder_iff document, fun _ => inDeclaredOrder_of_length, fun hl => ?_⟩
  have hone : ∀ i, Faulty document i → (toString i).length = 1 :=
    fun i hi => length_toString_of_lt_ten (hi.lt_length.trans_le hl)
  exact inDeclaredOrder_of_length hone

def countedEntry (overdue : List Nat) (index : Nat) : Value :=
  .dict [(.str "name", .str (Text.ofString (toString index))),
    (.str "expiration", .int (if index ∈ overdue then -1 else 0))]

/-- As many entries, some of them out of range. -/
def countedDocument (count : Nat) (overdue : List Nat) : Value :=
  .dict [(.str "apiVersion", .str knownVersion), (.str "kind", .str "CacheConfiguration"),
    (.str "spec", .dict [(.str "clusters",
      .list ((List.range count).map (countedEntry overdue)))])]

def lateEntries : Value := countedDocument 11 [2, 10]

theorem lateEntries_checked :
    checkDocument lateEntries = .ok ((told lateEntries).map (line lateEntries)) :=
  (checkDocument_eq_ok_iff rfl _).mpr ⟨by decide +kernel, rfl⟩

theorem lateEntries_faulty : Faulty lateEntries 2 ∧ Faulty lateEntries 10 := by
  unfold Faulty
  decide +kernel

theorem lateEntries_lines :
    (∀ p ∈ found lateEntries, inEntry 2 p = true → line lateEntries p =
      Text.ofString "cluster '2' expiration: -1 is less than the minimum of 0") ∧
    ∀ p ∈ found lateEntries, inEntry 10 p = true → line lateEntries p =
      Text.ofString "cluster '10' expiration: -1 is less than the minimum of 0" := by
  decide +kernel

/-- The last one is told first. -/
theorem eleventh_told_before_third : ∃ lines, checkDocument lateEntries = .ok lines ∧
    ∃ a b : Nat, a < b ∧
      lines[a]? = some (Text.ofString
        "cluster '10' expiration: -1 is less than the minimum of 0") ∧
      lines[b]? = some (Text.ofString
        "cluster '2' expiration: -1 is less than the minimum of 0") := by
  obtain ⟨-, horder, -⟩ := entries_in_text_order lateEntries_checked
  obtain ⟨b, q, hb, hq⟩ := lateEntries_faulty.1.exists_told
  obtain ⟨a, p, ha, hp⟩ := lateEntries_faulty.2.exists_told
  have hbefore := (horder a b 10 2 p q ha hb hp hq (by decide)).mpr (by decide)
  refine ⟨_, lateEntries_checked, a, b, hbefore, ?_, ?_⟩
  · rw [List.getElem?_map, ha, Option.map_some,
      lateEntries_lines.2 p (List.mem_mergeSort.mp (List.mem_of_getElem? ha)) hp]
  · rw [List.getElem?_map, hb, Option.map_some,
      lateEntries_lines.1 q (List.mem_mergeSort.mp (List.mem_of_getElem? hb)) hq]

/-- So problems are not always told in declared order. -/
theorem not_every_document_in_declared_order :
    ¬ ∀ (document : Value) (lines : List Text), checkDocument document = .ok lines →
      InDeclaredOrder document := by
  intro hall
  have horder := (inDeclaredOrder_iff lateEntries).mp (hall _ _ lateEntries_checked)
  have hlt := horder 2 10 lateEntries_faulty.1 lateEntries_faulty.2 (by decide)
  exact absurd hlt (by decide)

end CacheWiring
