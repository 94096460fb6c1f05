import CacheWiring.Proofs.SharedServers
import Mathlib.Data.List.Induction

namespace CacheWiring

namespace Store

variable (initial : Store) {key : Text}

/-- A key that nothing clears is absent only as long as nothing fills it. -/
theorem replay_eq_none_iff {history : List Served}
    (hc : ∀ served ∈ history, ¬ served.call.Clears key) :
    initial.replay history key = none ↔
      initial key = none ∧ ∀ served ∈ history, ¬ served.call.Fills key := by
  induction history using List.reverseRecOn with
  | nil => simp
  | append_singleton before last ih =>
    have hbefore := ih fun served hm => hc served (List.mem_append_left _ hm)
    rw [replay_concat, after_eq_none_iff _ (hc last (by simp)), hbefore]
    simp [or_imp, forall_and, and_assoc]

/-- What a key holds it has held from the beginning, or a call of the history has put it there. -/
theorem origin_replay {history : List Served} {value : Value}
    (hv : initial.replay history key = some value) :
    initial key = some value ∨ ∃ before served after, history = before ++ served :: after ∧
      ((∃ expire, served.call = .set key value expire) ∨
        ∃ expire, served.call = .add key value expire ∧ initial.replay before key = none) := by
  induction history using List.reverseRecOn with
  | nil => exact .inl hv
  | append_singleton before last ih =>
    rw [replay_concat] at hv
    rcases origin_after hv with hb | hset | hadd
    · rcases ih hb with hi | ⟨earlier, served, after, rfl, horigin⟩
      · exact .inl hi
      · exact .inr ⟨earlier, served, after ++ [last], by simp, horigin⟩
    · exact .inr ⟨before, last, [], rfl, .inl hset⟩
    · exact .inr ⟨before, last, [], rfl, .inr (by simpa using hadd)⟩

end Store

/-- No value under the key is null, and none is taken away from it. Other keys may have nulls and
lose their values. -/
def Use.Contends (k : Text) (use : Use) : Prop :=
  match use.operation with
  | .get .. => True
  | .put key value | .putIfAbsent key value => Cache.keyText key = .ok k → value ≠ .null
  | .evict key => Cache.keyText key ≠ .ok k
  | .clear => False

theorem Use.Contends.not_clears {k : Text} {use : Use} (hc : use.Contends k) :
    ∀ c ∈ use.calls, ¬ c.Clears k := by
  obtain ⟨cache, operation⟩ := use
  cases operation with
  | clear => exact hc.elim
  | evict key =>
    intro c hm hk
    obtain ⟨other, htext, hcall⟩ := Cache.mem_underText.mp hm
    obtain rfl := List.mem_singleton.mp hcall
    obtain rfl : other = k := hk
    exact hc htext
  | _ => simp +contextual [Use.calls, Cache.mem_underText, Call.Clears, or_imp]

theorem Use.put_of_set {use : Use} {k : Text} {value expire : Value}
    (hc : .set k value expire ∈ use.calls) :
    ∃ key, use.operation = .put key value ∧ Cache.keyText key = .ok k ∧
      use.cache.expiration = expire := by
  obtain ⟨cache, operation⟩ := use
  cases operation with
  | put key written =>
    obtain ⟨hk, rfl, rfl⟩ := by simpa [Use.calls, Cache.mem_underText] using hc
    exact ⟨key, rfl, hk, rfl⟩
  | _ => simp [Use.calls, Cache.mem_underText] at hc

theorem Use.putIfAbsent_of_add {use : Use} {k : Text} {value expire : Value}
    (hc : .add k value expire ∈ use.calls) :
    ∃ key, use.operation = .putIfAbsent key value ∧ Cache.keyText key = .ok k := by
  obtain ⟨cache, operation⟩ := use
  cases operation with
  | putIfAbsent key written =>
    obtain ⟨hk, rfl, -⟩ := by simpa [Use.calls, Cache.mem_underText] using hc
    exact ⟨key, rfl, hk⟩
  | _ => simp [Use.calls, Cache.mem_underText] at hc

def Cache.written (cache : Cache) (k : Text) (value : Value) (caller : Nat) : Served :=
  ⟨caller, .set k value cache.expiration, ()⟩

variable (uses : List Use) (initial : Store) (history : List Served) (k : Text)

/-- A caller that writes the key under the condition that it is absent. -/
def Tries (i : Nat) (value : Value) : Prop :=
  ∃ cache key, uses[i]? = some ⟨cache, .putIfAbsent key value⟩ ∧ Cache.keyText key = .ok k

/-- The caller that has stored its value: the key was absent, and nothing had filled it before. -/
structure Elected (i : Nat) (value : Value) : Prop where
  tries : Tries uses k i value
  absent : initial k = none
  first : ∃ before expire after, history = before ++ ⟨i, .add k value expire, true⟩ :: after ∧
    ∀ served ∈ before, ¬ served.call.Fills k

/-- Where a value of the key comes from. -/
inductive Origin (value : Value) : Prop
  | initial (hi : initial k = some value)
  | put {j : Nat} {cache : Cache} {key : Value} (hu : uses[j]? = some ⟨cache, .put key value⟩)
      (hk : Cache.keyText key = .ok k) (hm : cache.written k value j ∈ history)
  | elected {j : Nat} (he : Elected uses initial history k j value)

/-- A caller that was told a value when it read the key: the key held it, and had it from
somewhere. -/
def Told (i : Nat) (value : Value) : Prop :=
  ∃ before after, history = before ++ ⟨i, .get k .null, value⟩ :: after ∧
    initial.replay before k = some value ∧ Origin uses initial before k value

variable {uses initial history k} {now : List (Program Value)}

theorem Elected.found {i : Nat} {value : Value} (he : Elected uses initial history k i value)
    [DecidablePred fun served : Served => served.call.Fills k] :
    ∃ winner, history.find? (fun served => served.call.Fills k) = some winner ∧
      winner.caller = i := by
  obtain ⟨before, expire, after, hh, hb⟩ := he.first
  refine ⟨⟨i, .add k value expire, true⟩, ?_, rfl⟩
  exact List.find?_eq_some_iff_append.mpr
    ⟨decide_eq_true rfl, before, after, hh, by simpa using hb⟩

/-- At most one is elected. -/
theorem Elected.unique {i j : Nat} {value other : Value}
    (hi : Elected uses initial history k i value)
    (hj : Elected uses initial history k j other) : i = j := by
  classical
  obtain ⟨winner, hwinner, rfl⟩ := hi.found
  obtain ⟨other, hother, rfl⟩ := hj.found
  exact congrArg Served.caller (Option.some.inj (hwinner.symm.trans hother))

theorem Elected.append {i : Nat} {value : Value} (he : Elected uses initial history k i value)
    (more : List Served) : Elected uses initial (history ++ more) k i value := by
  obtain ⟨before, expire, after, rfl, hfirst⟩ := he.first
  exact ⟨he.tries, he.absent, before, expire, after ++ more, by simp, hfirst⟩

/-- A conditional write of the key that is over. -/
structure Settled (uses : List Use) (now : List (Program Value)) (k : Text) (i : Nat)
    (value : Value) (outcome : Except Fault Value) : Prop where
  tries : Tries uses k i value
  ended : now[i]? = some (.done outcome)

section

variable (contends : ∀ use ∈ uses, use.Contends k)
  (hs : Shared initial (uses.map Use.program) history now)

include contends hs

theorem not_clears_of_mem : ∀ served ∈ history, ¬ served.call.Clears k := by
  intro served hm
  obtain ⟨use, hu, hc⟩ := hs.call_of_mem hm
  exact (contends use (List.mem_of_getElem? hu)).not_clears _ hc

/-- An addition that found the key absent has elected its caller. -/
theorem elected_of_absent {before after : List Served} {served : Served}
    (hh : history = before ++ served :: after) {value expire : Value}
    (ha : served.call = .add k value expire) (hk : initial.replay before k = none) :
    Elected uses initial history k served.caller value := by
  have hm : served ∈ history := by simp [hh]
  obtain ⟨use, hu, hc⟩ := hs.call_of_mem hm
  have hkept : ∀ served ∈ before, ¬ served.call.Clears k :=
    fun served hm => not_clears_of_mem contends hs served (by simp [hh, hm])
  obtain ⟨habsent, hfirst⟩ := (initial.replay_eq_none_iff hkept).mp hk
  have htruth := hs.truthful hh
  obtain ⟨caller, c, reply⟩ := served
  obtain rfl : c = .add k value expire := ha
  obtain rfl : reply = true := htruth.trans ((Store.answer_add_iff _ _ _ _).mpr hk)
  obtain ⟨cache, operation⟩ := use
  obtain ⟨key, rfl, hkey⟩ := Use.putIfAbsent_of_add hc
  exact ⟨⟨cache, key, hu, hkey⟩, habsent, before, expire, after, hh, hfirst⟩

/-- Whatever the key holds comes from somewhere. -/
theorem origin_of_replay {value : Value} (hv : initial.replay history k = some value) :
    Origin uses initial history k value := by
  rcases initial.origin_replay hv with hi | ⟨before, served, after, hh, hset | hadd⟩
  · exact .initial hi
  · have hm : served ∈ history := by simp [hh]
    obtain ⟨expire, hset⟩ := hset
    obtain ⟨use, hu, hc⟩ := hs.call_of_mem hm
    rw [hset] at hc
    obtain ⟨caller, c, reply⟩ := served
    obtain ⟨cache, operation⟩ := use
    obtain ⟨key, rfl, hk, rfl⟩ := Use.put_of_set hc
    obtain rfl : c = .set _ value cache.expiration := hset
    exact .put hu hk hm
  · obtain ⟨expire, hadd, hk⟩ := hadd
    exact .elected (elected_of_absent contends hs hh hadd hk)

theorem replay_ne_null (hn : initial k ≠ some .null) : initial.replay history k ≠ some .null := by
  intro hv
  cases origin_of_replay contends hs hv with
  | initial hi => exact hn hi
  | put hu hk hm => exact contends _ (List.mem_of_getElem? hu) hk rfl
  | elected he =>
    obtain ⟨cache, key, hu, hk⟩ := he.tries
    exact contends _ (List.mem_of_getElem? hu) hk rfl

/-- A conditional write that is over has been elected, or it was told another value. -/
theorem settled_cases (hn : initial k ≠ some .null) {i : Nat} {value : Value}
    {outcome : Except Fault Value} (hw : Settled uses now k i value outcome) :
    (outcome = .ok .null ∧ Elected uses initial history k i value) ∨
      ∃ r, outcome = .ok r ∧ r ≠ .null ∧ Told uses initial history k i r := by
  obtain ⟨⟨cache, key, hu, hk⟩, hd⟩ := hw
  rcases hs.putIfAbsent_cases hu hd with
    ⟨fault, ht, -, -⟩ | ⟨text, before, after, ht, hh, rfl⟩ |
    ⟨text, before, between, after, r, ht, hh, rfl⟩
  · cases ht.symm.trans hk
  · cases ht.symm.trans hk
    have habsent := (hs.added_iff hh).mp rfl
    exact .inl ⟨rfl, elected_of_absent contends hs hh rfl habsent⟩
  · cases ht.symm.trans hk
    let earlier := before ++ cache.added k value i false :: between
    have hsplit : history = earlier ++ Cache.reread k i r :: after := by simpa [earlier] using hh
    obtain ⟨past, hearlier⟩ := hs.earlier hsplit
    -- The addition that was refused is itself a sign that the key is not absent.
    have hpresent : initial.replay earlier k ≠ none := by
      intro hnone
      have hkept := not_clears_of_mem contends hearlier
      have hfills := ((initial.replay_eq_none_iff hkept).mp hnone).2
      exact hfills (cache.added k value i false) (by simp [earlier]) rfl
    obtain ⟨held, hheld⟩ := Option.ne_none_iff_exists'.mp hpresent
    obtain rfl := hs.reread_eq hsplit hheld
    have horigin := origin_of_replay contends hearlier hheld
    refine .inr ⟨r, rfl, ?_, earlier, after, hsplit, hheld, horigin⟩
    intro hnull
    exact replay_ne_null contends hearlier hn (hnull ▸ hheld)

end

theorem settled_of_elected (hs : Shared initial (uses.map Use.program) history now) {i : Nat}
    {value : Value} (he : Elected uses initial history k i value) :
    Settled uses now k i value (.ok .null) := by
  obtain ⟨before, expire, after, hh, -⟩ := he.first
  obtain ⟨cache, key, hu, -⟩ := he.tries
  have hm : ⟨i, .add k value expire, true⟩ ∈ history := by simp [hh]
  exact ⟨he.tries, hs.now_of_stored hm rfl hu⟩

/-- Callers contend for a key that holds no null. At most one of them is told null, and that is the
one elected: the key was absent, and no value had come before its own. All others that are over were
told a value that the key held when they read it, be it the initial one, that of an earlier put, or
that of the elected; with no initial value and no puts it is that of the elected. -/
theorem one_elected {uses : List Use} {initial : Store} {history : List Served}
    {now : List (Program Value)} {k : Text} (hn : initial k ≠ some .null)
    (contends : ∀ use ∈ uses, use.Contends k)
    (hs : Shared initial (uses.map Use.program) history now) :
    (∀ i j value other, Settled uses now k i value (.ok .null) →
      Settled uses now k j other (.ok .null) → i = j) ∧
    (∀ i value outcome, Settled uses now k i value outcome →
      (outcome = .ok .null ∧ Elected uses initial history k i value) ∨
        ∃ r, outcome = .ok r ∧ r ≠ .null ∧ Told uses initial history k i r) ∧
    (initial k = none →
      (∀ use ∈ uses, ∀ key value, use.operation = .put key value → Cache.keyText key ≠ .ok k) →
      ∀ i value r, Settled uses now k i value (.ok r) → r ≠ .null →
        ∃ j, Settled uses now k j r (.ok .null)) := by
  have hcases (i : Nat) (value : Value) (outcome : Except Fault Value)
      (hw : Settled uses now k i value outcome) := settled_cases contends hs hn hw
  refine ⟨?_, hcases, ?_⟩
  · have helected : ∀ i value, Settled uses now k i value (.ok .null) →
        Elected uses initial history k i value := by
      intro i value hw
      rcases hcases i value _ hw with ⟨-, he⟩ | ⟨r, hr, hnull, -⟩
      · exact he
      · exact absurd (Except.ok.inj hr).symm hnull
    intro i j value other hi hj
    exact (helected i value hi).unique (helected j other hj)
  · intro habsent hputs i value r hw hr
    rcases hcases i value _ hw with ⟨hnull, -⟩ | ⟨_, ho, -, before, after, hh, -, horigin⟩
    · exact absurd (Except.ok.inj hnull) hr
    · cases ho
      cases horigin with
      | initial hi => cases habsent.symm.trans hi
      | put hu hk _ => exact absurd hk (hputs _ (List.mem_of_getElem? hu) _ _ rfl)
      | elected he =>
        have hwhole := he.append (⟨i, .get k .null, r⟩ :: after)
        rw [← hh] at hwhole
        exact ⟨_, settled_of_elected hs hwhole⟩

/-- Two callers that try for one key, spelt differently, and a put. -/
def contest : List Use :=
  [⟨sessions, .putIfAbsent (.bool true) (.str ['a'])⟩,
    ⟨sessions, .putIfAbsent (.str "True") (.str ['b'])⟩, ⟨sessions, .put (.bool true) (.str ['c'])⟩]

/-- The second is elected, and the first is told what was put after that. -/
theorem contest_elects_one :
    ∃ history now, Store.empty "True" ≠ some .null ∧ (∀ use ∈ contest, use.Contends "True") ∧
      Shared .empty (contest.map Use.program) history now ∧
      Settled contest now "True" 0 (.str ['a']) (.ok (.str ['c'])) ∧
      Told contest .empty history "True" 0 (.str ['c']) ∧
      Settled contest now "True" 1 (.str ['b']) (.ok .null) ∧
      Elected contest .empty history "True" 1 (.str ['b']) := by
  obtain ⟨history, now, hs, hfirst, hsecond⟩ : ∃ history now,
      Shared .empty (contest.map Use.program) history now ∧
        now[0]? = some (.done (.ok (.str ['c']))) ∧ now[1]? = some (.done (.ok .null)) :=
    ⟨_, _, (((Shared.start.serve 1 rfl).serve 0 rfl).serve 2 rfl).serve 0 rfl, rfl, rfl⟩
  have hn : Store.empty "True" ≠ some .null := by simp
  have contends : ∀ use ∈ contest, use.Contends "True" := by simp [contest, Use.Contends]
  have htold : Settled contest now "True" 0 (.str ['a']) (.ok (.str ['c'])) :=
    ⟨⟨sessions, .bool true, rfl, rfl⟩, hfirst⟩
  have hwon : Settled contest now "True" 1 (.str ['b']) (.ok .null) :=
    ⟨⟨sessions, .str "True", rfl, rfl⟩, hsecond⟩
  obtain ⟨-, hcases, -⟩ := one_elected hn contends hs
  refine ⟨history, now, hn, contends, hs, htold, ?_, hwon, ?_⟩
  · rcases hcases _ _ _ htold with ⟨ho, -⟩ | ⟨r, ho, -, hr⟩
    · cases ho
    · cases ho
      exact hr
  · rcases hcases _ _ _ hwon with ⟨-, he⟩ | ⟨r, ho, hnull, -⟩
    · exact he
    · cases ho
      exact absurd rfl hnull

end CacheWiring
