import CacheWiring.Proofs.Stores
import CacheWiring.Proofs.Writes

namespace CacheWiring

structure Served where
  caller : Nat
  call : Call
  reply : call.Reply

def Store.replay (store : Store) (history : List Served) : Store :=
  history.foldl (fun store served => store.after served.call) store

/-- What can have happened on a shared server: the calls that it has answered, and what is left of
each program. With each step the next call of any one of them is answered, whichever client it is
made through. -/
inductive Shared (initial : Store) (programs : List (Program Value)) :
    List Served → List (Program Value) → Prop
  | start : Shared initial programs [] programs
  | serve {history : List Served} {now : List (Program Value)} {client : Nat} {c : Call}
      {next : Except Fault c.Reply → Program Value} (hs : Shared initial programs history now)
      (caller : Nat) (hc : now[caller]? = some (.ask (.call client c) next)) :
      Shared initial programs
        (history ++ [⟨caller, c, ((initial.replay history).answer c).1⟩])
        (now.set caller (next (.ok ((initial.replay history).answer c).1)))

/-- How far a program gets with the replies to its own calls. -/
inductive Program.Leads (caller : Nat) : Program Value → List Served → Program Value → Prop
  | here (p : Program Value) : Leads caller p [] p
  | call {client : Nat} {c : Call} {next : Except Fault c.Reply → Program Value}
      {own : List Served} {q : Program Value} {reply : c.Reply}
      (hn : Leads caller (next (.ok reply)) own q) :
      Leads caller (.ask (.call client c) next) (⟨caller, c, reply⟩ :: own) q

namespace Store

variable (initial : Store)

@[simp] theorem replay_nil : initial.replay [] = initial := rfl

theorem replay_append (before after : List Served) :
    initial.replay (before ++ after) = (initial.replay before).replay after :=
  List.foldl_append

theorem replay_concat (history : List Served) (served : Served) :
    initial.replay (history ++ [served]) = (initial.replay history).after served.call := by
  rw [replay_append]
  rfl

end Store

namespace Shared

variable {initial : Store} {programs : List (Program Value)} {history : List Served}
  {now : List (Program Value)}

/-- A history has come about one call after another. -/
theorem earlier (hs : Shared initial programs history now) {before after : List Served}
    (hh : history = before ++ after) : ∃ past, Shared initial programs before past := by
  induction hs generalizing after with
  | start =>
    obtain ⟨rfl, -⟩ := List.append_eq_nil_iff.mp hh.symm
    exact ⟨_, .start⟩
  | @serve history now client c next hs caller hc ih =>
    rcases List.eq_nil_or_concat after with rfl | ⟨rest, last, rfl⟩
    · rw [List.append_nil] at hh
      exact ⟨_, hh ▸ hs.serve caller hc⟩
    · rw [List.concat_eq_append, ← List.append_assoc] at hh
      exact ih (List.append_inj' hh rfl).1

/-- Each call was answered from what the calls before it had left. -/
theorem truthful (hs : Shared initial programs history now) {before after : List Served}
    {served : Served} (hh : history = before ++ served :: after) :
    served.reply = ((initial.replay before).answer served.call).1 := by
  have hsplit : history = (before ++ [served]) ++ after := by simp [hh]
  obtain ⟨past, hlast⟩ := hs.earlier hsplit
  generalize hwhole : before ++ [served] = whole at hlast
  cases hlast with
  | start => simp at hwhole
  | serve _ caller hc =>
    obtain ⟨rfl, hlast⟩ := List.append_inj' hwhole rfl
    obtain rfl := (List.cons.inj hlast).1
    rfl

theorem length_now (hs : Shared initial programs history now) : now.length = programs.length := by
  induction hs with
  | start => rfl
  | serve _ _ _ ih => rw [List.length_set, ih]

theorem caller_lt (hs : Shared initial programs history now) :
    ∀ served ∈ history, served.caller < programs.length := by
  induction hs with
  | start => simp
  | @serve history now client c next hs caller hc ih =>
    have hnew : caller < programs.length := by
      rw [← hs.length_now]
      exact (List.getElem?_eq_some_iff.mp hc).1
    simpa [or_imp, forall_and] using ⟨ih, hnew⟩

end Shared

/-- One more reply gets a program one call further. -/
theorem Program.Leads.concat {caller client : Nat} {c : Call}
    {next : Except Fault c.Reply → Program Value} {p : Program Value} {own : List Served}
    (hl : Leads caller p own (.ask (.call client c) next)) (reply : c.Reply) :
    Leads caller p (own ++ [⟨caller, c, reply⟩]) (next (.ok reply)) := by
  generalize hq : Program.ask (.call client c) next = q at hl
  induction hl with
  | here p =>
    subst hq
    exact .call (.here _)
  | call _ ih => exact .call (ih hq)

def ownCalls (caller : Nat) (history : List Served) : List Served :=
  history.filter fun served => served.caller = caller

theorem ownCalls_concat (history : List Served) (served : Served) :
    ownCalls served.caller (history ++ [served]) = ownCalls served.caller history ++ [served] := by
  simp [ownCalls]

theorem ownCalls_concat_other {caller : Nat} (history : List Served) {served : Served}
    (ho : served.caller ≠ caller) :
    ownCalls caller (history ++ [served]) = ownCalls caller history := by
  simp [ownCalls, ho]

theorem mem_ownCalls {history : List Served} {served : Served} (hm : served ∈ history) :
    served ∈ ownCalls served.caller history := by
  simp [ownCalls, hm]

/-- What is left of a program is what its own calls have led to. -/
theorem Shared.leads {initial : Store} {programs : List (Program Value)} {history : List Served}
    {now : List (Program Value)} (hs : Shared initial programs history now) {i : Nat}
    {p : Program Value} (hp : programs[i]? = some p) :
    ∃ q, now[i]? = some q ∧ p.Leads i (ownCalls i history) q := by
  induction hs with
  | start => exact ⟨p, hp, .here p⟩
  | @serve history now client c next hs caller hc ih =>
    obtain ⟨q, hq, hl⟩ := ih
    by_cases hi : caller = i
    · subst hi
      obtain rfl := Option.some.inj (hc.symm.trans hq)
      refine ⟨_, List.getElem?_set_self (List.getElem?_eq_some_iff.mp hc).1, ?_⟩
      rw [ownCalls_concat history ⟨caller, c, _⟩]
      exact hl.concat _
    · refine ⟨q, by rwa [List.getElem?_set_ne hi], ?_⟩
      rwa [ownCalls_concat_other history hi]

/-- The first call of a caller stands somewhere in the history, and its others come after it. -/
theorem split_of_ownCalls {i : Nat} {history own : List Served} {served : Served}
    (hh : ownCalls i history = served :: own) :
    ∃ before after, history = before ++ served :: after ∧ ownCalls i after = own := by
  obtain ⟨before, after, rfl, -, -, ho⟩ := List.filter_eq_cons_iff.mp hh
  exact ⟨before, after, rfl, ho⟩

def Use.program (use : Use) : Program Value := use.operation.on use.cache

theorem getElem?_program {uses : List Use} {i : Nat} {use : Use} (hu : uses[i]? = some use) :
    (uses.map Use.program)[i]? = some use.program := by
  rw [List.getElem?_map, hu]
  rfl

/-- A client is called, and it is one of these calls. -/
def Happening.Among (calls : List Call) : Happening → Prop
  | .asked (.call _ c) _ => c ∈ calls
  | _ => False

theorem program_among (use : Use) : use.program.Only (Happening.Among use.calls) :=
  use.only fun _ hc _ => hc

theorem Program.Leads.among {caller : Nat} {p q : Program Value} {own : List Served}
    {calls : List Call} (hl : p.Leads caller own q) (hp : p.Only (Happening.Among calls)) :
    ∀ served ∈ own, served.call ∈ calls := by
  induction hl with
  | here => simp
  | @call _ _ _ _ _ reply _ ih =>
    obtain ⟨hc, hnext⟩ := hp (.ok reply)
    exact List.forall_mem_cons.mpr ⟨hc, ih hnext⟩

/-- Nothing is asked of a shared server but what the uses of it come to. -/
theorem Shared.call_of_mem {initial : Store} {uses : List Use} {history : List Served}
    {now : List (Program Value)} (hs : Shared initial (uses.map Use.program) history now)
    {served : Served} (hm : served ∈ history) :
    ∃ use, uses[served.caller]? = some use ∧ served.call ∈ use.calls := by
  have hlt : served.caller < uses.length := by simpa using hs.caller_lt served hm
  have hu : uses[served.caller]? = some uses[served.caller] := List.getElem?_eq_getElem hlt
  obtain ⟨q, -, hl⟩ := hs.leads (getElem?_program hu)
  exact ⟨_, hu, hl.among (program_among _) served (mem_ownCalls hm)⟩

/-- It is an addition, and it has stored its value. -/
def Served.stored : Served → Bool
  | ⟨_, .add .., stored⟩ => stored
  | _ => false

namespace Cache

/-- The first call of a conditional write, with whether it stored the value. -/
def added (cache : Cache) (k : Text) (value : Value) (caller : Nat) (stored : Bool) : Served :=
  ⟨caller, .add k value cache.expiration, stored⟩

/-- The second one, which is made when it did not. -/
def reread (k : Text) (caller : Nat) (r : Value) : Served := ⟨caller, .get k .null, r⟩

@[simp] theorem stored_added (cache : Cache) (k : Text) (value : Value) (caller : Nat)
    (stored : Bool) : (cache.added k value caller stored).stored = stored := rfl

@[simp] theorem stored_reread (k : Text) (caller : Nat) (r : Value) :
    (reread k caller r).stored = false := rfl

/-- How far a conditional write can be: the calls that were answered, and what is left to do. -/
inductive Trying (cache : Cache) (key value : Value) (i : Nat) : List Served → Program Value → Prop
  | textless {fault : Fault} (hk : keyText key = .error fault) :
      Trying cache key value i [] (.done (.error fault))
  | waiting {k : Text} (hk : keyText key = .ok k) :
      Trying cache key value i [] (cache.putIfAbsent (.str k) value)
  | stored {k : Text} (hk : keyText key = .ok k) :
      Trying cache key value i [cache.added k value i true] (.done (.ok .null))
  | refused {k : Text} (hk : keyText key = .ok k) :
      Trying cache key value i [cache.added k value i false] (cache.get (.str k) .null)
  | read {k : Text} (hk : keyText key = .ok k) (r : Value) :
      Trying cache key value i [cache.added k value i false, reread k i r] (.done (.ok r))

theorem leads_putIfAbsent {cache : Cache} {key value : Value} {i : Nat} {own : List Served}
    {q : Program Value} (hl : (cache.putIfAbsent key value).Leads i own q) :
    Trying cache key value i own q := by
  cases hk : keyText key with
  | error fault =>
    have hfailed : cache.putIfAbsent key value = .done (.error fault) := by
      simp only [putIfAbsent, hk]
      rfl
    rw [hfailed] at hl
    cases hl
    exact .textless hk
  | ok k =>
    have hsame : cache.putIfAbsent key value = cache.putIfAbsent (.str k) value := by
      simp only [putIfAbsent, hk]
      rfl
    rw [hsame] at hl
    cases hl with
    | here => exact .waiting hk
    | @call _ _ _ _ _ reply hn =>
      cases reply with
      | true =>
        change (Program.done (.ok .null)).Leads i _ _ at hn
        cases hn
        exact .stored hk
      | false =>
        change (cache.get (.str k) .null).Leads i _ _ at hn
        cases hn with
        | here => exact .refused hk
        | @call _ _ _ _ _ r hn =>
          cases hn
          exact .read hk r

end Cache

section

variable {initial : Store} {uses : List Use} {history : List Served} {now : List (Program Value)}
  {i : Nat} {cache : Cache} {key value : Value} {k : Text}

theorem Shared.trying (hs : Shared initial (uses.map Use.program) history now)
    (hu : uses[i]? = some ⟨cache, .putIfAbsent key value⟩) :
    ∃ q, now[i]? = some q ∧ Cache.Trying cache key value i (ownCalls i history) q := by
  obtain ⟨q, hq, hl⟩ := hs.leads (getElem?_program hu)
  exact ⟨q, hq, Cache.leads_putIfAbsent hl⟩

/-- A conditional write that is over has made no call, one, or two with whatever others in
between. -/
theorem Shared.putIfAbsent_cases (hs : Shared initial (uses.map Use.program) history now)
    {outcome : Except Fault Value} (hu : uses[i]? = some ⟨cache, .putIfAbsent key value⟩)
    (hd : now[i]? = some (.done outcome)) :
    (∃ fault, Cache.keyText key = .error fault ∧ ownCalls i history = [] ∧
        outcome = .error fault) ∨
      (∃ k before after, Cache.keyText key = .ok k ∧
        history = before ++ cache.added k value i true :: after ∧ outcome = .ok .null) ∨
      ∃ k before between after r, Cache.keyText key = .ok k ∧
        history = before ++ cache.added k value i false ::
          (between ++ Cache.reread k i r :: after) ∧ outcome = .ok r := by
  obtain ⟨q, hq, ht⟩ := hs.trying hu
  obtain rfl := Option.some.inj (hq.symm.trans hd)
  generalize hown : ownCalls i history = own at ht
  cases ht with
  | textless hk => exact .inl ⟨_, hk, rfl, rfl⟩
  | stored hk =>
    obtain ⟨before, after, hh, -⟩ := split_of_ownCalls hown
    exact .inr (.inl ⟨_, before, after, hk, hh, rfl⟩)
  | read hk r =>
    obtain ⟨before, rest, hh, hrest⟩ := split_of_ownCalls hown
    obtain ⟨between, after, rfl, -⟩ := split_of_ownCalls hrest
    exact .inr (.inr ⟨_, before, between, after, r, hk, hh, rfl⟩)

theorem Shared.added_iff (hs : Shared initial (uses.map Use.program) history now)
    {before after : List Served} {stored : Bool}
    (hh : history = before ++ cache.added k value i stored :: after) :
    stored = true ↔ initial.replay before k = none := by
  have hreply : stored = _ := hs.truthful hh
  rw [hreply]
  exact Store.answer_add_iff _ _ _ _

theorem Shared.reread_eq (hs : Shared initial (uses.map Use.program) history now)
    {before after : List Served} {r found : Value}
    (hh : history = before ++ Cache.reread k i r :: after)
    (hf : initial.replay before k = some found) : r = found := by
  have hreply : r = (initial.replay before k).getD .null := hs.truthful hh
  rw [hreply, hf, Option.getD_some]

/-- One that has stored its value is over, and null is its result. -/
theorem Shared.now_of_stored (hs : Shared initial (uses.map Use.program) history now)
    {served : Served} (hm : served ∈ history) (hstored : served.stored = true)
    (hu : uses[served.caller]? = some ⟨cache, .putIfAbsent key value⟩) :
    now[served.caller]? = some (.done (.ok .null)) := by
  obtain ⟨q, hq, ht⟩ := hs.trying hu
  have hown : ∃ own ∈ ownCalls served.caller history, own.stored = true :=
    ⟨served, mem_ownCalls hm, hstored⟩
  generalize ownCalls served.caller history = own at ht hown
  cases ht with
  | stored hk => exact hq
  | _ => simp at hown

end

/-- A conditional write that is over, on a server that others use as well. One whose key has no text
fails and has made no call. Otherwise its value was stored exactly when the addition found the key
absent, and then the result is null. If it was not, the result is what the key holds when it is read
after that, be it null. So where the read finds another value than null, the result is null exactly
when the value was stored. -/
theorem conditional_write_tells {initial : Store} {uses : List Use} {history : List Served}
    {now : List (Program Value)} (hs : Shared initial (uses.map Use.program) history now)
    {i : Nat} {cache : Cache} {key value : Value} {outcome : Except Fault Value}
    (hu : uses[i]? = some ⟨cache, .putIfAbsent key value⟩)
    (hd : now[i]? = some (.done outcome)) :
    (∀ fault, Cache.keyText key = .error fault →
      outcome = .error fault ∧ ownCalls i history = []) ∧
    ∀ k, Cache.keyText key = .ok k →
      let added := cache.added k value i
      ∃ before stored after, history = before ++ added stored :: after ∧
        (stored = true ↔ initial.replay before k = none) ∧
        (stored = true →
          initial.replay (before ++ [added true]) k = some value ∧ outcome = .ok .null) ∧
        (stored = false → ∃ between r rest, after = between ++ Cache.reread k i r :: rest ∧
          outcome = .ok r ∧
          ∀ found, initial.replay (before ++ added false :: between) k = some found → r = found) ∧
        ((∀ between r rest, after = between ++ Cache.reread k i r :: rest →
            ∃ found, initial.replay (before ++ added stored :: between) k = some found ∧
              found ≠ .null) →
          (outcome = .ok .null ↔ stored = true)) := by
  rcases hs.putIfAbsent_cases hu hd with
    ⟨fault, hk, hown, rfl⟩ | ⟨k, before, after, hk, hh, rfl⟩ |
    ⟨k, before, between, rest, r, hk, hh, rfl⟩
  · refine ⟨fun other ho => ?_, fun k ho => ?_⟩
    · cases hk.symm.trans ho
      exact ⟨rfl, hown⟩
    · cases hk.symm.trans ho
  · refine ⟨fun fault ho => (nomatch hk.symm.trans ho), fun text ho => ?_⟩
    cases hk.symm.trans ho
    intro added
    have hiff := hs.added_iff hh
    have hstored := Store.answer_add_absent (hiff.mp rfl) value cache.expiration
    refine ⟨before, true, after, hh, hiff, fun _ => ⟨?_, rfl⟩, by simp, by simp⟩
    simp [Store.replay_concat, added, Cache.added, Store.after, hstored]
  · refine ⟨fun fault ho => (nomatch hk.symm.trans ho), fun text ho => ?_⟩
    cases hk.symm.trans ho
    intro added
    have hsplit : history = (before ++ added false :: between) ++ Cache.reread k i r :: rest := by
      simpa using hh
    have hread : ∀ found, initial.replay (before ++ added false :: between) k = some found →
        r = found := fun found hfound => hs.reread_eq hsplit hfound
    refine ⟨before, false, _, hh, hs.added_iff hh, by simp,
      fun _ => ⟨between, r, rest, rfl, rfl, hread⟩, fun hall => ?_⟩
    obtain ⟨found, hfound, hn⟩ := hall between r rest rfl
    simpa [hread found hfound] using hn

def sessions : Cache := ⟨.str ['s'], 0, .int 60⟩

/-- A conditional write, with two others that take the value away and put another in its place. -/
def overtaking : List Use :=
  [⟨sessions, .putIfAbsent (.bool true) (.str ['n'])⟩, ⟨sessions, .evict (.str "True")⟩,
    ⟨sessions, .put (.bool true) (.str ['o'])⟩]

/-- They come in between its two calls, and it tells of the value that it then finds. -/
theorem overtaken_write_tells :
    let initial := Store.empty.hold "True" (.str ['i'])
    ∃ history now, Shared initial (overtaking.map Use.program) history now ∧
      overtaking[0]? = some ⟨sessions, .putIfAbsent (.bool true) (.str ['n'])⟩ ∧
      now[0]? = some (.done (.ok (.str ['o']))) ∧
      ∃ before after, history = before ++ sessions.added "True" (.str ['n']) 0 false :: after ∧
        initial.replay before "True" ≠ none := by
  intro initial
  have hs : Shared initial (overtaking.map Use.program) _ _ :=
    (((Shared.start.serve 0 rfl).serve 1 rfl).serve 2 rfl).serve 0 rfl
  refine ⟨_, _, hs, rfl, rfl, ?_⟩
  obtain ⟨-, htells⟩ := conditional_write_tells hs (i := 0) rfl rfl
  obtain ⟨before, stored, after, hh, hiff, htold, -⟩ := htells "True" rfl
  cases stored with
  | true => cases (htold rfl).2
  | false => exact ⟨before, after, hh, fun hk => Bool.false_ne_true (hiff.mpr hk)⟩

/-- A null that is held is the result of a conditional write that stored nothing. -/
theorem not_every_null_means_stored :
    ¬ ∀ (initial : Store) (uses : List Use) (history : List Served) (now : List (Program Value)),
      Shared initial (uses.map Use.program) history now →
        ∀ (i : Nat) (cache : Cache) (key value : Value) (k : Text) (outcome : Except Fault Value),
          uses[i]? = some ⟨cache, .putIfAbsent key value⟩ → Cache.keyText key = .ok k →
            now[i]? = some (.done outcome) →
              (outcome = .ok .null ↔ cache.added k value i true ∈ history) := by
  intro hall
  have hs : Shared (Store.empty.hold ['k'] .null)
      ([⟨sessions, .putIfAbsent (.str ['k']) (.str ['v'])⟩].map Use.program)
      [sessions.added ['k'] (.str ['v']) 0 false, Cache.reread ['k'] 0 .null]
      [.done (.ok .null)] :=
    (Shared.start.serve 0 rfl).serve 0 rfl
  have hm := (hall _ _ _ _ hs 0 sessions (.str ['k']) (.str ['v']) ['k'] (.ok .null) rfl rfl
    rfl).mp rfl
  rcases List.mem_pair.mp hm with he | he
  · exact absurd (congrArg Served.stored he) (by simp)
  · exact absurd (congrArg Served.stored he) (by simp)

end CacheWiring
