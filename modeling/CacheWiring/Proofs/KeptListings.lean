import CacheWiring.Proofs.StackContents
import CacheWiring.Proofs.Traces

namespace CacheWiring

variable {σ : Type}

namespace Listing

/-- An entry tells of a resource; a physical id that is absent is an empty one. -/
structure Summarizes (entry : Value) (r : StackResource) : Prop where
  logicalId : entry.get? "LogicalResourceId" = some r.logicalId
  physicalId : (entry.get? "PhysicalResourceId").getD (.str "") = r.physicalId
  type : entry.get? "ResourceType" = some r.type

/-- What is wrong with an entry that tells of none. -/
inductive Malformed (entry : Value) : Fault → Prop
  | shapeless (hm : ¬ entry.IsMapping) : Malformed entry .wrongType
  | nameless (hm : entry.IsMapping) (hl : entry.get? "LogicalResourceId" = none) :
      Malformed entry (.missingKey (.str "LogicalResourceId"))
  | typeless {id : Value} (hl : entry.get? "LogicalResourceId" = some id)
      (ht : entry.get? "ResourceType" = none) :
      Malformed entry (.missingKey (.str "ResourceType"))

/-- The collection of entries on a page, an empty one when the page has none. -/
def collection (content : Value) : Value :=
  (content.get? "StackResourceSummaries").getD (.list [])

/-- A page that is a mapping and has these entries in order. -/
structure PageHolds (content : Value) (entries : List Value) : Prop where
  mapping : content.IsMapping
  entries : (collection content).members = .ok entries

/-- Pages that come to an end, with the resources of which they tell. -/
inductive Complete : Pages → List StackResource → Prop
  | last : Complete .last []
  | page {content : Value} {entries : List Value} {resources more : List StackResource}
      {rest : Pages} (hp : PageHolds content entries)
      (hs : List.Forall₂ Summarizes entries resources) (hrest : Complete rest more) :
      Complete (.page content rest) (resources ++ more)

/-- Pages that break off: at a fault of the listing itself, or at the first page or entry that
cannot be read. -/
inductive Breaks : Pages → Fault → Prop
  | broken (fault : Fault) : Breaks (.broken fault) fault
  | shapeless {content : Value} {rest : Pages} (hm : ¬ content.IsMapping) :
      Breaks (.page content rest) .noFields
  | uncollected {content : Value} {rest : Pages} {fault : Fault} (hm : content.IsMapping)
      (he : (collection content).members = .error fault) : Breaks (.page content rest) fault
  | malformed {content entry : Value} {before after : List Value}
      {resources : List StackResource} {rest : Pages} {fault : Fault}
      (hp : PageHolds content (before ++ entry :: after))
      (hs : List.Forall₂ Summarizes before resources) (hf : Malformed entry fault) :
      Breaks (.page content rest) fault
  | later {content : Value} {entries : List Value} {resources : List StackResource} {rest : Pages}
      {fault : Fault} (hp : PageHolds content entries)
      (hs : List.Forall₂ Summarizes entries resources) (hrest : Breaks rest fault) :
      Breaks (.page content rest) fault

end Listing

namespace Value

theorem entries?_of_shapeless {v : Value} (hv : ¬ v.IsMapping) : v.entries? = none := by
  cases he : v.entries? with
  | none => rfl
  | some entries => exact absurd ⟨entries, he⟩ hv

theorem fieldOr_shapeless {v : Value} (hv : ¬ v.IsMapping) (name : Text) (fallback : Value) :
    v.fieldOr name fallback = .error .noFields := by
  simp [fieldOr, field?, entries?_of_shapeless hv, Except.map]

theorem required_shapeless {v : Value} (hv : ¬ v.IsMapping) (name : Text) :
    v.required name = .error .wrongType := by
  simp [required, entries?_of_shapeless hv]

theorem required_absent {v : Value} {name : Text} (hv : v.IsMapping) (hf : v.get? name = none) :
    v.required name = .error (.missingKey (.str name)) := by
  obtain ⟨entries, he⟩ := hv
  simp only [get?, he, Option.bind_some] at hf
  simp [required, he, hf]

end Value

namespace Listing

/-- An entry tells of a resource, or something is wrong with it. -/
theorem summary_cases (entry : Value) :
    (∃ r, StackDirectory.summary entry = .ok r ∧ Summarizes entry r) ∨
      ∃ fault, StackDirectory.summary entry = .error fault ∧ Malformed entry fault := by
  by_cases hm : entry.IsMapping
  · cases hid : entry.get? "LogicalResourceId" with
    | none =>
      refine .inr ⟨_, ?_, .nameless hm hid⟩
      rw [StackDirectory.summary, Value.required_absent hm hid]
      rfl
    | some id =>
      cases ht : entry.get? "ResourceType" with
      | none =>
        refine .inr ⟨_, ?_, .typeless hid ht⟩
        rw [StackDirectory.summary, bind_of_ok (Value.required_eq hid),
          bind_of_ok (Value.fieldOr_eq hm _ _), Value.required_absent hm ht]
        rfl
      | some type => exact .inl ⟨_, summary_eq hid ht, hid, rfl, ht⟩
  · refine .inr ⟨_, ?_, .shapeless hm⟩
    rw [StackDirectory.summary, Value.required_shapeless hm]
    rfl

theorem summary_eq_ok_iff (entry : Value) (r : StackResource) :
    StackDirectory.summary entry = .ok r ↔ Summarizes entry r := by
  constructor
  · intro hs
    rcases summary_cases entry with ⟨r', hr, hsummarizes⟩ | ⟨fault, hf, -⟩
    · cases hr.symm.trans hs
      exact hsummarizes
    · cases hf.symm.trans hs
  · intro hs
    rw [summary_eq hs.logicalId hs.type, hs.physicalId]

theorem malformed_of_summary {entry : Value} {fault : Fault}
    (hs : StackDirectory.summary entry = .error fault) : Malformed entry fault := by
  rcases summary_cases entry with ⟨r, hr, -⟩ | ⟨other, ho, hm⟩
  · cases hr.symm.trans hs
  · cases ho.symm.trans hs
    exact hm

theorem mapM_summary_iff (entries : List Value) (resources : List StackResource) :
    entries.mapM StackDirectory.summary = .ok resources ↔
      List.Forall₂ Summarizes entries resources := by
  rw [mapM_eq_ok_iff]
  simp only [summary_eq_ok_iff]

theorem fieldOr_collection {content : Value} (hm : content.IsMapping) :
    content.fieldOr "StackResourceSummaries" (.list []) = .ok (collection content) :=
  Value.fieldOr_eq hm _ _

theorem pageResources_eq {content : Value} {entries : List Value} (hp : PageHolds content entries) :
    StackDirectory.pageResources content = entries.mapM StackDirectory.summary := by
  rw [StackDirectory.pageResources, bind_of_ok (fieldOr_collection hp.mapping),
    bind_of_ok hp.entries]

/-- A page is read, or it breaks off all that follows it. -/
theorem pageResources_cases (content : Value) :
    (∃ entries resources, PageHolds content entries ∧
        List.Forall₂ Summarizes entries resources ∧
        StackDirectory.pageResources content = .ok resources) ∨
      ∃ fault, StackDirectory.pageResources content = .error fault ∧
        ∀ rest, Breaks (.page content rest) fault := by
  by_cases hm : content.IsMapping
  · cases he : (collection content).members with
    | error fault =>
      refine .inr ⟨fault, ?_, fun rest => .uncollected hm he⟩
      rw [StackDirectory.pageResources, bind_of_ok (fieldOr_collection hm), he]
      rfl
    | ok entries =>
      have hp : PageHolds content entries := ⟨hm, he⟩
      rw [pageResources_eq hp]
      cases hs : entries.mapM StackDirectory.summary with
      | ok resources => exact .inl ⟨entries, resources, hp, (mapM_summary_iff _ _).mp hs, rfl⟩
      | error fault =>
        obtain ⟨before, entry, after, resources, rfl, hbefore, hentry⟩ := split_of_mapM_error hs
        have hread := (mapM_summary_iff _ _).mp hbefore
        exact .inr ⟨fault, rfl, fun rest => .malformed hp hread (malformed_of_summary hentry)⟩
  · refine .inr ⟨.noFields, ?_, fun rest => .shapeless hm⟩
    rw [StackDirectory.pageResources, Value.fieldOr_shapeless hm]
    rfl

theorem pagesResources_cases (pages : Pages) :
    (∃ resources, StackDirectory.pagesResources pages = .ok resources ∧ Complete pages resources) ∨
      ∃ fault, StackDirectory.pagesResources pages = .error fault ∧ Breaks pages fault := by
  induction pages with
  | last => exact .inl ⟨[], rfl, .last⟩
  | broken fault => exact .inr ⟨fault, rfl, .broken fault⟩
  | page content rest ih =>
    simp only [StackDirectory.pagesResources]
    rcases pageResources_cases content with ⟨entries, resources, hp, hs, hr⟩ | ⟨fault, hf, hb⟩
    · rw [bind_of_ok hr]
      rcases ih with ⟨more, hm, hc⟩ | ⟨fault, hf, hb⟩
      · exact .inl ⟨resources ++ more, by rw [hm]; rfl, .page hp hs hc⟩
      · exact .inr ⟨fault, by rw [hf]; rfl, .later hp hs hb⟩
    · exact .inr ⟨fault, by rw [hf]; rfl, hb rest⟩

/-- How an attempt to list a stack goes: what it comes to, the state that it leads to, and its
requests. Each attempt asks for the pages anew. -/
inductive Attempt (h : Handler σ) (stack : Value) (s : σ) :
    Except Fault (List StackResource) → σ → List Request → Prop
  | unopened {fault : Fault} {s' : σ} (ho : h.answer s .openListing = (.error fault, s')) :
      Attempt h stack s (.error fault) s' [.openListing]
  | refused {fault : Fault} {s₁ s' : σ} (ho : h.answer s .openListing = (.ok (), s₁))
      (hl : h.answer s₁ (.listStackResources stack) = (.error fault, s')) :
      Attempt h stack s (.error fault) s' [.openListing, .listStackResources stack]
  | broken {pages : Pages} {fault : Fault} {s₁ s' : σ}
      (ho : h.answer s .openListing = (.ok (), s₁))
      (hl : h.answer s₁ (.listStackResources stack) = (.ok pages, s')) (hb : Breaks pages fault) :
      Attempt h stack s (.error fault) s' [.openListing, .listStackResources stack]
  | complete {pages : Pages} {resources : List StackResource} {s₁ s' : σ}
      (ho : h.answer s .openListing = (.ok (), s₁))
      (hl : h.answer s₁ (.listStackResources stack) = (.ok pages, s'))
      (hc : Complete pages resources) :
      Attempt h stack s (.ok resources) s' [.openListing, .listStackResources stack]

/-- Attempts one after another, each of which comes to a fault. -/
inductive FailedAttempts (h : Handler σ) (stack : Value) :
    σ → List Fault → σ → List Request → Prop
  | nil (s : σ) : FailedAttempts h stack s [] s []
  | cons {s s₁ s₂ : σ} {fault : Fault} {faults : List Fault} {asked more : List Request}
      (ha : Attempt h stack s (.error fault) s₁ asked)
      (hrest : FailedAttempts h stack s₁ faults s₂ more) :
      FailedAttempts h stack s (fault :: faults) s₂ (asked ++ more)

variable (h : Handler σ) (stack : Value)

theorem run_loadListing (s : σ) :
    Attempt h stack s ((StackDirectory.loadListing stack).run h s).outcome
      ((StackDirectory.loadListing stack).run h s).state
      (requests ((StackDirectory.loadListing stack).run h s).trace) := by
  rcases ho : h.answer s .openListing with ⟨_ | opened, s₁⟩
  · simp only [StackDirectory.loadListing, bind, Program.bind, Program.request, Program.run, ho]
    exact .unopened ho
  · rcases hl : h.answer s₁ (.listStackResources stack) with ⟨_ | pages, s'⟩
    · simp only [StackDirectory.loadListing, bind, Program.bind, Program.request, Program.run, ho,
        hl]
      exact .refused ho hl
    · rcases pagesResources_cases pages with ⟨resources, hr, hc⟩ | ⟨fault, hf, hb⟩
      · simp only [StackDirectory.loadListing, bind, Program.bind, Program.request, Program.run, ho,
          hl, hr, Program.ofExcept]
        exact .complete ho hl hc
      · simp only [StackDirectory.loadListing, bind, Program.bind, Program.request, Program.run, ho,
          hl, hf, Program.ofExcept]
        exact .broken ho hl hb

end Listing

namespace StackDirectory

def query (directory : StackDirectory) (type : Text) :
    Program (Except Fault (List StackResource) × StackDirectory) := do
  match ← (directory.resourcesByType type).attempt with
  | .ok (resources, kept) => return (.ok resources, kept)
  | .error fault => return (.error fault, directory)

def queries (directory : StackDirectory) :
    List Text → Program (List (Except Fault (List StackResource)) × StackDirectory)
  | [] => return ([], directory)
  | type :: rest => do
    let (answer, next) ← directory.query type
    let (answers, last) ← next.queries rest
    return (answer :: answers, last)

variable (h : Handler σ) (stack : Value)

/-- A query, followed by further ones on the directory that it leaves. -/
theorem run_queries_cons {directory next last : StackDirectory} {type : Text} {rest : List Text}
    {answer : Except Fault (List StackResource)}
    {answers : List (Except Fault (List StackResource))}
    {s s' s₂ : σ} {trace more : List Happening}
    (hq : (directory.query type).run h s = ⟨.ok (answer, next), s', trace⟩)
    (hr : (next.queries rest).run h s' = ⟨.ok (answers, last), s₂, more⟩) :
    (directory.queries (type :: rest)).run h s =
      ⟨.ok (answer :: answers, last), s₂, trace ++ more⟩ := by
  simp only [queries, Program.run_bind, hq, hr, Run.andThen_ok, Program.run_pure, List.append_nil]

/-- A listing that is kept answers without a request. -/
theorem run_queries_kept (resources : List StackResource) (types : List Text) (s : σ) :
    ((cloudFormation stack (some resources)).queries types).run h s =
      ⟨.ok (types.map fun type => .ok (ofType type resources),
        .cloudFormation stack (some resources)), s, []⟩ := by
  induction types with
  | nil => rfl
  | cons type rest ih =>
    have hquery : ((cloudFormation stack (some resources)).query type).run h s =
        ⟨.ok (.ok (ofType type resources), .cloudFormation stack (some resources)), s, []⟩ := rfl
    exact run_queries_cons h hquery ih

/-- Without one a query is an attempt to list the stack, and what it comes to decides. -/
theorem run_query_unlisted (type : Text) (s : σ) :
    ∃ outcome s' asked trace, Listing.Attempt h stack s outcome s' asked ∧
      requests trace = asked ∧
      ((cloudFormation stack none).query type).run h s =
        ⟨.ok (outcome.map (ofType type), .cloudFormation stack outcome.toOption), s', trace⟩ := by
  have hattempt := Listing.run_loadListing h stack s
  simp only [query, resourcesByType, Program.run_bind, Program.run_attempt, Run.andThen_ok]
  generalize (loadListing stack).run h s = loading at hattempt ⊢
  obtain ⟨outcome, s', trace⟩ := loading
  cases outcome with
  | error fault => exact ⟨_, _, _, trace, hattempt, rfl, by simp [Except.map, Except.toOption]⟩
  | ok resources => exact ⟨_, _, _, trace, hattempt, rfl, by simp [Except.map, Except.toOption]⟩

/-- Queries of a directory that has no listing: up to the first attempt that comes to the end of its
pages each query makes one of its own, comes to the fault of that attempt and leaves the directory
without a listing. With that attempt the requests end, and this query and all further ones are
answered with its resources of their type, in the order of the listing. -/
theorem listed_until_complete (h : Handler σ) (stack : Value) (types : List Text) (s : σ) :
    let run (types : List Text) := ((cloudFormation stack none).queries types).run h s
    ∃ before rest faults s₁ asked, types = before ++ rest ∧ before.length = faults.length ∧
      Listing.FailedAttempts h stack s faults s₁ asked ∧
      (∃ trace, run before = ⟨.ok (faults.map .error, .cloudFormation stack none), s₁, trace⟩ ∧
        requests trace = asked) ∧
      (rest ≠ [] → ∃ resources s₂ more, Listing.Attempt h stack s₁ (.ok resources) s₂ more ∧
        ∃ trace, run types =
            ⟨.ok (faults.map .error ++ rest.map fun type => .ok (ofType type resources),
              .cloudFormation stack (some resources)), s₂, trace⟩ ∧
          requests trace = asked ++ more) := by
  intro run
  induction types generalizing s with
  | nil => exact ⟨[], [], [], s, [], rfl, rfl, .nil s, ⟨[], rfl, rfl⟩, fun hn => absurd rfl hn⟩
  | cons type rest ih =>
    obtain ⟨outcome, s', asked, trace, hattempt, rfl, hquery⟩ := run_query_unlisted h stack type s
    cases outcome with
    | ok resources =>
      have hkept := run_queries_cons h hquery (run_queries_kept h stack resources rest s')
      refine ⟨[], type :: rest, [], s, [], rfl, rfl, .nil s, ⟨[], rfl, rfl⟩, fun _ => ?_⟩
      exact ⟨resources, s', requests trace, hattempt, _, hkept, by simp⟩
    | error fault =>
      obtain ⟨before, after, faults, s₁, asked, rfl, hlength, hfailed, ⟨_, hbefore, rfl⟩, hafter⟩ :=
        ih s'
      refine ⟨type :: before, after, fault :: faults, s₁, _, rfl, by simp [hlength],
        .cons hattempt hfailed, ⟨_, run_queries_cons h hquery hbefore, by simp⟩, fun hn => ?_⟩
      obtain ⟨resources, s₂, more, hcomplete, _, hall, hasked⟩ := hafter hn
      exact ⟨resources, s₂, more, hcomplete, _, run_queries_cons h hquery hall, by simp [hasked]⟩

def pageOf (logicalId type : Text) : Value :=
  .dict [(.str "StackResourceSummaries", .list [.dict [(.str "LogicalResourceId", .str logicalId),
    (.str "ResourceType", .str type)]])]

/-- A cloud whose first listing breaks off after a page. -/
def firstBreaks : Handler Nat where
  answer listings
    | .openListing => (.ok (), listings)
    | .listStackResources _ =>
      (.ok (.page (pageOf "a" "t") (if listings = 0 then .broken .noFields else .last)),
        listings + 1)
    | _ => (.error .noFields, listings)

/-- What the first listing had shown is not answered with, and there is no third listing. -/
example :
    let run := ((cloudFormation .null none).queries ["t", "t", "u", "t"]).run firstBreaks 0
    let resource : StackResource := ⟨.str "a", .str "", .str "t"⟩
    run.outcome = .ok ([.error .noFields, .ok [resource], .ok [], .ok [resource]],
      .cloudFormation .null (some [resource])) ∧ run.state = 2 := ⟨rfl, rfl⟩

end StackDirectory

end CacheWiring
