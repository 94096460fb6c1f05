import CacheWiring.Proofs.Construction
import CacheWiring.Proofs.DeclaredClusters

namespace CacheWiring

variable {σ α β : Type}

def Fault.OfJson : Fault → Prop
  | .notJson | .notInteger .. | .tooManyDigits _ | .tooDeep _ => True
  | _ => False

namespace Json

theorem string_fails (fuel : Nat) (cs : List Char) : FailsAs Fault.OfJson (string fuel cs) := by
  unfold string
  cases string? fuel [] cs with
  | none => exact .error trivial
  | some found => exact .ok found

theorem integer_fails (negative : Bool) (digits : List Char) :
    FailsAs Fault.OfJson (integer negative digits) := by
  unfold integer
  apply FailsAs.bind
  · cases Numeral.magnitude 10 digits with
    | ok n => exact .ok n
    | error e => cases e <;> exact .error trivial
  · intro n
    exact .ok _

theorem number_fails (cs : List Char) : FailsAs Fault.OfJson (number cs) := by
  unfold number
  dsimp only
  apply FailsAs.ite
  · exact .error trivial
  · -- only an integer can fail from here on, be it signed or not
    repeat' split
    all_goals first
      | exact (integer_fails _ _).bind fun _ => .ok _
      | exact .ok _

theorem deeper_fails (room : Nat) (kind : Nesting) :
    FailsAs Fault.OfJson (deeper room kind) := by
  cases room with
  | zero => exact .error trivial
  | succ room => exact .ok room

/-- By induction on the fuel, for values together with what stands inside arrays and objects. -/
theorem value_fails (fuel : Nat) :
    (∀ room cs, FailsAs Fault.OfJson (value fuel room cs)) ∧
      (∀ room done cs, FailsAs Fault.OfJson (items fuel room done cs)) ∧
      ∀ room done cs, FailsAs Fault.OfJson (entries fuel room done cs) := by
  induction fuel with
  | zero =>
    exact ⟨fun _ _ => .error trivial, fun _ _ _ => .error trivial, fun _ _ _ => .error trivial⟩
  | succ fuel ih =>
    obtain ⟨hvalue, hitems, hentries⟩ := ih
    refine ⟨fun room cs => ?_, fun room done cs => ?_, fun room done cs => ?_⟩
    · unfold value
      split
      · exact (string_fails _ _).bind fun _ => .ok _
      · apply (deeper_fails _ _).bind
        intro room
        split
        · exact .ok _
        · exact (hitems _ _ _).bind fun _ => .ok _
      · apply (deeper_fails _ _).bind
        intro room
        split
        · exact .ok _
        · exact (hentries _ _ _).bind fun _ => .ok _
      · split
        · exact .ok _
        · exact number_fails _
    · unfold items
      apply (hvalue _ _).bind
      intro found
      dsimp only
      split
      · exact .ok _
      · exact hitems _ _ _
      · exact .error trivial
    · unfold entries
      dsimp only
      split
      · apply (string_fails _ _).bind
        intro key
        split
        · refine FailsAs.bind (.ok _) fun rest => ?_
          apply (hvalue _ _).bind
          intro found
          split
          · exact .ok _
          · exact hentries _ _ _
          · exact .error trivial
        · exact .error trivial
      · exact .error trivial

theorem read_fails (text : String) : FailsAs Fault.OfJson (read text) := by
  unfold read
  apply ((value_fails _).1 _ _).bind
  intro found
  dsimp only
  split
  · exact .ok _
  · exact .error trivial

end Json

def Fault.OfValue : Fault → Prop
  | .noFields | .wrongType => True
  | _ => False

theorem fieldOr_fails (v : Value) (name : Text) (fallback : Value) :
    FailsAs Fault.OfValue (v.fieldOr name fallback) := by
  unfold Value.fieldOr Value.field?
  split
  · exact .ok _
  · exact .error trivial

theorem members_fails (v : Value) : FailsAs Fault.OfValue v.members := by
  unfold Value.members
  split
  all_goals first
    | exact .ok _
    | exact .error trivial

namespace StackDirectory

theorem exported_fails (entry : Value) : FailsAs Fault.OfValue (exported entry) := by
  apply (fieldOr_fails entry "urn" .null).bind
  intro urn
  apply FailsAs.ite
  · exact .ok _
  · have hnamed (name : Text) : FailsAs Fault.OfValue (do
        let physicalId ← entry.fieldOr "id" (.str "")
        let type ← entry.fieldOr "type" (.str "")
        return some (StackResource.mk (.str name) physicalId type)) :=
      (fieldOr_fails _ _ _).bind fun _ => (fieldOr_fails _ _ _).bind fun _ => .ok _
    dsimp only
    split
    · exact hnamed _
    · exact .error trivial

theorem ofDeployment_fails (deployment : Value) :
    FailsAs Fault.OfValue (ofDeployment deployment) := by
  apply FailsAs.map
  apply (fieldOr_fails deployment "deployment" deployment).bind
  intro inner
  apply (fieldOr_fails inner "resources" .null).bind
  intro resources
  apply (members_fails _).bind
  intro entries
  exact (FailsAs.mapM exported_fails entries).bind fun _ => .ok _

end StackDirectory

/-- A fault that is not about the stack section. -/
def Fault.SparesSection : Fault → Prop
  | .unknownProvider _ | .stop .projectRequired => False
  | _ => True

theorem Fault.OfJson.spares (fault : Fault) (hf : fault.OfJson) : fault.SparesSection := by
  cases fault with
  | unknownProvider provider => exact hf.elim
  | stop reason => exact hf.elim
  | _ => trivial

theorem Fault.OfValue.spares (fault : Fault) (hf : fault.OfValue) : fault.SparesSection := by
  cases fault with
  | unknownProvider provider => exact hf.elim
  | stop reason => exact hf.elim
  | _ => trivial

/-- Services and files that hold stacks have faults of their own. -/
def Handler.SparesSections (h : Handler σ) : Prop :=
  ∀ s r, r.OfStack → FailsAs Fault.SparesSection (h.answer s r).1

/-- However a program is run, it does not end with a fault about the stack section. -/
def Program.Spares (h : Handler σ) (p : Program α) : Prop :=
  ∀ s, FailsAs Fault.SparesSection (p.run h s).outcome

namespace Program.Spares

variable {h : Handler σ}

theorem bind {p : Program α} {f : α → Program β} (hp : p.Spares h) (hf : ∀ a, (f a).Spares h) :
    (p >>= f).Spares h := by
  intro s fault he
  rw [Program.run_bind] at he
  rcases Run.andThen_outcome_error.mp he with hfirst | ⟨a, -, hnext⟩
  · exact hp s fault hfirst
  · exact hf a _ fault hnext

theorem ofExcept {outcome : Except Fault α} (ho : FailsAs Fault.SparesSection outcome) :
    (Program.ofExcept outcome).Spares h := fun _ => ho

theorem request (spares : h.SparesSections) {r : Request} (hr : r.OfStack) :
    (Program.request r).Spares h := fun s => spares s r hr

end Program.Spares

namespace StackDirectory

variable {h : Handler σ} (spares : h.SparesSections)

include spares

theorem forRegion_spares (stack region : Value) : (forRegion stack region).Spares h :=
  (Program.Spares.request spares (by trivial)).bind fun _ => .ofExcept (.ok _)

theorem ofLiveStack_spares (stack project : Value) : (ofLiveStack stack project).Spares h :=
  (Program.Spares.request spares (by trivial)).bind fun deployment =>
    .ofExcept ((ofDeployment_fails deployment).mono Fault.OfValue.spares)

theorem readText_spares (path : Text) : (Text.readText path).Spares h := by
  have hread : (Text.readPartly path).Spares h :=
    (Program.Spares.request spares (by trivial)).bind fun _ => .ofExcept (.ok _)
  apply hread.bind
  intro decoded
  split
  · exact .ofExcept (.ok _)
  · exact .ofExcept (.error trivial)

/-- A file that is missing, or holds something else than an export, is reported as such. -/
theorem ofExportFile_spares (path : Text) : (ofExportFile path).Spares h := by
  have hexists : (Text.fileExists path).Spares h := .request spares trivial
  apply hexists.bind
  intro there
  split
  · exact .ofExcept (.error trivial)
  · apply (readText_spares spares path).bind
    intro text
    apply Program.Spares.ofExcept
    exact ((Json.read_fails text).mono Fault.OfJson.spares).bind fun deployment =>
      (ofDeployment_fails deployment).mono Fault.OfValue.spares

end StackDirectory

/-- A stack section for a live Pulumi stack, in which no project is named. An empty text names
neither an export file nor a project. -/
structure Grammar.LacksProject (entry : Value) : Prop where
  provider : entry.get? "provider" = some (.str "pulumi")
  exportFile : entry.May "exportFile" fun file => file = .str []
  project : entry.May "project" fun project => project = .str []

theorem Value.May.truthy_iff {v : Value} {name : String} (hv : v.May name Value.IsText)
    {fallback : Value} (hf : fallback.truthy = false) :
    ((v.get? name).getD fallback).truthy = false ↔ v.May name fun field => field = .str [] := by
  unfold Value.May at hv ⊢
  cases hfield : v.get? name with
  | none => simp [hf]
  | some field =>
    obtain ⟨text, rfl⟩ := hv field hfield
    cases text <;> simp [Value.truthy, Value.opened]

/-- A field that counts as true is there, then. -/
theorem Value.May.text_of_truthy {v : Value} {name : String} (hv : v.May name Value.IsText)
    {fallback : Value} (hf : fallback.truthy = false)
    (ht : ((v.get? name).getD fallback).truthy = true) :
    ∃ text, (v.get? name).getD fallback = .str text := by
  cases hfield : v.get? name with
  | none =>
    rw [hfield] at ht
    cases hf.symm.trans ht
  | some field => exact hv field hfield

theorem provider_of_section {entry : Value} (hs : Grammar.StackSection entry)
    {settings : StackSettings} (hr : settings.Reflects entry) :
    (settings.provider = .str "cloudformation" ∧ entry.get? "provider" ≠ some (.str "pulumi")) ∨
      (settings.provider = .str "pulumi" ∧ entry.get? "provider" = some (.str "pulumi")) := by
  have hprovider := hr.provider
  cases hfield : entry.get? "provider" with
  | none =>
    rw [hfield] at hprovider
    exact .inl ⟨hprovider, by simp⟩
  | some field =>
    rw [hfield] at hprovider
    rcases hs.provider field hfield with rfl | rfl
    · refine .inl ⟨hprovider, fun he => ?_⟩
      have htexts := Scalar.str.inj (Value.scalar.inj (Option.some.inj he))
      exact absurd htexts (by decide)
    · exact .inr ⟨hprovider, rfl⟩

/-- What a grammatical section comes to: a directory of one of three kinds, unless a project is
missing. -/
theorem ofSettings_cases {entry : Value} (hs : Grammar.StackSection entry)
    {settings : StackSettings} (hr : settings.Reflects entry) (region : Value) :
    (Grammar.LacksProject entry ∧ StackDirectory.ofSettings settings region =
        Program.fail (.stop .projectRequired)) ∨
      (¬ Grammar.LacksProject entry ∧
        (StackDirectory.ofSettings settings region =
            StackDirectory.forRegion settings.name region ∨
          (∃ path, StackDirectory.ofSettings settings region =
            StackDirectory.ofExportFile path) ∨
          StackDirectory.ofSettings settings region =
            StackDirectory.ofLiveStack settings.name settings.project)) := by
  have hfile := @Value.May.truthy_iff entry "exportFile" hs.exportFile .null rfl
  have hpath := @Value.May.text_of_truthy entry "exportFile" hs.exportFile .null rfl
  have hproject := @Value.May.truthy_iff entry "project" hs.project (.str "") rfl
  rw [← hr.exportFile] at hfile hpath
  rw [← hr.project] at hproject
  unfold StackDirectory.ofSettings
  rcases provider_of_section hs hr with ⟨hp, hother⟩ | ⟨hp, hpulumi⟩
  · rw [hp]
    right
    exact ⟨fun hl => hother hl.provider, .inl rfl⟩
  · have hcloud : settings.provider.isStr "cloudformation" = false := by
      rw [hp]
      decide
    have hown : settings.provider.isStr "pulumi" = true := by
      rw [hp]
      decide
    simp only [hcloud, hown, Bool.false_eq_true, ↓reduceIte]
    cases hf : settings.exportFile.truthy with
    | true =>
      right
      obtain ⟨path, he⟩ := hpath hf
      refine ⟨fun hl => ?_, .inr (.inl ⟨path, ?_⟩)⟩
      · cases hf.symm.trans (hfile.mpr hl.exportFile)
      · rw [he]
        rfl
    | false =>
      cases ht : settings.project.truthy with
      | true =>
        right
        refine ⟨fun hl => ?_, .inr (.inr rfl)⟩
        cases ht.symm.trans (hproject.mpr hl.project)
      | false => exact .inl ⟨⟨hpulumi, hfile.mp hf, hproject.mp ht⟩, rfl⟩

/-- The stack section of an accepted document is grammatical, and the configuration has it. -/
theorem stack_of_accepted {document entry : Value} (accepted : checkDocument document = .ok [])
    (hstack : document.at? ["spec", "stack"] = some entry) :
    ∃ c settings, Configuration.ofDocument document = .ok c ∧ c.stack = some settings ∧
      Grammar.StackSection entry ∧ settings.Reflects entry := by
  obtain ⟨c, hc, hreflects⟩ := configuration_of_accepted document accepted
  obtain ⟨spec, hspec, hs⟩ := (document_of_checkDocument accepted).specification
  have hsection : spec.get? "stack" = some entry := by
    simpa [Value.at?, hspec] using hstack
  have hsettings := hreflects.stack
  rw [hstack] at hsettings
  cases hcs : c.stack with
  | none =>
    rw [hcs] at hsettings
    cases hsettings
  | some settings =>
    rw [hcs] at hsettings
    cases hsettings with
    | some hr => exact ⟨c, settings, hc, hcs, hs.stack entry hsection, hr⟩

/-- The stack section of an accepted document is never refused for its provider. It is refused for
want of a project exactly when it lacks one, and then before anything is asked for. -/
theorem accepted_stack_refused_iff (h : Handler σ) (spares : h.SparesSections)
    (document entry : Value) (accepted : checkDocument document = .ok [])
    (hstack : document.at? ["spec", "stack"] = some entry) (s : σ) :
    ∃ c settings, Configuration.ofDocument document = .ok c ∧ c.stack = some settings ∧
      let run := (StackDirectory.ofSettings settings c.region).run h s
      (∀ provider, run.outcome ≠ .error (.unknownProvider provider)) ∧
      (run.outcome = .error (.stop .projectRequired) ↔ Grammar.LacksProject entry) ∧
      (Grammar.LacksProject entry → run.trace = []) := by
  obtain ⟨c, settings, hc, hcs, hs, hr⟩ := stack_of_accepted accepted hstack
  refine ⟨c, settings, hc, hcs, ?_⟩
  intro run
  rcases ofSettings_cases hs hr c.region with ⟨hlacks, hp⟩ | ⟨hnot, hkind⟩
  · have hrun : run = ⟨.error (.stop .projectRequired), s, []⟩ :=
      congrArg (fun directory => directory.run h s) hp
    rw [hrun]
    exact ⟨fun provider he => (nomatch he), ⟨fun _ => hlacks, fun _ => rfl⟩, fun _ => rfl⟩
  · have hspares : (StackDirectory.ofSettings settings c.region).Spares h := by
      rcases hkind with hp | ⟨path, hp⟩ | hp
      · rw [hp]
        exact StackDirectory.forRegion_spares spares _ _
      · rw [hp]
        exact StackDirectory.ofExportFile_spares spares path
      · rw [hp]
        exact StackDirectory.ofLiveStack_spares spares _ _
    refine ⟨fun provider he => hspares s _ he, ⟨fun he => (hspares s _ he).elim, ?_⟩, ?_⟩
    · intro hlacks
      exact absurd hlacks hnot
    · intro hlacks
      exact absurd hlacks hnot

def pulumiSection (project : List (Scalar × Value)) : Value :=
  .dict ([(.str "provider", .str "pulumi"), (.str "name", .str "dev")] ++ project)

def pulumiDocument (project : List (Scalar × Value)) : Value :=
  .dict [
    (.str "apiVersion", .str "elasticache-caching/v1"),
    (.str "kind", .str "CacheConfiguration"),
    (.str "spec", .dict [(.str "stack", pulumiSection project)])]

/-- Every live stack has been deployed without resources. -/
def emptyDeployments : Handler Unit where
  answer s
    | .selectStack _ _ => (.ok (.dict [(.str "resources", .list [])]), s)
    | _ => (.error .noFields, s)

theorem emptyDeployments_spares : emptyDeployments.SparesSections := by
  intro s r hr
  cases r with
  | selectStack stack project => exact .ok _
  | _ => exact .error trivial

/-- With a project there is nothing to refuse. -/
theorem named_project_suffices :
    let document := pulumiDocument [(.str "project", .str "app")]
    checkDocument document = .ok [] ∧
      ¬ Grammar.LacksProject (pulumiSection [(.str "project", .str "app")]) ∧
      ∃ c settings, Configuration.ofDocument document = .ok c ∧ c.stack = some settings ∧
        ((StackDirectory.ofSettings settings c.region).run emptyDeployments ()).outcome =
          .ok (.pulumi []) := by
  intro document
  have accepted : checkDocument document = .ok [] :=
    checkDocument_of_problems rfl (by decide +kernel)
  obtain ⟨c, settings, hc, hcs, -, hrefused, -⟩ := accepted_stack_refused_iff emptyDeployments
    emptyDeployments_spares document (pulumiSection [(.str "project", .str "app")]) accepted rfl ()
  cases hc
  cases hcs
  refine ⟨accepted, fun hlacks => ?_, _, _, rfl, rfl, rfl⟩
  cases hrefused.mpr hlacks

/-- Not every accepted stack section can be used: this one lacks a project. -/
theorem not_every_accepted_stack_is_usable :
    ¬ ∀ (h : Handler Unit) (document : Value) (c : Configuration) (settings : StackSettings),
      h.SparesSections → checkDocument document = .ok [] →
        Configuration.ofDocument document = .ok c → c.clusters = [] → c.stack = some settings →
          FailsAs Fault.SparesSection
            ((StackDirectory.ofSettings settings c.region).run h ()).outcome := by
  intro hall
  have accepted : checkDocument (pulumiDocument []) = .ok [] :=
    checkDocument_of_problems rfl (by decide +kernel)
  have husable := hall emptyDeployments (pulumiDocument []) _ _ emptyDeployments_spares accepted rfl
    rfl rfl
  exact husable (.stop .projectRequired) rfl

end CacheWiring
