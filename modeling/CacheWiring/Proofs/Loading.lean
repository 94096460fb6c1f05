import CacheWiring.Configuration.File
import CacheWiring.Proofs.Construction
import CacheWiring.Proofs.Runs

namespace CacheWiring

/-- What the check of a document breaks off with, instead of telling its problems. -/
inductive BreaksOff (document : Value) : Fault → Prop
  /-- A version is looked up as a key, and a collection is none. -/
  | version {version : Value} (hversion : document.get? "apiVersion" = some version)
      (htruthy : version.truthy = true) (hkey : version.key? = none) :
      BreaksOff document .wrongType
  /-- Of the problems that cannot be written the first shows a value nested too deep. -/
  | depth (hversion : document.get? "apiVersion" = some (.str knownVersion))
      (hdeep : (Shape.document.problems [] document).findSome?
        (fun p => p.departure.unwritable?) = some .tooDeep) :
      BreaksOff document (.tooDeep .shown)

theorem unwritable?_scalar (s : Scalar) : (Value.scalar s).unwritable? ≠ some .tooDeep := by
  change s.unwritable? ≠ some .tooDeep
  unfold Scalar.unwritable?
  split
  · split <;> simp
  · simp

/-- An unknown version is reported, unless it is a collection. -/
theorem unknownVersion_cases (version : Value) :
    (version.key? = none ∧ unknownVersion version = .wrongType) ∨
      (version.key? ≠ none ∧ (unknownVersion version = .tooManyDigits none ∨
        unknownVersion version = .unsupportedVersion version)) := by
  unfold unknownVersion
  cases hkey : version.key? with
  | none => simp
  | some key =>
    obtain ⟨s, rfl⟩ : ∃ s, version = .scalar s := by
      cases version <;> simp [Value.key?] at hkey ⊢
    right
    cases hu : (Value.scalar s).unwritable? with
    | none => simp
    | some reason =>
      cases reason with
      | tooManyDigits => simp [Fault.ofUnwritable]
      | tooDeep => exact absurd hu (unwritable?_scalar s)

theorem problemLines_error_iff (document : Value) (problems : List Problem) (fault : Fault) :
    problemLines document problems = .error fault ↔
      ∃ reason, problems.findSome? (fun p => p.departure.unwritable?) = some reason ∧
        .ofUnwritable reason = fault := by
  unfold problemLines
  split
  · rename_i reason hr
    simp [hr]
  · rename_i hn
    simp [hn]

/-- Apart from breaking off a check can only fail in a way that is reported. -/
theorem checkDocument_error_cases {document : Value} {fault : Fault}
    (hc : checkDocument document = .error fault) :
    BreaksOff document fault ∨ fault = .tooManyDigits none ∨
      ∃ version, fault = .unsupportedVersion version := by
  unfold checkDocument at hc
  split at hc
  · cases hc
  · split at hc
    · cases hc
    · rename_i version hv
      split at hc
      · cases hc
      · rename_i ht
        have htruthy : version.truthy = true := by simpa using ht
        split at hc
        · rename_i hknown
          rw [Shape.isStr_iff] at hknown
          obtain ⟨reason, hr, rfl⟩ := (problemLines_error_iff _ _ _).mp hc
          cases reason with
          | tooManyDigits => exact .inr (.inl rfl)
          | tooDeep => exact .inl (.depth (hknown ▸ hv) hr)
        · cases hc
          rcases unknownVersion_cases version with ⟨hkey, he⟩ | ⟨-, he | he⟩
          · rw [he]
            exact .inl (.version hv htruthy hkey)
          · exact .inr (.inl he)
          · exact .inr (.inr ⟨version, he⟩)

/-- Breaking off is what the check comes to then. -/
theorem BreaksOff.checkDocument {document : Value} {fault : Fault}
    (hb : BreaksOff document fault) : checkDocument document = .error fault := by
  cases hb with
  | depth hv hd =>
    rw [checkDocument_known hv, problemLines_error_iff]
    exact ⟨.tooDeep, hd, rfl⟩
  | @version version hv ht hk =>
    obtain ⟨entries, he, -⟩ := Option.bind_eq_some_iff.mp hv
    have hunknown : version.isStr knownVersion = false := by
      cases version with
      | scalar s => cases hk
      | _ => rfl
    have hfault : unknownVersion version = .wrongType := by simp [unknownVersion, hk]
    simp [CacheWiring.checkDocument, he, hv, ht, hunknown, hfault]

theorem BreaksOff.ofChecked {document : Value} {fault : Fault} (hb : BreaksOff document fault)
    (path : Text) : Configuration.ofChecked path document = .error fault := by
  have hc := hb.checkDocument
  cases hb <;> simp [Configuration.ofChecked, hc]

/-- Any other outcome of the check but an empty list of problems stops the program. -/
theorem ofChecked_stops {document : Value} (hp : checkDocument document ≠ .ok [])
    (hb : ∀ fault, ¬ BreaksOff document fault) (path : Text) :
    ∃ reason, Configuration.ofChecked path document = .error (.stop reason) := by
  unfold Configuration.ofChecked
  cases hc : checkDocument document with
  | ok problems =>
    cases problems with
    | nil => exact absurd hc hp
    | cons problem rest => exact ⟨_, rfl⟩
  | error fault =>
    rcases checkDocument_error_cases hc with hbroken | rfl | ⟨version, rfl⟩
    · exact absurd hbroken (hb fault)
    · exact ⟨_, rfl⟩
    · exact ⟨_, rfl⟩

/-- A checked document comes to a configuration, a stop, or what its check broke off with. -/
theorem ofChecked_cases (path : Text) (document : Value) :
    (checkDocument document = .ok [] ∧ ∃ c, Configuration.ofDocument document = .ok c ∧
        c.Reflects document ∧ Configuration.ofChecked path document = .ok c) ∨
      (checkDocument document ≠ .ok [] ∧ (∀ fault, ¬ BreaksOff document fault) ∧
        ∃ reason, Configuration.ofChecked path document = .error (.stop reason)) ∨
      (∃ fault, BreaksOff document fault ∧
        Configuration.ofChecked path document = .error fault) := by
  by_cases hp : checkDocument document = .ok []
  · obtain ⟨c, hc, hreflects⟩ :=
      Configuration.ofDocument_document (document_of_checkDocument hp)
    exact .inl ⟨hp, c, hc, hreflects, by simp [Configuration.ofChecked, hp, hc]⟩
  · by_cases hb : ∃ fault, BreaksOff document fault
    · obtain ⟨fault, hbroken⟩ := hb
      exact .inr (.inr ⟨fault, hbroken, hbroken.ofChecked path⟩)
    · have hwhole : ∀ fault, ¬ BreaksOff document fault := fun fault hf => hb ⟨fault, hf⟩
      exact .inr (.inl ⟨hp, hwhole, ofChecked_stops hp hwhole path⟩)

variable {σ : Type}

/-- A file that is there and holds a document is checked. -/
theorem run_load (h : Handler σ) {path : Text} {s s₁ s₂ : σ} {bytes : ByteArray} {document : Value}
    (there : h.answer s (.pathExists path) = (.ok true, s₁))
    (content : h.answer s₁ (.fileBytes path) = (.ok bytes, s₂))
    (parsed : Yaml.read (.ofDecoded (Text.decode bytes)) = .ok document) :
    ((Configuration.load path).run h s).outcome = Configuration.ofChecked path document := by
  have hexists : (Text.fileExists path).run h s =
      ⟨.ok true, s₁, [.asked (.pathExists path) (.ok true)]⟩ := by
    have hrun := Program.run_request h (.pathExists path) s
    rw [there] at hrun
    exact hrun
  have hdecoded : (Text.readPartly path).run h s₁ =
      ⟨.ok (Text.decode bytes), s₂, [.asked (.fileBytes path) (.ok bytes)]⟩ := by
    have hrun := Program.run_request h (.fileBytes path) s₁
    rw [content] at hrun
    exact (Program.run_bind h (Program.request (.fileBytes path)) _ s₁).trans (by rw [hrun]; rfl)
  simp only [Configuration.load, Program.run_bind, hexists, Run.andThen_ok, Bool.not_true,
    Bool.false_eq_true, ↓reduceIte, hdecoded, Program.run_ofExcept, parsed]
  rfl

/-- Loading a file that holds a document gives its configuration exactly when the document has no
problems, and stops the program exactly when it has some and the check does not break off. Problems
that can be told are told, and what the check breaks off with is the outcome. -/
theorem load_outcome_iff (h : Handler σ) {path : Text} {s s₁ s₂ : σ} {bytes : ByteArray}
    {document : Value} (there : h.answer s (.pathExists path) = (.ok true, s₁))
    (content : h.answer s₁ (.fileBytes path) = (.ok bytes, s₂))
    (parsed : Yaml.read (.ofDecoded (Text.decode bytes)) = .ok document) :
    let outcome := ((Configuration.load path).run h s).outcome
    ((∃ c, outcome = .ok c) ↔ checkDocument document = .ok []) ∧
      (∀ c, outcome = .ok c → Configuration.ofDocument document = .ok c ∧ c.Reflects document) ∧
      ((∃ reason, outcome = .error (.stop reason)) ↔
        checkDocument document ≠ .ok [] ∧ ∀ fault, ¬ BreaksOff document fault) ∧
      (∀ problems, problems ≠ [] → checkDocument document = .ok problems →
        outcome = .error (.stop (.invalidConfiguration path problems))) ∧
      ∀ fault, BreaksOff document fault → outcome = .error fault := by
  intro outcome
  have hrun : outcome = Configuration.ofChecked path document := run_load h there content parsed
  have hreported : ∀ problems, problems ≠ [] → checkDocument document = .ok problems →
      outcome = .error (.stop (.invalidConfiguration path problems)) := by
    intro problems hn hc
    rw [hrun]
    unfold Configuration.ofChecked
    rw [hc]
    cases problems with
    | nil => exact absurd rfl hn
    | cons _ _ => rfl
  have hbroken : ∀ fault, BreaksOff document fault → outcome = .error fault :=
    fun fault hf => hrun.trans (hf.ofChecked path)
  rcases ofChecked_cases path document with
    ⟨hp, c, hc, hreflects, hout⟩ | ⟨hp, hwhole, reason, hout⟩ | ⟨fault, hf, hout⟩
  · rw [← hrun] at hout
    refine ⟨by simp [hout, hp], ?_, by simp [hout, hp], hreported, hbroken⟩
    intro c' hc'
    obtain rfl := Except.ok.inj (hout.symm.trans hc')
    exact ⟨hc, hreflects⟩
  · rw [← hrun] at hout
    refine ⟨by simp [hout, hp], by simp [hout], ?_, hreported, hbroken⟩
    exact ⟨fun _ => ⟨hp, hwhole⟩, fun _ => ⟨reason, hout⟩⟩
  · rw [← hrun] at hout
    have hp : checkDocument document ≠ .ok [] := by simp [hf.checkDocument]
    have hstop : ¬ ∃ reason, outcome = .error (.stop reason) := by
      intro hs
      obtain ⟨reason, hs⟩ := hs
      rw [hout] at hs
      cases hs
      cases hf
    refine ⟨by simp [hout, hp], by simp [hout], ⟨fun hs => absurd hs hstop, fun hs => ?_⟩,
      hreported, hbroken⟩
    exact absurd hf (hs.2 fault)

def Handler.holding (text : String) : Handler Unit where
  answer s
    | .pathExists _ => (.ok true, s)
    | .fileBytes _ => (.ok text.toUTF8, s)
    | _ => (.error .noFields, s)

/-- A document that lists the versions it is written for. -/
def listedVersion : String := "apiVersion: [elasticache-caching/v1]\n"

theorem listedVersion_breaks_off : ∃ document,
    Yaml.read (.ofDecoded (Text.decode listedVersion.toUTF8)) = .ok document ∧
      BreaksOff document .wrongType := by
  have hlisted : ((Yaml.read (.ofDecoded (Text.decode listedVersion.toUTF8))).toOption.any
      fun document => (document.get? "apiVersion").any fun version =>
        version.truthy && version.key?.isNone) = true := by decide +kernel
  cases hread : Yaml.read (.ofDecoded (Text.decode listedVersion.toUTF8)) with
  | error fault =>
    rw [hread] at hlisted
    cases hlisted
  | ok document =>
    rw [hread] at hlisted
    simp only [Except.toOption, Option.any_some, Option.any_eq_true, Bool.and_eq_true,
      Option.isNone_iff_eq_none] at hlisted
    obtain ⟨version, hv, ht, hk⟩ := hlisted
    exact ⟨document, rfl, .version hv ht hk⟩

theorem listed_version_is_no_stop : ∃ document,
    Yaml.read (.ofDecoded (Text.decode listedVersion.toUTF8)) = .ok document ∧
      BreaksOff document .wrongType ∧
      ((Configuration.load "web.yaml").run (.holding listedVersion) ()).outcome =
        .error .wrongType := by
  obtain ⟨document, hread, hbroken⟩ := listedVersion_breaks_off
  have hload := @load_outcome_iff _ (.holding listedVersion) "web.yaml" () () () _ document rfl rfl
    hread
  exact ⟨document, hread, hbroken, hload.2.2.2.2 _ hbroken⟩

/-- A file can end in neither a configuration nor a stop, although it holds a document. -/
theorem not_every_bad_file_stops :
    ¬ ∀ (h : Handler Unit) (path : Text) (bytes : ByteArray) (document : Value),
      h.answer () (.pathExists path) = (.ok true, ()) →
      h.answer () (.fileBytes path) = (.ok bytes, ()) →
      Yaml.read (.ofDecoded (Text.decode bytes)) = .ok document →
        (∃ c, ((Configuration.load path).run h ()).outcome = .ok c) ∨
          ∃ reason, ((Configuration.load path).run h ()).outcome = .error (.stop reason) := by
  intro hall
  obtain ⟨document, hread, hbroken⟩ := listedVersion_breaks_off
  have hload : ((Configuration.load "web.yaml").run (.holding listedVersion) ()).outcome = _ :=
    run_load (.holding listedVersion) rfl rfl hread
  rw [hbroken.ofChecked] at hload
  rcases hall (.holding listedVersion) "web.yaml" _ document rfl rfl hread with
    ⟨c, hc⟩ | ⟨reason, hr⟩
  · cases hload.symm.trans hc
  · cases hload.symm.trans hr

end CacheWiring
