import Handheld.Proofs.File
import Handheld.Proofs.Settings.Documents
import Handheld.Proofs.Toml.Format
import Handheld.Settings.Storage

/-! Saved settings, as they are loaded again. Main statement: in any faithful format, settings
whose integers a document can hold are saved and loaded again unchanged, but for parts that were
deleted in between, which have their defaults, and loading refuses them if they break a rule;
other settings are not saved, and the file keeps its contents.
-/

namespace Handheld

namespace Settings

open Document (Deletion)

-----------------------------------------------------------------------------------------
-- The rules
-----------------------------------------------------------------------------------------

/-- The settings that must not be zero, by their names and in the order of the checks. -/
def required (settings : Settings) : List (String × Nat) :=
  [("network.control_port", settings.network.controlPort.toNat),
    ("network.max_sessions", settings.network.maxSessions.toNat),
    ("network.heartbeat_timeout_secs", settings.network.heartbeatTimeoutSecs.toNat),
    ("network.idle_timeout_ms", settings.network.idleTimeoutMs.toNat),
    ("network.link_down_timeout_ms", settings.network.linkDownTimeoutMs.toNat),
    ("link.probe_interval_ms", settings.link.probeIntervalMs.toNat),
    ("status.interval_ms", settings.status.intervalMs.toNat)]

/-- The rule that a required setting breaks when it is zero. -/
def ruleOf (name : String) : String :=
  name ++ if name = "network.max_sessions" then " must be at least 1" else " must be nonzero"

/-- What checking settings comes to: the settings themselves, if no required one is zero, and
else a failure that names the first one that is.
-/
inductive Checked (settings : Settings) : Except Failure Settings → Prop
  | accepted (nonzero : ∀ field ∈ settings.required, field.2 ≠ 0)
      : Checked settings (.ok settings)
  | refused (before : List (String × Nat)) (name : String) (after : List (String × Nat))
      (split : settings.required = before ++ (name, 0) :: after)
      (nonzero : ∀ field ∈ before, field.2 ≠ 0)
      : Checked settings (.error (.invalidSettings (ruleOf name)))

/-- Each check is about one required setting. -/
theorem checks_eq (settings : Settings)
    : settings.checks = settings.required.map fun field => (field.2 == 0, ruleOf field.1) := by
  have zero16 (word : UInt16) : (word == 0) = (word.toNat == 0) :=
    Bool.eq_iff_iff.mpr (by simp [← UInt16.toNat_inj])
  have zero32 (word : UInt32) : (word == 0) = (word.toNat == 0) :=
    Bool.eq_iff_iff.mpr (by simp [← UInt32.toNat_inj])
  have zero64 (word : UInt64) : (word == 0) = (word.toNat == 0) :=
    Bool.eq_iff_iff.mpr (by simp [← UInt64.toNat_inj])
  simp only [checks, zero16, zero32, zero64]
  rfl

/-- The broken rule is that of the first required setting that is zero. -/
theorem brokenRule?_eq (settings : Settings)
    : settings.brokenRule?
      = (settings.required.find? fun field => field.2 == 0).map fun field => ruleOf field.1 := by
  rw [brokenRule?, checks_eq, List.find?_map, Option.map_map]
  rfl

/-- Settings are checked in the order of the rules, and the first broken one is named. -/
theorem validate_checked (settings : Settings) : Checked settings settings.validate := by
  rw [validate, brokenRule?_eq]
  cases found : settings.required.find? fun field => field.2 == 0 with
  | none =>
      have nonzero := List.find?_eq_none.mp found
      exact .accepted (by simpa using nonzero)
  | some field =>
      obtain ⟨zero, before, after, split, nonzero⟩ := List.find?_eq_some_iff_append.mp found
      obtain ⟨name, number⟩ := field
      obtain rfl : number = 0 := by simpa using zero
      exact .refused before name after split (by simpa using nonzero)

/-- Nothing else is what checking comes to. -/
theorem Checked.eq_validate {settings : Settings} {result : Except Failure Settings}
    (checked : Checked settings result)
    : result = settings.validate := by
  rw [validate, brokenRule?_eq]
  cases checked with
  | accepted nonzero =>
      rw [List.find?_eq_none.mpr (by simpa using nonzero)]
      rfl
  | refused before name after split nonzero =>
      rw [List.find?_eq_some_iff_append.mpr ⟨rfl, before, after, split, by simpa using nonzero⟩]
      rfl

-----------------------------------------------------------------------------------------
-- Saving and loading
-----------------------------------------------------------------------------------------

variable {format : Document.Format} {settings : Settings} {text : String}

/-- A text whose document holds settings is loaded as these, checked. -/
theorem load_checked {document : Document} (parsed : format.parse text = .ok document)
    (held : ofDocument document = .ok settings)
    : Checked settings (load format (.ofText text)) := by
  have loaded : load format (.ofText text) = settings.validate := by
    simp only [load, File.readText_ofText, parsed, ofDocumentChecked, held]
  exact loaded ▸ settings.validate_checked

/-- Settings with a text are saved as this text, unless a directory is in the way. -/
theorem save_of_print (printed : format.print settings.toDocument = .ok text) {file : File}
    (writable : file ≠ .directory)
    : settings.save format file = (.ok (), .ofText text) := by
  have written : file.writeText text = .ok (.ofText text) := by
    cases file with
    | absent => rfl
    | directory => exact absurd rfl writable
    | bytes content => rfl
  simp only [save, printed, written]

/-- How settings that are saved as a text survive: they are in the file as their document, they
are loaded from it as they are or refused, and after any deletion from the document the deleted
ones have their defaults, with the checks applied to the result.
-/
structure Survives (format : Document.Format) (settings : Settings) (text : String)
    : Prop where
  saved : ∀ file, file ≠ .directory → settings.save format file = (.ok (), .ofText text)
  parsed : format.parse text = .ok settings.toDocument
  loaded : Checked settings (load format (.ofText text))
  left : ∀ deletion : Deletion,
    ∃ edited, format.print (deletion.leaves settings.toDocument) = .ok edited
      ∧ format.parse edited = .ok (deletion.leaves settings.toDocument)
  defaulted : ∀ (deletion : Deletion) (edited : String),
    format.parse edited = .ok (deletion.leaves settings.toDocument)
    → Checked (settings.without deletion) (load format (.ofText edited))

/-- In a faithful format, settings survive saving if a document can hold their integers; others
are not saved, and the file keeps its contents.
-/
theorem saving_survives {format : Document.Format} (faithful : format.Faithful)
    (settings : Settings)
    : (settings.Fits → ∃ text, Survives format settings text)
      ∧ (¬settings.Fits
        → ∀ file, ∃ reason,
            settings.save format file = (.error (.unwritableSettings reason), file)) := by
  refine ⟨fun fits => ?_, fun beyond file => ?_⟩
  · have plain := toDocument_plain fits
    obtain ⟨text, printed, parsed⟩ := faithful.parse_print _ plain
    exact ⟨text,
      { saved := fun file writable => save_of_print printed writable
        parsed := parsed
        loaded := load_checked parsed (ofDocument_toDocument settings)
        left := fun deletion => faithful.parse_print _ (deletion.leaves_plain plain)
        defaulted := fun deletion edited left =>
          load_checked left (ofDocument_leaves settings deletion) }⟩
  · obtain ⟨reason, refused⟩ := faithful.refuses _ (mt fits_iff.mpr beyond)
    exact ⟨reason, by simp only [save, refused]⟩

/-- Settings that break a rule, with a scope in an address, and with quotes and a line feed in
a text.
-/
def silenced : Settings where
  network := { heartbeatTimeoutSecs := 0 }
  link := { probeAddress := .v6 ⟨#v[0xfe80, 0, 0, 0, 0, 0, 0, 1]⟩ 80 3 }
  input := { source := "a \"pad\"\n", randomSeed := 7 }

/-- Deletes the zero that breaks the rule, and a section. -/
def unsilencing : Deletion where
  parts part := part == "logging"
  keys part key := part == "network" && key == "heartbeat_timeout_secs"

theorem saving_survives_deleted_zero
    : Toml.format.Faithful
      ∧ silenced.Fits
      ∧ (∃ text, silenced.save Toml.format .absent = (.ok (), .ofText text)
        ∧ load Toml.format (.ofText text)
          = .error (.invalidSettings "network.heartbeat_timeout_secs must be nonzero"))
      ∧ silenced.without unsilencing = { silenced with network := {} }
      ∧ (∃ edited, Toml.parse edited = .ok (unsilencing.leaves silenced.toDocument)
        ∧ load Toml.format (.ofText edited) = .ok { silenced with network := {} })
      ∧ ¬Fits { input := { randomSeed := 0x8000000000000000 } }
      ∧ ∃ reason, save Toml.format { input := { randomSeed := 0x8000000000000000 } } (.bytes [1])
          = (.error (.unwritableSettings reason), .bytes [1]) := by
  have fits : silenced.Fits := by decide
  have beyond : ¬Fits { input := { randomSeed := 0x8000000000000000 } } := by decide
  have only : silenced.without unsilencing = { silenced with network := {} } := by decide
  obtain ⟨text, survives⟩ := (saving_survives Toml.format_faithful silenced).1 fits
  obtain ⟨edited, -, left⟩ := survives.left unsilencing
  have loaded := survives.defaulted unsilencing edited left
  rw [only] at loaded
  exact ⟨Toml.format_faithful, fits, ⟨text, survives.saved .absent (by decide),
    survives.loaded.eq_validate⟩, only, ⟨edited, left, loaded.eq_validate⟩, beyond,
    (saving_survives Toml.format_faithful _).2 beyond (.bytes [1])⟩

end Settings

end Handheld
