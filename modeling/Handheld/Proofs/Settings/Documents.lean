import Handheld.Proofs.Address.RoundTrip
import Handheld.Proofs.Document
import Handheld.Settings.Document

/-! Documents of settings, with any parts deleted. Main statements: the document of settings is
plain if its integers are held, and from what is left of it the same settings are read, but for
the deleted ones, which have their defaults.
-/

namespace Handheld

namespace Settings

open Document (Bare Deletion Named Value)

-----------------------------------------------------------------------------------------
-- Single settings
-----------------------------------------------------------------------------------------

/-- A codec whose values are of a kind, and that reads what it writes. -/
structure Codec.Lawful {α : Type} (Kind : Value → Prop) (codec : Codec α) : Prop where
  read_write : ∀ name setting, codec.read name (codec.write setting) = .ok setting
  kind : ∀ setting, Kind (codec.write setting)

/-- A value that is plain if it is held. -/
def OnLine (value : Value) : Prop := value.Held → value.Plain

/-- A value that is a plain section if its entries are held. -/
def UnderHeader (value : Value) : Prop := value.EntriesHeld → value.PlainSection

theorem naturalOf_integer {most number : Nat} (small : number ≤ most) (name : String)
    : naturalOf most name (.integer number) = .ok number := by
  simp [naturalOf, small]

theorem number_lawful {α : Type} {toNat : α → Nat} {ofNat : Nat → α} {most : Nat}
    (small : ∀ word, toNat word ≤ most) (back : ∀ word, ofNat (toNat word) = word)
    : (Codec.number toNat ofNat most).Lawful OnLine where
  read_write name word := by
    simp [Codec.number, naturalOf_integer (small word), Except.map, back]
  kind word held := .natural (toNat word) held

theorem word16_lawful : Codec.word16.Lawful OnLine :=
  number_lawful (fun word => Nat.le_of_lt_succ word.toNat_lt) fun _ => UInt16.ofNat_toNat

theorem word32_lawful : Codec.word32.Lawful OnLine :=
  number_lawful (fun word => Nat.le_of_lt_succ word.toNat_lt) fun _ => UInt32.ofNat_toNat

theorem word64_lawful : Codec.word64.Lawful OnLine :=
  number_lawful (fun word => Nat.le_of_lt_succ word.toNat_lt) fun _ => UInt64.ofNat_toNat

theorem boolean_lawful : Codec.boolean.Lawful OnLine where
  read_write _ _ := rfl
  kind value _ := .boolean value

theorem text_lawful : Codec.text.Lawful OnLine where
  read_write _ _ := rfl
  kind text _ := .text text

theorem address_lawful {α : Type} {render : α → String} {read? : String → Option α}
    (back : ∀ address, read? (render address) = some address)
    : (Codec.address render read?).Lawful OnLine where
  read_write name address := by simp [Codec.address, textOf, back, bind, Except.bind]
  kind address _ := .text (render address)

-----------------------------------------------------------------------------------------
-- Tables
-----------------------------------------------------------------------------------------

/-- A setting, or its default if it is gone. -/
def kept {α : Type} (gone : Bool) (setting default : α) : α := if gone then default else setting

variable {ρ : Type} {table : Table ρ} {Kind : Value → Prop}

namespace Table

/-- The record with the given settings. -/
def fill (table : Table ρ) (setting : (field : Field ρ) → field.Setting) : ρ :=
  table.fields.foldl (fun record field => field.set (setting field) record) table.absent

/-- A record, but for deleted settings, which have their defaults. -/
def without (table : Table ρ) (deleted : String → Bool) (record : ρ) : ρ :=
  table.fill fun field =>
    kept (deleted field.name) (field.get record) (field.get table.absent)

/-- A table of lawful codecs under bare names, each of its own, that holds all settings of its
records.
-/
structure Lawful (Kind : Value → Prop) (table : Table ρ) : Prop where
  codecs : ∀ field ∈ table.fields, field.codec.Lawful Kind
  bare : ∀ name ∈ table.fields.map Field.name, Bare name
  distinct : (table.fields.map Field.name).Nodup
  complete : ∀ record, table.fill (fun field => field.get record) = record

theorem readFields_eq {values : Section} {absent : ρ} {fields : List (Field ρ)}
    {setting : (field : Field ρ) → field.Setting}
    (reads : ∀ field ∈ fields, ∀ place, field.read values place absent = .ok (setting field))
    (place : Nat) (record : ρ)
    : readFields values absent place fields record
      = .ok (fields.foldl (fun record field => field.set (setting field) record) record) := by
  induction fields generalizing place record with
  | nil => rfl
  | cons field fields ih =>
      rw [readFields, reads field (by simp) place]
      exact ih (fun other member => reads other (by simp [member])) (place + 1) _

/-- A section is read setting by setting. -/
theorem ofSection_eq {values : Section} {setting : (field : Field ρ) → field.Setting}
    (reads : ∀ field ∈ table.fields, ∀ place,
      field.read values place table.absent = .ok (setting field))
    : table.ofSection values = .ok (table.fill setting) :=
  readFields_eq reads 0 table.absent

namespace Lawful

/-- The entries of a record stand under the names of its settings. -/
theorem named (lawful : table.Lawful Kind) (record : ρ) : Named Kind (table.entries record) := by
  have names : (table.entries record).map Prod.fst = table.fields.map Field.name := by
    rw [entries, List.map_map]
    rfl
  refine ⟨names ▸ lawful.bare, names ▸ lawful.distinct, fun entry member => ?_⟩
  obtain ⟨field, there, rfl⟩ := List.mem_map.mp member
  exact (lawful.codecs field there).kind _

theorem get?_entries (lawful : table.Lawful Kind) (record : ρ) {field : Field ρ}
    (member : field ∈ table.fields)
    : (table.entries record).get? field.name
      = some (field.codec.write (field.get record)) :=
  Document.get?_of_mem (lawful.named record).distinct (List.mem_map.mpr ⟨field, member, rfl⟩)

/-- From what is left of its entries, a record is read with the deleted settings at their
defaults.
-/
theorem ofSection_filter (lawful : table.Lawful Kind) (record : ρ) (deleted : String → Bool)
    : table.ofSection (.named ((table.entries record).filter fun entry => !deleted entry.1))
      = .ok (table.without deleted record) := by
  refine ofSection_eq fun field member place => ?_
  rw [Field.read, Section.get?, Document.get?_filter, lawful.get?_entries record member]
  cases deleted field.name with
  | true => rfl
  | false => exact (lawful.codecs field member).read_write _ _

/-- From all its entries, a record is read as it is. -/
theorem ofSection_entries (lawful : table.Lawful Kind) (record : ρ)
    : table.ofSection (.named (table.entries record)) = .ok record := by
  have all := lawful.ofSection_filter record fun _ => false
  have kept : (table.entries record).filter (fun _ => !false) = table.entries record :=
    List.filter_true _
  have same : table.without (fun _ => false) record = record := lawful.complete record
  rwa [kept, same] at all

end Lawful

/-- Whole sections have a lawful codec. -/
theorem Lawful.codec (lawful : table.Lawful OnLine) : table.codec.Lawful UnderHeader where
  read_write _ := lawful.ofSection_entries
  kind record held :=
    .table ((lawful.named record).imp fun entry member onLine => onLine (held entry member))

end Table

theorem Network.table_lawful : Network.table.Lawful OnLine where
  codecs := by
    simp only [Network.table, List.forall_mem_cons]
    exact ⟨address_lawful IpAddress.ofText?_render, word16_lawful, word64_lawful,
      word32_lawful, word64_lawful, word64_lawful, word64_lawful, by simp⟩
  bare := by decide
  distinct := by decide
  complete _ := rfl

theorem Link.table_lawful : Link.table.Lawful OnLine where
  codecs := by
    simp only [Link.table, List.forall_mem_cons]
    exact ⟨boolean_lawful, address_lawful SocketAddress.ofText?_render, word64_lawful, by simp⟩
  bare := by decide
  distinct := by decide
  complete _ := rfl

theorem Input.table_lawful : Input.table.Lawful OnLine where
  codecs := by
    simp only [Input.table, List.forall_mem_cons]
    exact ⟨text_lawful, word64_lawful, by simp⟩
  bare := by decide
  distinct := by decide
  complete _ := rfl

theorem StatusSource.table_lawful : StatusSource.table.Lawful OnLine where
  codecs := by
    simp only [StatusSource.table, List.forall_mem_cons]
    exact ⟨text_lawful, word64_lawful, by simp⟩
  bare := by decide
  distinct := by decide
  complete _ := rfl

theorem Logging.table_lawful : Logging.table.Lawful OnLine where
  codecs := by
    simp only [Logging.table, List.forall_mem_cons]
    exact ⟨text_lawful, by simp⟩
  bare := by decide
  distinct := by decide
  complete _ := rfl

-----------------------------------------------------------------------------------------
-- Whole documents
-----------------------------------------------------------------------------------------

theorem table_lawful : Settings.table.Lawful UnderHeader where
  codecs := by
    simp only [Settings.table, List.forall_mem_cons]
    exact ⟨Network.table_lawful.codec, Link.table_lawful.codec, Input.table_lawful.codec,
      StatusSource.table_lawful.codec, Logging.table_lawful.codec, by simp⟩
  bare := by decide
  distinct := by decide
  complete _ := rfl

/-- All integers among settings. -/
def numbers (settings : Settings) : List Nat :=
  [settings.network.controlPort.toNat, settings.network.maxSessions.toNat,
    settings.network.heartbeatTimeoutSecs.toNat, settings.network.idleTimeoutMs.toNat,
    settings.network.linkDownTimeoutMs.toNat, settings.network.rebindRetryMs.toNat,
    settings.link.probeIntervalMs.toNat, settings.input.randomSeed.toNat,
    settings.status.intervalMs.toNat]

/-- A document can hold all integers of settings: they are at most 2 ^ 63 - 1. -/
def Fits (settings : Settings) : Prop :=
  ∀ number ∈ settings.numbers, number ≤ 9223372036854775807

instance (settings : Settings) : Decidable settings.Fits :=
  List.decidableBAll _ settings.numbers

/-- The integers of settings are those of their document. -/
theorem fits_iff {settings : Settings} : settings.Fits ↔ settings.toDocument.Held := by
  have held (number : Nat) : Value.Held (.integer number) ↔ number ≤ 9223372036854775807 := by
    simp only [Value.Held, Document.greatestInteger]
    omega
  have text (text : String) : Value.Held (.text text) ↔ True := Iff.rfl
  have boolean (value : Bool) : Value.Held (.boolean value) ↔ True := Iff.rfl
  simp only [Fits, numbers, Document.Held, Value.EntriesHeld, toDocument, Table.entries,
    Settings.table, Network.table, Link.table, Input.table, StatusSource.table, Logging.table,
    Table.codec, Codec.word16, Codec.word32, Codec.word64, Codec.number, Codec.boolean,
    Codec.text, Codec.address, Value.entries, List.map_cons, List.map_nil,
    List.forall_mem_cons, List.not_mem_nil, false_implies, implies_true, held, text, boolean,
    true_and, and_true, and_assoc]

/-- The document of settings that fit is plain. -/
theorem toDocument_plain {settings : Settings} (fits : settings.Fits)
    : settings.toDocument.Plain :=
  (table_lawful.named settings).imp fun part member underHeader =>
    underHeader (fits_iff.mp fits part member)

/-- The settings, but for deleted ones, which have their defaults. They are spelled out key by
key, apart from the tables by which documents are read and written.
-/
def without (settings : Settings) (deletion : Deletion) : Settings where
  network :=
    let gone := deletion.keys "network"
    let given := settings.network
    let absent : Network := {}
    let left : Network := {
      bindAddress := kept (gone "bind_address") given.bindAddress absent.bindAddress
      controlPort := kept (gone "control_port") given.controlPort absent.controlPort
      maxSessions := kept (gone "max_sessions") given.maxSessions absent.maxSessions
      heartbeatTimeoutSecs :=
        kept (gone "heartbeat_timeout_secs") given.heartbeatTimeoutSecs
          absent.heartbeatTimeoutSecs
      idleTimeoutMs := kept (gone "idle_timeout_ms") given.idleTimeoutMs absent.idleTimeoutMs
      linkDownTimeoutMs :=
        kept (gone "link_down_timeout_ms") given.linkDownTimeoutMs
          absent.linkDownTimeoutMs
      rebindRetryMs := kept (gone "rebind_retry_ms") given.rebindRetryMs absent.rebindRetryMs
    }
    kept (deletion.parts "network") left absent
  link :=
    let gone := deletion.keys "link"
    let given := settings.link
    let absent : Link := {}
    let left : Link := {
      probeEnabled := kept (gone "probe_enabled") given.probeEnabled absent.probeEnabled
      probeAddress := kept (gone "probe_address") given.probeAddress absent.probeAddress
      probeIntervalMs :=
        kept (gone "probe_interval_ms") given.probeIntervalMs
          absent.probeIntervalMs
    }
    kept (deletion.parts "link") left absent
  input :=
    let gone := deletion.keys "input"
    let given := settings.input
    let absent : Input := {}
    let left : Input := {
      source := kept (gone "source") given.source absent.source
      randomSeed := kept (gone "random_seed") given.randomSeed absent.randomSeed
    }
    kept (deletion.parts "input") left absent
  status :=
    let gone := deletion.keys "status"
    let given := settings.status
    let absent : StatusSource := {}
    let left : StatusSource := {
      source := kept (gone "source") given.source absent.source
      intervalMs := kept (gone "interval_ms") given.intervalMs absent.intervalMs
    }
    kept (deletion.parts "status") left absent
  logging :=
    let gone := deletion.keys "logging"
    let given := settings.logging
    let absent : Logging := {}
    let left : Logging := {
      level := kept (gone "level") given.level absent.level
    }
    kept (deletion.parts "logging") left absent

/-- A deleted section has its defaults, and another one is read from what is left of it. -/
theorem read_leaves (settings : Settings) (deletion : Deletion) {field : Field Settings}
    {part : Table field.Setting} (member : field ∈ Settings.table.fields)
    (whole : field.codec = part.codec) (lawful : part.Lawful OnLine) (place : Nat)
    : field.read (.named (deletion.leaves settings.toDocument)) place Settings.table.absent
      = .ok (kept (deletion.parts field.name)
          (part.without (deletion.keys field.name) (field.get settings))
          (field.get Settings.table.absent)) := by
  rw [Field.read, Section.get?, Deletion.get?_leaves, toDocument,
    table_lawful.get?_entries settings member, whole]
  cases deletion.parts field.name with
  | true => rfl
  | false => exact lawful.ofSection_filter (field.get settings) (deletion.keys field.name)

/-- From what a deletion leaves of a document, the settings are read with the deleted ones at
their defaults.
-/
theorem ofDocument_leaves (settings : Settings) (deletion : Deletion)
    : ofDocument (deletion.leaves settings.toDocument) = .ok (settings.without deletion) := by
  have reads : ∀ field ∈ Settings.table.fields, ∀ place,
      field.read (.named (deletion.leaves settings.toDocument)) place Settings.table.absent
        = .ok (field.get (settings.without deletion)) := by
    intro field listed
    have fields := listed
    simp only [Settings.table, List.mem_cons, List.not_mem_nil, or_false] at fields
    -- What is spelled out for a section is what its table leaves, by definition.
    rcases fields with rfl | rfl | rfl | rfl | rfl
    · exact read_leaves settings deletion listed rfl Network.table_lawful
    · exact read_leaves settings deletion listed rfl Link.table_lawful
    · exact read_leaves settings deletion listed rfl Input.table_lawful
    · exact read_leaves settings deletion listed rfl StatusSource.table_lawful
    · exact read_leaves settings deletion listed rfl Logging.table_lawful
  rw [ofDocument, Table.ofSection_eq reads, table_lawful.complete]

/-- From the whole document, the settings are read as they are. -/
theorem ofDocument_toDocument (settings : Settings)
    : ofDocument settings.toDocument = .ok settings :=
  table_lawful.ofSection_entries settings

end Settings

end Handheld
