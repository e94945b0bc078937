import Handheld.Address.Reading
import Handheld.Address.Rendering
import Handheld.Document
import Handheld.Settings.Basic

/-! Settings as a document: a table of the names of each section tells how each setting is read
and written. What a document does not name keeps its default, what it names beyond the settings
is ignored, and a section may also be a list of its values in order.
-/

namespace Handheld

namespace Settings

/-- Why a document holds no settings: the value under a name cannot be that setting. -/
inductive Misfit
  | wrongType (name : String)
  | outOfRange (name : String)
  | notAnAddress (name : String)
  deriving DecidableEq, Inhabited

def Misfit.message : Misfit → String
  | wrongType name => "invalid type for " ++ name
  | outOfRange name => "value out of range for " ++ name
  | notAnAddress name => "invalid address for " ++ name

-----------------------------------------------------------------------------------------
-- Single settings
-----------------------------------------------------------------------------------------

/-- How a setting of a type is written as a value, and read from one under a name. -/
structure Codec (α : Type) where
  write : α → Document.Value
  read : (name : String) → Document.Value → Except Misfit α

/-- A whole number that is at most `most`. -/
def naturalOf (most : Nat) (name : String) : Document.Value → Except Misfit Nat
  | .integer number =>
      if 0 ≤ number ∧ number ≤ most then .ok number.toNat else .error (.outOfRange name)
  | _ => .error (.wrongType name)

/-- Words as the numbers that they hold. -/
def Codec.number {α : Type} (toNat : α → Nat) (ofNat : Nat → α) (most : Nat) : Codec α where
  write word := .integer (toNat word)
  read name value := (naturalOf most name value).map ofNat

def Codec.word16 : Codec UInt16 := .number UInt16.toNat UInt16.ofNat 65535

def Codec.word32 : Codec UInt32 := .number UInt32.toNat UInt32.ofNat 4294967295

def Codec.word64 : Codec UInt64 := .number UInt64.toNat UInt64.ofNat 18446744073709551615

def Codec.boolean : Codec Bool where
  write value := .boolean value
  read name
    | .boolean value => .ok value
    | _ => .error (.wrongType name)

def textOf (name : String) : Document.Value → Except Misfit String
  | .text text => .ok text
  | _ => .error (.wrongType name)

def Codec.text : Codec String where
  write text := .text text
  read := textOf

/-- Addresses as their texts. -/
def Codec.address {α : Type} (render : α → String) (read? : String → Option α) : Codec α where
  write address := .text (render address)
  read name value := do
    match read? (← textOf name value) with
    | some address => .ok address
    | none => .error (.notAnAddress name)

-----------------------------------------------------------------------------------------
-- Sections
-----------------------------------------------------------------------------------------

/-- A section of a document: its values by name, or by place. -/
inductive Section
  | named (entries : Document)
  | listed (elements : List Document.Value)

namespace Section

/-- A value as a section. A date names no setting and so changes none. -/
def ofValue? : Document.Value → Option Section
  | .table entries => some (named entries)
  | .array elements => some (listed elements)
  | .dateTime _ => some (named [])
  | _ => none

/-- The value of the setting of a name, which is also known by its place. -/
def get? (values : Section) (place : Nat) (name : String) : Option Document.Value :=
  match values with
  | named entries => entries.get? name
  | listed elements => elements[place]?

end Section

/-- A setting of a section, by the name that it has in documents. -/
structure Field (ρ : Type) where
  name : String
  {Setting : Type}
  codec : Codec Setting
  get : ρ → Setting
  set : Setting → ρ → ρ

/-- Reads the setting at a place of a section if it is given, and takes it from `absent` if
not.
-/
def Field.read {ρ : Type} (field : Field ρ) (values : Section) (place : Nat) (absent : ρ)
    : Except Misfit field.Setting :=
  match values.get? place field.name with
  | some value => field.codec.read field.name value
  | none => .ok (field.get absent)

/-- The settings of a section, in the order of their places, and its defaults. -/
structure Table (ρ : Type) where
  fields : List (Field ρ)
  absent : ρ

namespace Table

variable {ρ : Type}

/-- Reads settings into a record, which stand in a section from `place` on. -/
def readFields (values : Section) (absent : ρ)
    : (place : Nat) → List (Field ρ) → ρ → Except Misfit ρ
  | _, [], record => .ok record
  | place, field :: fields, record => do
      let setting ← field.read values place absent
      readFields values absent (place + 1) fields (field.set setting record)

def ofSection (table : Table ρ) (values : Section) : Except Misfit ρ :=
  readFields values table.absent 0 table.fields table.absent

def entries (table : Table ρ) (record : ρ) : Document :=
  table.fields.map fun field => (field.name, field.codec.write (field.get record))

/-- A whole section as a value. -/
def codec (table : Table ρ) : Codec ρ where
  write record := .table (table.entries record)
  read name value :=
    match Section.ofValue? value with
    | some values => table.ofSection values
    | none => .error (.wrongType name)

end Table

-----------------------------------------------------------------------------------------
-- The settings
-----------------------------------------------------------------------------------------

def Network.table : Table Network where
  absent := {}
  fields := [
    { name := "bind_address"
      codec := .address IpAddress.render IpAddress.ofText?
      get := (·.bindAddress)
      set value network := { network with bindAddress := value } },
    { name := "control_port"
      codec := .word16
      get := (·.controlPort)
      set value network := { network with controlPort := value } },
    { name := "max_sessions"
      codec := .word64
      get := (·.maxSessions)
      set value network := { network with maxSessions := value } },
    { name := "heartbeat_timeout_secs"
      codec := .word32
      get := (·.heartbeatTimeoutSecs)
      set value network := { network with heartbeatTimeoutSecs := value } },
    { name := "idle_timeout_ms"
      codec := .word64
      get := (·.idleTimeoutMs)
      set value network := { network with idleTimeoutMs := value } },
    { name := "link_down_timeout_ms"
      codec := .word64
      get := (·.linkDownTimeoutMs)
      set value network := { network with linkDownTimeoutMs := value } },
    { name := "rebind_retry_ms"
      codec := .word64
      get := (·.rebindRetryMs)
      set value network := { network with rebindRetryMs := value } }]

def Link.table : Table Link where
  absent := {}
  fields := [
    { name := "probe_enabled"
      codec := .boolean
      get := (·.probeEnabled)
      set value link := { link with probeEnabled := value } },
    { name := "probe_address"
      codec := .address SocketAddress.render SocketAddress.ofText?
      get := (·.probeAddress)
      set value link := { link with probeAddress := value } },
    { name := "probe_interval_ms"
      codec := .word64
      get := (·.probeIntervalMs)
      set value link := { link with probeIntervalMs := value } }]

def Input.table : Table Input where
  absent := {}
  fields := [
    { name := "source"
      codec := .text
      get := (·.source)
      set value input := { input with source := value } },
    { name := "random_seed"
      codec := .word64
      get := (·.randomSeed)
      set value input := { input with randomSeed := value } }]

def StatusSource.table : Table StatusSource where
  absent := {}
  fields := [
    { name := "source"
      codec := .text
      get := (·.source)
      set value status := { status with source := value } },
    { name := "interval_ms"
      codec := .word64
      get := (·.intervalMs)
      set value status := { status with intervalMs := value } }]

def Logging.table : Table Logging where
  absent := {}
  fields := [
    { name := "level"
      codec := .text
      get := (·.level)
      set value logging := { logging with level := value } }]

/-- All settings, each section as one value. -/
def table : Table Settings where
  absent := {}
  fields := [
    { name := "network"
      codec := Network.table.codec
      get := (·.network)
      set value settings := { settings with network := value } },
    { name := "link"
      codec := Link.table.codec
      get := (·.link)
      set value settings := { settings with link := value } },
    { name := "input"
      codec := Input.table.codec
      get := (·.input)
      set value settings := { settings with input := value } },
    { name := "status"
      codec := StatusSource.table.codec
      get := (·.status)
      set value settings := { settings with status := value } },
    { name := "logging"
      codec := Logging.table.codec
      get := (·.logging)
      set value settings := { settings with logging := value } }]

/-- The settings in a document. -/
def ofDocument (document : Document) : Except Misfit Settings :=
  table.ofSection (.named document)

/-- The document of settings. -/
def toDocument (settings : Settings) : Document := table.entries settings

end Settings

end Handheld
