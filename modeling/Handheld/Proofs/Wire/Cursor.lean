import Handheld.Proofs.Wire.Bodies

/-! Reading a body by position. A cursor moves through a body that stays as it is, and each of
its takes is a slice of the body at the place that it has reached. Main statement: a checked
body is read to its end by takes that follow one another without a gap.
-/

namespace Handheld

namespace Wire

-----------------------------------------------------------------------------------------
-- Cursors and what they have taken
-----------------------------------------------------------------------------------------

/-- A slice that was taken from a body: where it starts and how many bytes it has. -/
structure Take where
  start : Nat
  width : Nat

def Take.stop (take : Take) : Nat := take.start + take.width

/-- How far a body has been read, and the takes that it was read by, in order. -/
structure Cursor where
  position : Nat
  takes : List Take

namespace Cursor

/-- The cursor in front of a body. -/
def atStart : Cursor := ⟨0, []⟩

def advance (cursor : Cursor) (width : Nat) : Cursor :=
  ⟨cursor.position + width, cursor.takes ++ [⟨cursor.position, width⟩]⟩

end Cursor

/-- The takes lead from `start` to `stop`, each from where the one before it has stopped. -/
def Tiles : (takes : List Take) → (start stop : Nat) → Prop
  | [], start, stop => start = stop
  | take :: later, start, stop => take.start = start ∧ Tiles later take.stop stop

/-- Takes that go on where others have stopped, by induction on the takes made first. -/
theorem Tiles.append {takes later : List Take} {start middle stop : Nat}
    (first : Tiles takes start middle) (second : Tiles later middle stop)
    : Tiles (takes ++ later) start stop := by
  induction takes generalizing start with
  | nil =>
      cases first
      exact second
  | cons take rest ih =>
      obtain ⟨starts, tiled⟩ := first
      exact ⟨starts, ih tiled⟩

theorem Tiles.le {takes : List Take} {start stop : Nat} (tiled : Tiles takes start stop)
    : start ≤ stop := by
  induction takes generalizing start with
  | nil => exact Nat.le_of_eq tiled
  | cons take rest ih =>
      obtain ⟨rfl, tiled⟩ := tiled
      exact Nat.le_trans (Nat.le_add_right take.start take.width) (ih tiled)

/-- No take reaches past the place that all of them lead to. -/
theorem Tiles.stop_le {takes : List Take} {start stop : Nat} (tiled : Tiles takes start stop)
    : ∀ take ∈ takes, take.stop ≤ stop := by
  induction takes generalizing start with
  | nil => exact nofun
  | cons take rest ih =>
      obtain ⟨_, tiled⟩ := tiled
      intro later member
      rcases List.mem_cons.mp member with rfl | member
      · exact tiled.le
      · exact ih tiled later member

-----------------------------------------------------------------------------------------
-- Reading with a cursor
-----------------------------------------------------------------------------------------

/-- Reads from a body by moving a cursor through it. -/
abbrev CursorReader := ReaderT Bytes (StateT Cursor (Except Fault))

namespace CursorReader

/-- The next `width` bytes. Nothing but the end of the body bounds a take. -/
def take (width : Nat) : CursorReader Bytes := fun body cursor =>
  if body.length < cursor.position + width then .error .pastEnd
  else .ok ((body.drop cursor.position).take width, cursor.advance width)

def number (width : Nat) : CursorReader Nat := Bytes.toNat <$> take width

def byte : CursorReader UInt8 := UInt8.ofNat <$> number 1

def word16 : CursorReader UInt16 := UInt16.ofNat <$> number 2

def word32 : CursorReader UInt32 := UInt32.ofNat <$> number 4

def word64 : CursorReader UInt64 := UInt64.ofNat <$> number 8

def signed16 : CursorReader Int16 := UInt16.toInt16 <$> word16

def signed32 : CursorReader Int32 := UInt32.toInt32 <$> word32

def axes : CursorReader Axes := return ⟨← word32, ← word32, ← word32⟩

def touch : CursorReader TouchReport := return ⟨← byte, ← byte, ← signed16, ← signed16⟩

/-- The next `count` touch reports. -/
def touchList : (count : Nat) → CursorReader (List TouchReport)
  | 0 => pure []
  | count + 1 => return (← touch) :: (← touchList count)

def touches : CursorReader (List TouchReport) := do touchList (← byte).toNat

def side : CursorReader Side := do
  let byte ← byte
  match Side.ofByte? byte with
  | some side => pure side
  | none => throw (.malformed (.side byte))

def buttons : CursorReader Buttons := do
  let bits ← word16
  match Buttons.ofBits? bits with
  | some buttons => pure buttons
  | none => throw (.malformed (.buttons bits))

/-- The packet of a kind, each field at the place where the one before it has stopped. -/
def packet : PacketKind → CursorReader Packet
  | .handshake => return .handshake ⟨← side, ← word16, ← word32⟩
  | .config => return .config (← word32)
  | .telemetry => do
      let buttons ← buttons
      let lx ← signed16
      let ly ← signed16
      let rx ← signed16
      let ry ← signed16
      let frontTouches ← touches
      let backTouches ← touches
      let gyro ← axes
      let accel ← axes
      let timestamp ← word64
      let battery ← signed32
      return .telemetry ⟨
        { buttons, lx, ly, rx, ry, frontTouches, backTouches, gyro, accel, timestamp },
        battery⟩

theorem bind_apply {α β : Type} (walk : CursorReader α) (next : α → CursorReader β)
    (body : Bytes) (cursor : Cursor)
    : (walk >>= next) body cursor
      = match walk body cursor with
        | .ok (value, reached) => next value body reached
        | .error fault => .error fault := by
  cases result : walk body cursor with
  | error fault => simp [bind, ReaderT.bind, StateT.bind, Except.bind, result]
  | ok pair => simp [bind, ReaderT.bind, StateT.bind, Except.bind, result]

theorem number_apply (width : Nat) (body : Bytes) (cursor : Cursor)
    : number width body cursor
      = if body.length < cursor.position + width then .error .pastEnd
        else .ok
          (Bytes.toNat ((body.drop cursor.position).take width), cursor.advance width) := by
  change (take width >>= fun bytes => pure (Bytes.toNat bytes)) body cursor = _
  by_cases short : body.length < cursor.position + width
  · simp only [bind_apply, take, if_pos short]
  · simp only [bind_apply, take, if_neg short]
    rfl

end CursorReader

-----------------------------------------------------------------------------------------
-- The cursor goes where the reader goes
-----------------------------------------------------------------------------------------

/-- What a reader of the bytes behind a cursor comes to, and what a cursor reader comes to
there: the same fault, or the same value with the cursor in front of what is left unread.
-/
inductive Agree {α : Type} (body : Bytes) (cursor : Cursor)
    : Except Fault (α × Bytes) → Except Fault (α × Cursor) → Prop
  | fault (fault : Fault) : Agree body cursor (.error fault) (.error fault)
  | value (value : α) {position : Nat} {made : List Take} (within : position ≤ body.length)
    (tiled : Tiles made cursor.position position)
    : Agree body cursor (.ok (value, body.drop position))
        (.ok (value, ⟨position, cursor.takes ++ made⟩))

theorem Agree.of_ok {α : Type} {body unread : Bytes} {cursor : Cursor} {value : α}
    {reached : Except Fault (α × Cursor)}
    (agree : Agree body cursor (.ok (value, unread)) reached)
    : ∃ position made,
        reached = .ok (value, ⟨position, cursor.takes ++ made⟩)
        ∧ position ≤ body.length
        ∧ body.drop position = unread
        ∧ Tiles made cursor.position position := by
  cases agree with
  | value _ within tiled => exact ⟨_, _, rfl, within, rfl, tiled⟩

/-- From every place in a body the cursor reader agrees with the reader. -/
def Tracks {α : Type} (walk : CursorReader α) (read : Reader α) : Prop :=
  ∀ (body : Bytes) (cursor : Cursor),
    cursor.position ≤ body.length
    → Agree body cursor (read (body.drop cursor.position)) (walk body cursor)

section Tracking

variable {α β : Type} {walk : CursorReader α} {read : Reader α}

theorem tracks_pure (value : α) : Tracks (pure value) (pure value) := by
  intro body cursor within
  have stays
      : Agree body cursor (.ok (value, body.drop cursor.position))
          (.ok (value, ⟨cursor.position, cursor.takes ++ []⟩)) :=
    .value value within rfl
  rw [List.append_nil] at stays
  exact stays

theorem tracks_throw (fault : Fault)
    : Tracks (throw fault : CursorReader α) (throw fault : Reader α) :=
  fun _ _ _ => .fault fault

/-- The second reader starts where the first has stopped, so the takes of both tile. -/
theorem Tracks.bind {next : α → CursorReader β} {behind : α → Reader β}
    (tracks : Tracks walk read) (later : ∀ value, Tracks (next value) (behind value))
    : Tracks (walk >>= next) (read >>= behind) := by
  intro body cursor within
  have first := tracks body cursor within
  rw [CursorReader.bind_apply, Reader.bind_apply]
  generalize read (body.drop cursor.position) = unread at first
  generalize walk body cursor = reached at first
  cases first with
  | fault fault => exact .fault fault
  | @value value position made within tiled =>
      have second := later value body ⟨position, cursor.takes ++ made⟩ within
      dsimp only at second ⊢
      generalize behind value (body.drop position) = unread at second
      generalize next value body ⟨position, cursor.takes ++ made⟩ = reached at second
      cases second with
      | fault fault => exact .fault fault
      | value value within further =>
          rw [List.append_assoc]
          exact .value value within (tiled.append further)

theorem Tracks.map (tracks : Tracks walk read) (change : α → β)
    : Tracks (change <$> walk) (change <$> read) :=
  tracks.bind fun value => tracks_pure (change value)

end Tracking

/-- The one step that moves: a take fails exactly when too few bytes are left. -/
theorem tracks_number (width : Nat)
    : Tracks (CursorReader.number width) (Reader.number width) := by
  intro body cursor within
  have left : (body.drop cursor.position).length = body.length - cursor.position :=
    List.length_drop
  by_cases short : body.length < cursor.position + width
  · have few : (body.drop cursor.position).length < width := by omega
    simp only [CursorReader.number_apply, Reader.number, if_pos short, if_pos few]
    exact .fault .pastEnd
  · have enough : ¬(body.drop cursor.position).length < width := by omega
    simp only [CursorReader.number_apply, Reader.number, if_neg short, if_neg enough,
      List.drop_drop]
    exact .value _ (Nat.not_lt.mp short) ⟨rfl, rfl⟩

theorem tracks_byte : Tracks CursorReader.byte Reader.byte :=
  (tracks_number 1).map _

theorem tracks_word16 : Tracks CursorReader.word16 Reader.word16 :=
  (tracks_number 2).map _

theorem tracks_word32 : Tracks CursorReader.word32 Reader.word32 :=
  (tracks_number 4).map _

theorem tracks_word64 : Tracks CursorReader.word64 Reader.word64 :=
  (tracks_number 8).map _

theorem tracks_signed16 : Tracks CursorReader.signed16 Reader.signed16 :=
  tracks_word16.map _

theorem tracks_signed32 : Tracks CursorReader.signed32 Reader.signed32 :=
  tracks_word32.map _

theorem tracks_axes : Tracks CursorReader.axes Reader.axes :=
  tracks_word32.bind fun _ =>
    tracks_word32.bind fun _ =>
      tracks_word32.bind fun _ => tracks_pure _

theorem tracks_touch : Tracks CursorReader.touch Reader.touch :=
  tracks_byte.bind fun _ =>
    tracks_byte.bind fun _ =>
      tracks_signed16.bind fun _ =>
        tracks_signed16.bind fun _ => tracks_pure _

/-- Report after report, by induction on their number. -/
theorem tracks_touchList (count : Nat)
    : Tracks (CursorReader.touchList count) (Reader.touchList count) := by
  induction count with
  | zero => exact tracks_pure []
  | succ count ih => exact tracks_touch.bind fun _ => ih.bind fun _ => tracks_pure _

theorem tracks_touches : Tracks CursorReader.touches Reader.touches :=
  tracks_byte.bind fun count => tracks_touchList count.toNat

theorem tracks_side : Tracks CursorReader.side Reader.side := by
  refine tracks_byte.bind fun byte => ?_
  cases Side.ofByte? byte with
  | none => exact tracks_throw (.malformed (.side byte))
  | some side => exact tracks_pure side

theorem tracks_buttons : Tracks CursorReader.buttons Reader.buttons := by
  refine tracks_word16.bind fun bits => ?_
  cases Buttons.ofBits? bits with
  | none => exact tracks_throw (.malformed (.buttons bits))
  | some buttons => exact tracks_pure buttons

/-- Of every body, checked or not, both readers make the same, field by field. -/
theorem tracks_packet (kind : PacketKind)
    : Tracks (CursorReader.packet kind) (Reader.packet kind) := by
  cases kind with
  | handshake =>
      exact tracks_side.bind fun _ =>
        tracks_word16.bind fun _ =>
          tracks_word32.bind fun _ => tracks_pure _
  | config => exact tracks_word32.bind fun _ => tracks_pure _
  | telemetry =>
      refine tracks_buttons.bind fun _ => ?_
      refine tracks_signed16.bind fun _ => tracks_signed16.bind fun _ => ?_
      refine tracks_signed16.bind fun _ => tracks_signed16.bind fun _ => ?_
      refine tracks_touches.bind fun _ => tracks_touches.bind fun _ => ?_
      refine tracks_axes.bind fun _ => tracks_axes.bind fun _ => ?_
      refine tracks_word64.bind fun _ => tracks_signed32.bind fun _ => ?_
      exact tracks_pure _

-----------------------------------------------------------------------------------------
-- Checked bodies
-----------------------------------------------------------------------------------------

/-- A reader that leaves no byte unread has led the cursor to the end of the body. -/
theorem Tracks.reaches_end {α : Type} {walk : CursorReader α} {read : Reader α} {body : Bytes}
    {value : α} (tracks : Tracks walk read) (whole : read body = .ok (value, []))
    : ∃ takes, walk body .atStart = .ok (value, ⟨body.length, takes⟩)
        ∧ Tiles takes 0 body.length := by
  have agree := tracks body .atStart (Nat.zero_le _)
  rw [Cursor.atStart, List.drop_zero, whole] at agree
  obtain ⟨position, takes, walked, within, unread, tiled⟩ := agree.of_ok
  have passed : body.length ≤ position := List.drop_eq_nil_iff.mp unread
  obtain rfl : position = body.length := Nat.le_antisymm within passed
  exact ⟨takes, walked, tiled⟩

/-- A handshake is read by three takes: its side, its port and its interval. -/
example
    : CursorReader.packet .handshake [1, 0x0f, 0x27, 25, 0, 0, 0] .atStart
      = .ok (.handshake ⟨.server, 9999, 25⟩, ⟨7, [⟨0, 1⟩, ⟨1, 2⟩, ⟨3, 4⟩]⟩) := by
  rfl

end Wire

end Handheld
