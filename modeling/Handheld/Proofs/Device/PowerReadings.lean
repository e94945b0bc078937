import Mathlib.Data.List.Nodup
import Mathlib.Order.Defs.LinearOrder
import Handheld.Device.Machine
import Handheld.Proofs.File

/-! What the readings of battery and charger depend on. Main statement: of a directory, which
names each of its supplies once, they depend on the batteries, the mains and the USB supplies
and on nothing else, in particular not on the order of the listing.
-/

namespace Handheld

-----------------------------------------------------------------------------------------
-- Listings
-----------------------------------------------------------------------------------------

/-- Without its repeats a list has none, by induction on its length. -/
theorem nodup_eraseDups {α : Type} [BEq α] [LawfulBEq α] (elements : List α)
    : elements.eraseDups.Nodup := by
  induction size : elements.length using Nat.strongRecOn generalizing elements with
  | _ size ih =>
      cases elements with
      | nil => exact List.nodup_nil
      | cons first rest =>
          have shorter := List.length_filter_le (fun element => !element == first) rest
          rw [List.length_cons] at size
          rw [List.eraseDups_cons, List.nodup_cons, List.mem_eraseDups]
          exact ⟨by simp, ih _ (by omega) _ rfl⟩

theorem FileTree.nodup_names (tree : FileTree) (directory : List String)
    : (tree.names directory).Nodup :=
  nodup_eraseDups _

/-- A directory names each of its supplies once. -/
theorem Machine.nodup_ofTree (tree : FileTree) (power wireless : List String)
    : ((ofTree tree power wireless).supplies.map (·.name)).Nodup := by
  simp only [ofTree, List.map_map]
  exact (tree.nodup_names power).map fun _ _ same => toUTF8_toList_inj.mp same

namespace PowerSupply

variable {listed others : List PowerSupply} {battery : PowerSupply}

-----------------------------------------------------------------------------------------
-- Supplies of a kind
-----------------------------------------------------------------------------------------

theorem before_iff {left right : PowerSupply}
    : before left right = true ↔ left.name ≤ right.name := by
  simp only [before, Bool.not_eq_true', decide_eq_false_iff_not, List.not_lt]

theorem ofKind_perm (kind : String) (supplies : List PowerSupply)
    : (ofKind kind supplies).Perm (supplies.filter (·.isOf kind)) :=
  List.mergeSort_perm _ _

theorem ofKind_sorted (kind : String) (supplies : List PowerSupply)
    : (ofKind kind supplies).Pairwise fun left right => left.name ≤ right.name := by
  have transitive (first second third : PowerSupply) (earlier : before first second)
      (later : before second third)
      : before first third := by
    rw [before_iff] at *
    exact List.le_trans earlier later
  have total (left right : PowerSupply) : before left right || before right left := by
    rw [Bool.or_eq_true, before_iff, before_iff]
    exact List.le_total left.name right.name
  exact (List.pairwise_mergeSort transitive total _).imp before_iff.mp

theorem mem_ofKind {kind : String} {supply : PowerSupply} {supplies : List PowerSupply}
    : supply ∈ ofKind kind supplies ↔ supply ∈ supplies ∧ supply.isOf kind := by
  rw [(ofKind_perm kind supplies).mem_iff, List.mem_filter]

/-- Supplies of one kind come in one order only when no two of them share a name. -/
theorem ofKind_eq_of_perm {kind : String} (unique : (listed.map (·.name)).Nodup)
    (same : (listed.filter (·.isOf kind)).Perm (others.filter (·.isOf kind)))
    : ofKind kind listed = ofKind kind others := by
  have perm := (ofKind_perm kind listed).trans (same.trans (ofKind_perm kind others).symm)
  refine List.Perm.eq_of_pairwise ?_ (ofKind_sorted kind listed) (ofKind_sorted kind others) perm
  intro left right leftListed rightListed before behind
  refine List.inj_on_of_nodup_map unique (mem_ofKind.mp leftListed).1 ?_
    (List.le_antisymm before behind)
  exact (mem_ofKind.mp (perm.mem_iff.mpr rightListed)).1

/-- A battery of a directory that is no later by name than any other. -/
structure LeastBattery (listed : List PowerSupply) (battery : PowerSupply) : Prop where
  mem : battery ∈ listed
  isBattery : battery.isOf "Battery"
  least : ∀ other ∈ listed, other.isOf "Battery" → battery.name ≤ other.name

/-- The battery that counts is the one with the least name. -/
theorem battery?_eq_some_iff (unique : (listed.map (·.name)).Nodup)
    : battery? listed = some battery ↔ LeastBattery listed battery := by
  have sorted := ofKind_sorted "Battery" listed
  have first_least {first : PowerSupply} {rest : List PowerSupply}
      (batteries : ofKind "Battery" listed = first :: rest)
      : LeastBattery listed first := by
    obtain ⟨isListed, isBattery⟩ : first ∈ listed ∧ first.isOf "Battery" :=
      mem_ofKind.mp (by simp [batteries])
    refine ⟨isListed, isBattery, fun other otherListed otherIs => ?_⟩
    have found : other ∈ ofKind "Battery" listed := mem_ofKind.mpr ⟨otherListed, otherIs⟩
    rw [batteries] at sorted found
    rcases List.mem_cons.mp found with same | later
    · exact same ▸ List.le_refl _
    · exact List.rel_of_pairwise_cons sorted later
  rw [battery?]
  cases batteries : ofKind "Battery" listed with
  | nil =>
      refine ⟨nofun, fun least => ?_⟩
      have found := mem_ofKind.mpr ⟨least.mem, least.isBattery⟩
      simp [batteries] at found
  | cons first rest =>
      have firstLeast := first_least batteries
      rw [List.head?_cons, Option.some.injEq]
      constructor
      · rintro rfl
        exact firstLeast
      · intro least
        refine List.inj_on_of_nodup_map unique firstLeast.mem least.mem (List.le_antisymm ?_ ?_)
        · exact firstLeast.least battery least.mem least.isBattery
        · exact least.least first firstLeast.mem firstLeast.isBattery

theorem battery?_eq_none (none : ∀ supply ∈ listed, ¬supply.isOf "Battery")
    : battery? listed = Option.none := by
  rw [battery?, List.head?_eq_none_iff, List.eq_nil_iff_forall_not_mem]
  intro supply found
  exact none supply (mem_ofKind.mp found).1 (mem_ofKind.mp found).2

-----------------------------------------------------------------------------------------
-- The readings
-----------------------------------------------------------------------------------------

/-- The kinds of supplies that readings are taken from. -/
def readKinds : List String := ["Battery", "Mains", "USB"]

/-- A supply that readings may be taken from, by the text of its type without the blanks at
its ends.
-/
def IsRead (supply : PowerSupply) : Prop := ∃ kind ∈ readKinds, supply.kind.trimmed? = some kind

instance : DecidablePred IsRead := fun supply =>
  inferInstanceAs (Decidable (∃ kind ∈ readKinds, supply.kind.trimmed? = some kind))

/-- What the capacity of a battery comes to: its number, brought between 0 and 100, or 0 if it
has none.
-/
inductive Charge (battery : PowerSupply) : Nat → Prop
  | number {text : String} {number : Int} (found : battery.capacity.trimmed? = some text)
    (written
      : Numeral.integer? (-2147483648) 2147483647 text.toList = some number)
    : Charge battery (max 0 (min number 100)).toNat
  | unreadable (missing : battery.capacity.trimmed? = none) : Charge battery 0
  | notANumber {text : String} (found : battery.capacity.trimmed? = some text)
    (wrong : Numeral.integer? (-2147483648) 2147483647 text.toList = none)
    : Charge battery 0

theorem charge_of_battery? (found : battery? listed = some battery)
    : Charge battery (batteryPercent listed) := by
  rw [batteryPercent, found, Option.bind_some]
  cases capacity : battery.capacity.trimmed? with
  | none => exact .unreadable capacity
  | some text =>
      rw [Option.bind_some, percent?]
      cases written : Numeral.integer? (-2147483648) 2147483647 text.toList with
      | none => exact .notANumber capacity written
      | some number =>
          have bounded : (max 0 (min number 100)).toNat = (min number 100).toNat := by omega
          rw [Option.map_some, Option.getD_some, ← bounded]
          exact .number capacity written

theorem Charge.le {percent : Nat} (charge : Charge battery percent) : percent ≤ 100 := by
  cases charge with
  | number found written => omega
  | unreadable missing => exact Nat.zero_le 100
  | notANumber found wrong => exact Nat.zero_le 100

theorem batteryPercent_le (supplies : List PowerSupply) : batteryPercent supplies ≤ 100 := by
  cases found : battery? supplies with
  | none =>
      rw [batteryPercent, found]
      exact Nat.zero_le 100
  | some battery => exact (charge_of_battery? found).le

/-- The charger is connected when a supply from outside is online, or when the battery that
counts says so.
-/
theorem chargerConnected_iff (unique : (listed.map (·.name)).Nodup)
    : chargerConnected listed
      ↔ (∃ supply ∈ listed, (supply.isOf "Mains" ∨ supply.isOf "USB") ∧ supply.isOnline)
        ∨ ∃ battery,
            LeastBattery listed battery
            ∧ (battery.status.trimmed? = some "Charging"
              ∨ battery.status.trimmed? = some "Full") := by
  have online (kind : String)
      : (ofKind kind listed).any isOnline
        ↔ ∃ supply ∈ listed, supply.isOf kind ∧ supply.isOnline := by
    simp only [List.any_eq_true, mem_ofKind, and_assoc]
  have shown
      : (((battery? listed).bind (·.status.trimmed?)).any fun status =>
          status == "Charging" || status == "Full")
        ↔ ∃ battery,
            battery? listed = some battery
            ∧ (battery.status.trimmed? = some "Charging"
              ∨ battery.status.trimmed? = some "Full") := by
    simp only [Option.any_eq_true, Option.bind_eq_some_iff, Bool.or_eq_true, beq_iff_eq]
    grind only
  simp only [battery?_eq_some_iff unique] at shown
  rw [chargerConnected, Bool.or_eq_true, shown, List.any_cons, List.any_cons, List.any_nil,
    Bool.or_false, Bool.or_eq_true, online, online]
  grind only

/-- Supplies that are not read do not show up among those of a kind that is. -/
theorem filter_isOf_of_isRead {kind : String} (known : kind ∈ readKinds)
    (supplies : List PowerSupply)
    : (supplies.filter fun supply => IsRead supply).filter (·.isOf kind)
      = supplies.filter (·.isOf kind) := by
  rw [List.filter_filter]
  refine List.filter_congr fun supply _ => ?_
  by_cases ofKind : supply.kind.trimmed? = some kind
  · have read : IsRead supply := ⟨kind, known, ofKind⟩
    simp [read]
  · simp [isOf, ofKind]

/-- Two directories with the same supplies to read show the same ones of each kind. -/
theorem ofKind_eq_of_isRead (kind : String) (known : kind ∈ readKinds)
    (unique : (listed.map (·.name)).Nodup)
    (same
      : (listed.filter fun supply => IsRead supply).Perm
          (others.filter fun supply => IsRead supply))
    : ofKind kind listed = ofKind kind others := by
  refine ofKind_eq_of_perm unique ?_
  have kept := same.filter (·.isOf kind)
  rwa [filter_isOf_of_isRead known, filter_isOf_of_isRead known] at kept

theorem readings_eq_of_isRead (unique : (listed.map (·.name)).Nodup)
    (same
      : (listed.filter fun supply => IsRead supply).Perm
          (others.filter fun supply => IsRead supply))
    : batteryPercent listed = batteryPercent others
      ∧ chargerConnected listed = chargerConnected others := by
  have batteries := ofKind_eq_of_isRead "Battery" (by decide) unique same
  have mains := ofKind_eq_of_isRead "Mains" (by decide) unique same
  have usb := ofKind_eq_of_isRead "USB" (by decide) unique same
  constructor
  · simp only [batteryPercent, battery?, batteries]
  · simp only [chargerConnected, battery?, batteries, List.any_cons, List.any_nil, mains, usb]

/-- The readings of a directory are those of its supplies to read, in whatever order it lists
them and whatever else it holds. The charge is that of the battery with the least name.
-/
theorem readings_determined (unique : (listed.map (·.name)).Nodup)
    : (∀ relisted : List PowerSupply,
        listed.Perm relisted
        → (∀ kind, ofKind kind listed = ofKind kind relisted)
          ∧ batteryPercent listed = batteryPercent relisted
          ∧ chargerConnected listed = chargerConnected relisted)
      ∧ batteryPercent listed ≤ 100
      ∧ (∀ battery, LeastBattery listed battery → Charge battery (batteryPercent listed))
      ∧ ((∀ supply ∈ listed, ¬supply.isOf "Battery") → batteryPercent listed = 0)
      ∧ (chargerConnected listed
        ↔ (∃ supply ∈ listed, (supply.isOf "Mains" ∨ supply.isOf "USB") ∧ supply.isOnline)
          ∨ ∃ battery,
              LeastBattery listed battery
              ∧ (battery.status.trimmed? = some "Charging"
                ∨ battery.status.trimmed? = some "Full"))
      ∧ ∀ changed : List PowerSupply,
          (listed.filter fun supply => IsRead supply).Perm
            (changed.filter fun supply => IsRead supply)
          → batteryPercent listed = batteryPercent changed
            ∧ chargerConnected listed = chargerConnected changed := by
  refine ⟨?_, batteryPercent_le listed, ?_, ?_, chargerConnected_iff unique, ?_⟩
  · intro relisted perm
    exact ⟨fun kind => ofKind_eq_of_perm unique (perm.filter _),
      readings_eq_of_isRead unique (perm.filter _)⟩
  · intro battery least
    exact charge_of_battery? ((battery?_eq_some_iff unique).mpr least)
  · intro none
    rw [batteryPercent, battery?_eq_none none]
    rfl
  · intro changed same
    exact readings_eq_of_isRead unique same

/-- Two batteries that are listed backwards, with a supply of another kind between them. The one
that counts claims more than a full charge.
-/
theorem readings_determined_two_batteries
    : let second : PowerSupply :=
        { name := "BAT1".toUTF8.toList, kind := .ofText "Battery", capacity := .ofText "20" }
      let ignored : PowerSupply := { name := "UPS".toUTF8.toList, kind := .ofText "UPS" }
      let first : PowerSupply := {
        name := "BAT0".toUTF8.toList
        kind := .ofText " Battery\n"
        capacity := .ofText "130\n"
        status := .ofText "Full\n"
      }
      let listed := [second, ignored, first]
      (listed.map (·.name)).Nodup
      ∧ LeastBattery listed first
      ∧ Charge first (batteryPercent listed)
      ∧ listed.Perm [first, second, ignored]
      ∧ batteryPercent listed = batteryPercent [first, second, ignored]
      ∧ (listed.filter fun supply => IsRead supply).Perm
          ([first, second].filter fun supply => IsRead supply)
      ∧ batteryPercent listed = batteryPercent [first, second]
      ∧ chargerConnected [first, second] := by
  intro second ignored first listed
  have unique : (listed.map (·.name)).Nodup := by decide +kernel
  have least : LeastBattery listed first :=
    ⟨by decide +kernel, by decide +kernel, by decide +kernel⟩
  have perm : listed.Perm [first, second, ignored] := by decide +kernel
  have same
      : (listed.filter fun supply => IsRead supply).Perm
          ([first, second].filter fun supply => IsRead supply) := by decide +kernel
  obtain ⟨reordered, _, charge, _, connected, read⟩ := readings_determined unique
  refine ⟨unique, least, charge first least, perm, (reordered _ perm).2.1, same,
    (read _ same).1, ?_⟩
  rw [← (read _ same).2, connected]
  exact .inr ⟨first, least, .inr (by decide +kernel)⟩

end PowerSupply

/-- What a machine reads from its files does not depend on the order in which the directory
lists its supplies, and not on what else it lists.
-/
theorem Machine.sample_eq_of_isRead (tree : FileTree) (power wireless : List String)
    {listed : List PowerSupply}
    (same
      : ((ofTree tree power wireless).supplies.filter fun supply => PowerSupply.IsRead supply).Perm
          (listed.filter fun supply => PowerSupply.IsRead supply))
    : sample { ofTree tree power wireless with supplies := listed }
      = sample (ofTree tree power wireless) := by
  obtain ⟨battery, charger⟩ :=
    PowerSupply.readings_eq_of_isRead (nodup_ofTree tree power wireless) same
  simp only [sample, battery, charger]

end Handheld
