import Mathlib.Algebra.Group.Nat.Defs
import Mathlib.Tactic.SplitIfs
import Handheld.Address.Reading
import Handheld.Address.Rendering
import Handheld.Proofs.Text.Written

/-! Addresses and their texts. Main statements: an IP address is read back from its text, and
so is an address with a port.
-/

namespace Handheld

namespace Address

open Numeral

-----------------------------------------------------------------------------------------
-- Numbers
-----------------------------------------------------------------------------------------

/-- A number is read from its digits, if it fits in the width and the bound. -/
theorem number_toDigits {base width most number : Nat} (several : 1 < base) (known : base ≤ 16)
    (zerosAllowed : Bool) (wide : 0 < width) (short : number < base ^ width)
    (small : number ≤ most) {rest : List Char} (ends : Ends base rest)
    : Address.number base width most zerosAllowed (Nat.toDigits base number ++ rest)
      = some (number, rest) := by
  have nonempty : Nat.toDigits base number ≠ [] := Nat.toDigits_ne_nil
  have fits : (Nat.toDigits base number).length ≤ width :=
    (Nat.length_toDigits_le_iff several wide).mpr short
  have plain : ¬(¬zerosAllowed ∧ (Nat.toDigits base number).head? = some '0'
      ∧ 1 < (Nat.toDigits base number).length) := by
    rintro ⟨-, zero, long⟩
    by_cases positive : number = 0
    · simp [positive] at long
    · exact head?_toDigits several number positive zero
  simp only [Address.number, run_toDigits several known number ends]
  rw [if_neg (by simpa [nonempty] using fits), if_neg plain, value_toDigits several known,
    if_neg (by omega)]

/-- A number of any length is read from its digits, if it fits in the bound. -/
theorem longNumber_toDigits {most number : Nat} (small : number ≤ most) {rest : List Char}
    (ends : Ends 10 rest)
    : longNumber most (Nat.toDigits 10 number ++ rest) = some (number, rest) := by
  have positive : 0 < (Nat.toDigits 10 number ++ rest).length := by
    have := @Nat.length_toDigits_pos 10 number
    rw [List.length_append]
    omega
  refine number_toDigits (by decide) (by decide) true positive ?_ small ends
  refine (Nat.length_toDigits_le_iff (by decide) positive).mp ?_
  rw [List.length_append]
  omega

/-- No number is read where no digit stands. -/
theorem number_of_ends {base width most : Nat} (zerosAllowed : Bool) {text : List Char}
    (ends : Ends base text)
    : Address.number base width most zerosAllowed text = none := by
  have nothing : run base ([] ++ text) = ([], text) := span_append (by simp) ends
  rw [List.nil_append] at nothing
  simp [Address.number, nothing]

-----------------------------------------------------------------------------------------
-- IPv4 addresses
-----------------------------------------------------------------------------------------

/-- The first octet, or one behind its point. -/
theorem octet_toDigits (byte : UInt8) {rest : List Char} (ends : Ends 10 rest)
    : octet 0 (Nat.toDigits 10 byte.toNat ++ rest) = some (byte, rest)
      ∧ ∀ index,
          octet (index + 1) ('.' :: (Nat.toDigits 10 byte.toNat ++ rest))
            = some (byte, rest) := by
  have below : byte.toNat < 256 := byte.toNat_lt
  have read : Address.number 10 3 255 false (Nat.toDigits 10 byte.toNat ++ rest)
      = some (byte.toNat, rest) :=
    number_toDigits (by decide) (by decide) false (by decide) (by omega) (by omega) ends
  simp [octet, separated, char, read]

theorem toList_render_v4 (ip : Ipv4)
    : ip.render.toList
      = Nat.toDigits 10 ip.a.toNat ++ '.' :: (Nat.toDigits 10 ip.b.toNat
        ++ '.' :: (Nat.toDigits 10 ip.c.toNat ++ '.' :: Nat.toDigits 10 ip.d.toNat)) := by
  simp [Ipv4.render, Ipv4.octets]

theorem ipv4_render (ip : Ipv4) {rest : List Char} (ends : Ends 10 rest)
    : ipv4 (ip.render.toList ++ rest) = some (ip, rest) := by
  have point (more : List Char) : Ends 10 ('.' :: more) := ends_cons.mpr (by decide)
  simp only [toList_render_v4, List.append_assoc, List.cons_append, ipv4,
    (octet_toDigits _ (point _)).1, (octet_toDigits _ (point _)).2, (octet_toDigits _ ends).2,
    Option.bind_eq_bind, Option.bind_some, Option.pure_def]

/-- A text whose first digits are not followed by a point. -/
def Undotted (text : List Char) : Prop := (text.dropWhile (isDigit 10)).head? ≠ some '.'

theorem number_rest {base width most value : Nat} {zerosAllowed : Bool} {text rest : List Char}
    (read : Address.number base width most zerosAllowed text = some (value, rest))
    : rest = text.dropWhile (isDigit base) := by
  simp only [Address.number, run, List.span_eq_takeWhile_dropWhile] at read
  split_ifs at read
  exact (Prod.mk.inj (Option.some.inj read)).2.symm

/-- No IPv4 address is read where no point follows the first digits. -/
theorem ipv4_of_undotted {text : List Char} (undotted : Undotted text) : ipv4 text = none := by
  cases first : octet 0 text with
  | none => simp [ipv4, first]
  | some read =>
      obtain ⟨byte, rest⟩ := read
      have unpointed : rest.head? ≠ some '.' := by
        obtain ⟨⟨number, behind⟩, found, kept⟩ := Option.bind_eq_some_iff.mp first
        rw [← (Prod.mk.inj (Option.some.inj kept)).2, number_rest found]
        exact undotted
      have second : octet 1 rest = none := by
        cases rest with
        | nil => rfl
        | cons c more =>
            simp [octet, separated, char, show c ≠ '.' by simpa using unpointed]
      simp [ipv4, first, second]

-----------------------------------------------------------------------------------------
-- Groups
-----------------------------------------------------------------------------------------

def groupDigits (group : UInt16) : List Char := Nat.toDigits 16 group.toNat

/-- Groups, each behind its colon. -/
def behindColons (groups : List UInt16) : List Char :=
  groups.flatMap fun group => ':' :: groupDigits group

/-- Groups by their position: the first one, and each other one behind its colon. -/
theorem toList_renderGroups (group : UInt16) (more : List UInt16)
    : (Ipv6.renderGroups (group :: more)).toList = groupDigits group ++ behindColons more := by
  rw [Ipv6.renderGroups, List.map_cons, toList_intercalate_cons, List.flatMap_map]
  simp [behindColons, groupDigits]

/-- What may follow groups: the end of the text, a bracket, a scope, or the gap `::`. -/
inductive Closed : List Char → Prop
  | nothing : Closed []
  | bracket (more : List Char) : Closed (']' :: more)
  | scope (more : List Char) : Closed ('%' :: more)
  | gap (more : List Char) : Closed (':' :: ':' :: more)

theorem Closed.ends {rest : List Char} (closed : Closed rest) : Ends 16 rest := by
  cases closed <;> simp <;> decide

theorem Closed.unpointed {rest : List Char} (closed : Closed rest)
    : rest.head? ≠ some '.' := by
  cases closed <;> simp

/-- Nothing stands behind a colon where groups are closed, unless it may begin with one. -/
theorem Closed.separated_none {α : Type} {inner : Reader α} {rest : List Char}
    (closed : Closed rest) (index : Nat) (refuses : ∀ more, inner (':' :: more) = none)
    : separated ':' (index + 1) inner rest = none := by
  cases closed <;> simp [separated, char, refuses]

/-- A text that does not go on with a hexadecimal digit does not go on with a decimal one. -/
theorem ends_ten {rest : List Char} (ends : Ends 16 rest) : Ends 10 rest := by
  intro c member
  have other := ends c member
  simp only [isDigit, digit?, Option.isSome_eq_false_iff, Option.isNone_iff_eq_none,
    Option.filter_eq_none_iff] at other ⊢
  intro value found
  have large := other value found
  simp at large ⊢
  omega

theorem undotted_of_ends {text : List Char} (ends : Ends 10 text)
    (unpointed : text.head? ≠ some '.')
    : Undotted text := by
  cases text with
  | nil => simp [Undotted]
  | cons c more => simpa [Undotted, ends_cons.mp ends] using unpointed

/-- Digits of a group are no beginning of an IPv4 address unless a point follows them. -/
theorem undotted_of_hex {digits rest : List Char} (hex : ∀ c ∈ digits, isDigit 16 c)
    (ends : Ends 10 rest) (unpointed : rest.head? ≠ some '.')
    : Undotted (digits ++ rest) := by
  induction digits with
  | nil => exact undotted_of_ends ends unpointed
  | cons c digits ih =>
      have later := ih fun other member => hex other (List.mem_cons_of_mem _ member)
      by_cases decimal : isDigit 10 c
      · simpa [Undotted, decimal] using later
      · have notPoint : c ≠ '.' := by
          rintro rfl
          exact absurd (hex '.' (by simp)) (by decide)
        simpa [Undotted, decimal] using notPoint

theorem undotted_groupDigits (group : UInt16) {rest : List Char} (ends : Ends 10 rest)
    (unpointed : rest.head? ≠ some '.')
    : Undotted (groupDigits group ++ rest) :=
  undotted_of_hex (isDigit_of_mem (by decide) (by decide) _) ends unpointed

/-- A group is read from its digits. -/
theorem number_groupDigits (group : UInt16) {rest : List Char} (ends : Ends 16 rest)
    : Address.number 16 4 0xffff true (groupDigits group ++ rest) = some (group.toNat, rest) :=
  have below : group.toNat < 65536 := group.toNat_lt
  number_toDigits (by decide) (by decide) true (by decide) (by omega) (by omega) ends

theorem closed_behindColons {rest : List Char} (closed : Closed rest) (groups : List UInt16)
    : Ends 16 (behindColons groups ++ rest)
      ∧ (behindColons groups ++ rest).head? ≠ some '.' := by
  cases groups with
  | nil => exact ⟨closed.ends, closed.unpointed⟩
  | cons group more => exact ⟨ends_cons.mpr (by decide), by simp [behindColons]⟩

/-- One group is read, and then the others. -/
theorem groups_cons {index : Nat} {text rest : List Char} (left : Nat) (group : UInt16)
    (unread : separated ':' index ipv4 text = none)
    (first : separated ':' index (Address.number 16 4 0xffff true) text
      = some (group.toNat, rest))
    : groups (left + 1) index text
      = (group :: (groups left (index + 1) rest).1, (groups left (index + 1) rest).2) := by
  simp [groups, unread, first]

/-- The first group is read from its digits, and the others behind it. -/
theorem groups_groupDigits (left : Nat) (group : UInt16) {rest : List Char}
    (ends : Ends 16 rest) (unpointed : rest.head? ≠ some '.')
    : groups (left + 1) 0 (groupDigits group ++ rest)
      = (group :: (groups left 1 rest).1, (groups left 1 rest).2) :=
  groups_cons left group
    (ipv4_of_undotted (undotted_groupDigits group (ends_ten ends) unpointed))
    (number_groupDigits group ends)

/-- No group is read where neither a number nor an address stands. -/
theorem groups_none {index : Nat} {text : List Char} (left : Nat)
    (unread : separated ':' index ipv4 text = none)
    (first : separated ':' index (Address.number 16 4 0xffff true) text = none)
    : groups left index text = ([], false, text) := by
  cases left with
  | zero => rfl
  | succ left => simp [groups, unread, first]

theorem ipv4_of_ends {text : List Char} (ends : Ends 16 text) (unpointed : text.head? ≠ some '.')
    : ipv4 text = none :=
  ipv4_of_undotted (undotted_of_ends (ends_ten ends) unpointed)

/-- Groups behind their colons are read up to a text that is closed to them, group by group. -/
theorem groups_behindColons {rest : List Char} (closed : Closed rest) (written : List UInt16)
    (left index : Nat) (room : written.length ≤ left)
    : groups left (index + 1) (behindColons written ++ rest) = (written, false, rest) := by
  induction written generalizing left index with
  | nil =>
      have ends (more : List Char) : Ends 16 (':' :: more) := ends_cons.mpr (by decide)
      refine groups_none left (closed.separated_none index fun more => ?_)
        (closed.separated_none index fun more => number_of_ends true (ends more))
      exact ipv4_of_ends (ends more) (by simp)
  | cons group written ih =>
      obtain ⟨left, rfl⟩ := Nat.exists_eq_add_of_lt room
      have following := closed_behindColons closed written
      have text : behindColons (group :: written) ++ rest
          = ':' :: (groupDigits group ++ (behindColons written ++ rest)) := by
        simp [behindColons]
      have unread : separated ':' (index + 1) ipv4
          (':' :: (groupDigits group ++ (behindColons written ++ rest))) = none := by
        simpa [separated, char] using ipv4_of_undotted
          (undotted_groupDigits group (ends_ten following.1) following.2)
      have first : separated ':' (index + 1) (Address.number 16 4 0xffff true)
          (':' :: (groupDigits group ++ (behindColons written ++ rest)))
          = some (group.toNat, behindColons written ++ rest) := by
        simpa [separated, char] using number_groupDigits group following.1
      rw [text, groups_cons _ group unread first, ih _ (index + 1) (by omega)]

/-- Groups by their position are read up to a text that is closed to them. -/
theorem groups_renderGroups {rest : List Char} (closed : Closed rest) (written : List UInt16)
    (left : Nat) (room : written.length ≤ left)
    : groups left 0 ((Ipv6.renderGroups written).toList ++ rest) = (written, false, rest) := by
  cases written with
  | nil =>
      have empty : (Ipv6.renderGroups []).toList = [] := by simp [Ipv6.renderGroups]
      rw [empty, List.nil_append]
      exact groups_none left (ipv4_of_ends closed.ends closed.unpointed)
        (number_of_ends true closed.ends)
  | cons group more =>
      obtain ⟨left, rfl⟩ := Nat.exists_eq_add_of_lt room
      have following := closed_behindColons closed more
      rw [toList_renderGroups, List.append_assoc,
        groups_groupDigits _ group following.1 following.2,
        groups_behindColons closed more _ 0 (by omega)]

-----------------------------------------------------------------------------------------
-- Runs of zero groups
-----------------------------------------------------------------------------------------

/-- The zero groups at the front are as many as their run, group by group. -/
theorem zeroRun_append (groups : List UInt16)
    : List.replicate (Ipv6.zeroRun groups) 0 ++ groups.drop (Ipv6.zeroRun groups)
      = groups := by
  induction groups with
  | nil => rfl
  | cons group rest ih =>
      by_cases zero : group = 0
      · have longer : Ipv6.zeroRun (group :: rest) = Ipv6.zeroRun rest + 1 := by
          simp [Ipv6.zeroRun, zero]
        rw [longer, List.replicate_succ, List.drop_succ_cons, List.cons_append, ih, zero]
      · have nothing : Ipv6.zeroRun (group :: rest) = 0 := by simp [Ipv6.zeroRun, zero]
        simp [nothing]

/-- The groups around a longest run, with the run between them, are all groups. -/
theorem splitAtRun_append {length : Nat} (groups : List UInt16)
    (longest : Ipv6.longestZeroRun groups = length) (positive : 0 < length)
    : (Ipv6.splitAtRun length groups).1 ++ List.replicate length 0
        ++ (Ipv6.splitAtRun length groups).2 = groups := by
  induction groups with
  | nil => simp [Ipv6.longestZeroRun] at longest; omega
  | cons group rest ih =>
      by_cases here : Ipv6.zeroRun (group :: rest) = length
      · simpa [Ipv6.splitAtRun, here] using here ▸ zeroRun_append (group :: rest)
      · have later : Ipv6.longestZeroRun rest = length := by
          simp only [Ipv6.longestZeroRun] at longest
          omega
        simpa [Ipv6.splitAtRun, here] using ih later

-----------------------------------------------------------------------------------------
-- IPv6 addresses
-----------------------------------------------------------------------------------------

theorem ipv6OfGroups?_groups (ip : Ipv6) : ipv6OfGroups? ip.groups.toList = some ip := by
  rw [ipv6OfGroups?, dif_pos (by simp)]
  rfl

/-- A group is put together from its two bytes. -/
theorem group_of_bytes (group : UInt16)
    : (group >>> 8).toUInt8.toUInt16 <<< 8 ||| group.toUInt8.toUInt16 = group := by
  have below : group.toNat < 65536 := group.toNat_lt
  have high : group.toNat >>> 8 % 256 = group.toNat / 256 := by
    rw [Nat.shiftRight_eq_div_pow]
    omega
  have fits : (group.toNat / 256) <<< 8 % 65536 = (group.toNat / 256) <<< 8 := by
    rw [Nat.shiftLeft_eq]
    omega
  have whole : (group.toNat / 256) <<< 8 ||| group.toNat % 256 = group.toNat := by
    rw [← Nat.shiftLeft_add_eq_or_of_lt (Nat.mod_lt _ (by decide) : group.toNat % 256 < 2 ^ 8),
      Nat.shiftLeft_eq]
    omega
  apply UInt16.toNat_inj.mp
  simp [-UInt16.toUInt16_toUInt8, high, fits, whole]

/-- A mapped address consists of zeros, its mark and the groups of the IPv4 address in it. -/
theorem groups_of_mapped {ip : Ipv6} {inner : Ipv4} (mapped : ip.mapped? = some inner)
    : ip.groups.toList = List.replicate 5 0 ++ 0xffff :: groupsOfIpv4 inner := by
  rw [Ipv6.mapped?] at mapped
  split at mapped
  · next high low groups =>
      rw [← Option.some.inj mapped, groupsOfIpv4, group_of_bytes, group_of_bytes]
      exact groups
  · contradiction

/-- The text of an IPv6 address: the mark of a mapped one and the IPv4 address in it, or all
groups, or those around the gap that the longest run of zeros leaves.
-/
theorem render_v6_cases (ip : Ipv6)
    : (∃ inner, ip.mapped? = some inner
        ∧ ip.render.toList = ':' :: ':' :: (groupDigits 0xffff ++ ':' :: inner.render.toList))
      ∨ ip.render.toList = (Ipv6.renderGroups ip.groups.toList).toList
      ∨ ∃ before zeros after, ip.groups.toList = before ++ List.replicate zeros 0 ++ after
        ∧ 2 ≤ zeros
        ∧ ip.render.toList = (Ipv6.renderGroups before).toList
          ++ ':' :: ':' :: (Ipv6.renderGroups after).toList := by
  rw [Ipv6.render]
  cases mapped : ip.mapped? with
  | some inner =>
      have mark : groupDigits 0xffff = ['f', 'f', 'f', 'f'] := by decide
      exact .inl ⟨inner, rfl, by simp [mark]⟩
  | none =>
      by_cases short : Ipv6.longestZeroRun ip.groups.toList < 2
      · exact .inr (.inl (by simp [short]))
      · refine .inr (.inr ⟨_, _, _, (splitAtRun_append ip.groups.toList rfl (by omega)).symm,
          by omega, by simp [short]⟩)

/-- Groups on both sides of a gap are read as the address whose other groups are zero. -/
theorem ipv6_of_gap {text behind rest : List Char} {ip : Ipv6} (before : List UInt16)
    {after : List UInt16} {embedded : Bool}
    (front : groups 8 0 text = (before, false, ':' :: ':' :: behind))
    (back : groups (7 - before.length) 0 behind = (after, embedded, rest))
    {zeros : Nat} (positive : 0 < zeros)
    (all : ip.groups.toList = before ++ List.replicate zeros 0 ++ after)
    : ipv6 text = some (ip, rest) := by
  have eight : before.length + zeros + after.length = 8 := by
    simpa [Nat.add_assoc] using (congrArg List.length all).symm
  have left : 8 - before.length - after.length = zeros := by omega
  have fewer : before.length ≠ 8 := by omega
  have read := ipv6OfGroups?_groups ip
  simp only [all, List.append_assoc] at read
  simp [ipv6, front, back, fewer, char, left, read]

/-- An IPv6 address is read from its text. -/
theorem ipv6_render (ip : Ipv6) {rest : List Char} (closed : Closed rest)
    : ipv6 (ip.render.toList ++ rest) = some (ip, rest) := by
  have eight : ip.groups.toList.length = 8 := by simp
  rcases render_v6_cases ip with
    ⟨inner, mapped, text⟩ | text | ⟨before, zeros, after, all, several, text⟩
  · -- The gap of a mapped address stands before its mark, and the IPv4 address for two groups.
    have front := groups_renderGroups
      (.gap (groupDigits 0xffff ++ ':' :: (inner.render.toList ++ rest))) [] 8 (by simp)
    have back : groups 7 0 (groupDigits 0xffff ++ ':' :: (inner.render.toList ++ rest))
        = (0xffff :: groupsOfIpv4 inner, true, rest) := by
      have colon : Ends 16 (':' :: (inner.render.toList ++ rest)) := ends_cons.mpr (by decide)
      rw [groups_groupDigits 6 0xffff colon (by simp)]
      simp [groups, separated, char, ipv4_render inner (ends_ten closed.ends)]
    have all : ip.groups.toList = [] ++ List.replicate 5 0 ++ 0xffff :: groupsOfIpv4 inner :=
      groups_of_mapped mapped
    refine ipv6_of_gap [] ?_ back (by decide) all
    simpa [text, Ipv6.renderGroups] using front
  · have front := groups_renderGroups closed ip.groups.toList 8 (by omega)
    have read := ipv6OfGroups?_groups ip
    simp only [ipv6, text, front, eight, if_true, read]
    rfl
  · have lengths : before.length + zeros + after.length = 8 := by
      simpa [Nat.add_assoc] using (congrArg List.length all).symm
    have front := groups_renderGroups
      (.gap ((Ipv6.renderGroups after).toList ++ rest)) before 8 (by omega)
    have back := groups_renderGroups closed after (7 - before.length) (by omega)
    refine ipv6_of_gap before ?_ back (by omega) all
    simpa [text] using front

theorem undotted_renderGroups (written : List UInt16) {rest : List Char} (closed : Closed rest)
    : Undotted ((Ipv6.renderGroups written).toList ++ rest) := by
  cases written with
  | nil =>
      simpa [Ipv6.renderGroups] using undotted_of_ends (ends_ten closed.ends) closed.unpointed
  | cons group more =>
      have following := closed_behindColons closed more
      rw [toList_renderGroups, List.append_assoc]
      exact undotted_groupDigits group (ends_ten following.1) following.2

/-- No IPv4 address is read from the text of an IPv6 address. -/
theorem ipv4_render_v6 (ip : Ipv6) {rest : List Char} (closed : Closed rest)
    : ipv4 (ip.render.toList ++ rest) = none := by
  apply ipv4_of_undotted
  rcases render_v6_cases ip with ⟨inner, -, text⟩ | text | ⟨before, -, after, -, -, text⟩
  · simpa [text, Ipv6.renderGroups] using undotted_renderGroups []
      (.gap (groupDigits 0xffff ++ ':' :: (inner.render.toList ++ rest)))
  · simpa [text] using undotted_renderGroups _ closed
  · simpa [text] using undotted_renderGroups before
      (.gap ((Ipv6.renderGroups after).toList ++ rest))

-----------------------------------------------------------------------------------------
-- Whole texts
-----------------------------------------------------------------------------------------

theorem port_toDigits (port : UInt16)
    : Address.port (':' :: Nat.toDigits 10 port.toNat) = some (port, []) := by
  have below : port.toNat < 65536 := port.toNat_lt
  have read : longNumber 65535 (Nat.toDigits 10 port.toNat ++ []) = some (port.toNat, []) :=
    longNumber_toDigits (by omega) ends_nil
  rw [List.append_nil] at read
  simp [Address.port, char, read]

/-- The text of a scope, which is not shown when it is 0. -/
def scopeText (scope : UInt32) : List Char :=
  if scope = 0 then [] else '%' :: Nat.toDigits 10 scope.toNat

theorem closed_scopeText (scope : UInt32) (more : List Char)
    : Closed (scopeText scope ++ ']' :: more) := by
  rw [scopeText]
  split
  · exact .bracket more
  · exact .scope _

theorem scope_scopeText (scope : UInt32) (more : List Char)
    : Address.scope (scopeText scope ++ ']' :: more) = (scope, ']' :: more) := by
  have below : scope.toNat < 4294967296 := scope.toNat_lt
  have read : longNumber 4294967295 (Nat.toDigits 10 scope.toNat ++ ']' :: more)
      = some (scope.toNat, ']' :: more) :=
    longNumber_toDigits (by omega) (ends_cons.mpr (by decide))
  by_cases zero : scope = 0
  · simp [scopeText, zero, Address.scope, char]
  · simp [scopeText, zero, Address.scope, char, read]

end Address

open Address Numeral

/-- An IP address is read from its text. -/
theorem IpAddress.ofText?_render (ip : IpAddress) : ofText? ip.render = some ip := by
  cases ip with
  | v4 ip =>
      have read := ipv4_render ip ends_nil
      rw [List.append_nil] at read
      simp [ofText?, whole?, IpAddress.render, read]
  | v6 ip =>
      have read := ipv6_render ip .nothing
      have other := ipv4_render_v6 ip .nothing
      rw [List.append_nil] at read other
      simp [ofText?, whole?, IpAddress.render, read, other]

/-- An address with a port is read from its text, with its scope. -/
theorem SocketAddress.ofText?_render (address : SocketAddress)
    : ofText? address.render = some address := by
  cases address with
  | v4 ip port =>
      have ends : Ends 10 (':' :: Nat.toDigits 10 port.toNat) := ends_cons.mpr (by decide)
      have read := ipv4_render ip ends
      simp [ofText?, whole?, SocketAddress.render, socketV4, read, port_toDigits]
  | v6 ip port scope =>
      have text : (SocketAddress.v6 ip port scope).render.toList
          = '[' :: (ip.render.toList
            ++ (scopeText scope ++ ']' :: ':' :: Nat.toDigits 10 port.toNat)) := by
        by_cases zero : scope = 0 <;> simp [SocketAddress.render, scopeText, zero]
      have other (more : List Char) : ipv4 ('[' :: more) = none :=
        ipv4_of_ends (ends_cons.mpr (by decide)) (by simp)
      simp [ofText?, whole?, text, socketV4, socketV6, other, char,
        ipv6_render ip (closed_scopeText scope _), scope_scopeText, port_toDigits]

end Handheld
