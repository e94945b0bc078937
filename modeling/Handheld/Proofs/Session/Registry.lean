import Mathlib.Data.List.Nodup
import Handheld.Proofs.Session.Progress
import Handheld.Session.Registry

/-! Registries over a run. Sessions are found by their keys, each operation touches the entry
of its own key alone, and no key is given twice. Main statement: however a registry changes,
its keys rise in the order of admission and stay below the next number.
-/

namespace Handheld

namespace Registry

-----------------------------------------------------------------------------------------
-- Finding entries
-----------------------------------------------------------------------------------------

theorem mem_of_find? {registry : Registry} {id : SessionId} {entry : Entry}
    (found : registry.find? id = some entry)
    : entry ∈ registry.entries ∧ entry.key = id :=
  ⟨List.mem_of_find?_eq_some found, by simpa using List.find?_some found⟩

/-- A new session is behind all others, so that an older one is found as before. -/
theorem find?_accept {registry : Registry} {id : SessionId} (known : id.number < registry.next)
    (peer : Peer) (now : Moment)
    : (registry.accept peer now).2.find? id = registry.find? id := by
  rw [accept]
  split
  · rfl
  · have other : (⟨registry.next⟩ : SessionId) ≠ id := by
      rintro rfl
      exact Nat.lt_irrefl _ known
    simp only [find?, List.find?_append, List.find?_cons, other, decide_false, List.find?_nil,
      Option.or_none]

/-- An admission means that there was room, and the new session has the next number. -/
theorem accept_eq_admitted {registry next : Registry} {peer : Peer} {now : Moment}
    {id : SessionId} (admitted : registry.accept peer now = (.admitted id, next))
    : registry.size < registry.capacity
      ∧ id = ⟨registry.next⟩
      ∧ next = { registry with
          next := registry.next + 1
          entries := registry.entries ++ [⟨id, .start id peer now, .readable⟩] } := by
  rw [accept] at admitted
  split at admitted
  · cases admitted
  next room =>
    cases admitted
    exact ⟨by simpa [isFull] using room, rfl, rfl⟩

theorem accept_eq_rejected {registry next : Registry} {peer : Peer} {now : Moment}
    (rejected : registry.accept peer now = (.rejected, next))
    : next = registry := by
  rw [accept] at rejected
  split at rejected
  · cases rejected
    rfl
  · cases rejected

/-- Changes that leave every key are found where the entries were. -/
theorem find?_map {change : Entry → Entry} (keys : ∀ entry, (change entry).key = entry.key)
    (registry : Registry) (id : SessionId)
    : ({ registry with entries := registry.entries.map change } : Registry).find? id
      = (registry.find? id).map change := by
  have same
      : (fun entry : Entry => decide (entry.key = id)) ∘ change
        = fun entry => decide (entry.key = id) := by
    funext entry
    simp [keys]
  rw [find?, List.find?_map, same]
  rfl

theorem ids_map {change : Entry → Entry} (keys : ∀ entry, (change entry).key = entry.key)
    (registry : Registry)
    : ({ registry with entries := registry.entries.map change } : Registry).ids
      = registry.ids := by
  rw [ids, List.map_map]
  exact List.map_congr_left fun entry _ => keys entry

/-- A changed entry is found under its own key alone. -/
theorem find?_put (registry : Registry) (changed : Entry) (id : SessionId)
    : (registry.put changed).find? id
      = if changed.key = id then (registry.find? id).map fun _ => changed
        else registry.find? id := by
  rw [put, find?_map (fun entry => by split <;> simp [*])]
  cases found : registry.find? id with
  | none => simp
  | some entry =>
      have key := (mem_of_find? found).2
      by_cases same : changed.key = id
      · simp [key, same]
      · simp [key, same, Ne.symm same]

/-- A removed session is not found any more, and every other one as before. -/
theorem find?_remove (registry : Registry) (removed id : SessionId)
    : (registry.remove removed).2.find? id
      = if removed = id then none else registry.find? id := by
  rw [remove, find?, List.find?_filter]
  by_cases same : removed = id
  · rw [if_pos same, List.find?_eq_none]
    simp [same]
  · rw [if_neg same, find?]
    congr 1
    funext entry
    by_cases key : entry.key = id <;> simp [key, Ne.symm same]

@[simp]
theorem find?_drain (registry : Registry) (id : SessionId)
    : registry.drain.2.find? id = none := rfl

@[simp]
theorem ids_put (registry : Registry) (changed : Entry)
    : (registry.put changed).ids = registry.ids :=
  ids_map (fun entry => by split <;> simp [*]) registry

theorem ids_remove (registry : Registry) (id : SessionId)
    : (registry.remove id).2.ids = registry.ids.filter (· ≠ id) := by
  simp [ids, remove, List.filter_map, Function.comp_def]

@[simp]
theorem ids_setInterest (registry : Registry) (id : SessionId) (interest : Interest)
    : (registry.setInterest id interest).ids = registry.ids :=
  ids_map (fun entry => by split <;> rfl) registry

-----------------------------------------------------------------------------------------
-- Changes
-----------------------------------------------------------------------------------------

/-- The ways in which a registry changes: it admits, removes and drains sessions, and a live
session changes by calls, perhaps with its readiness.
-/
inductive Evolves : Registry → Registry → Prop
  | refl (registry : Registry) : Evolves registry registry
  | trans {first second third} (left : Evolves first second) (right : Evolves second third)
    : Evolves first third
  | accept (registry : Registry) (peer : Peer) (now : Moment)
    : Evolves registry (registry.accept peer now).2
  | change {registry : Registry} {entry changed : Entry}
    (found : registry.find? changed.key = some entry) (calls : List Session.Call)
    (later : changed.session = entry.session.afterAll calls)
    : Evolves registry (registry.put changed)
  | remove (registry : Registry) (id : SessionId) : Evolves registry (registry.remove id).2
  | drain (registry : Registry) : Evolves registry registry.drain.2

/-- The keys rise in the order of admission and stay below the next number, and every entry
holds the session of its key in a state that calls can reach.
-/
structure WellFormed (registry : Registry) : Prop where
  ordered : registry.ids.Pairwise fun earlier later => earlier.number < later.number
  below : ∀ id ∈ registry.ids, id.number < registry.next
  own : ∀ entry ∈ registry.entries, entry.session.id = entry.key
  reachable : ∀ entry ∈ registry.entries, entry.session.Reachable

theorem wellFormed_empty (capacity : Nat) : (empty capacity).WellFormed where
  ordered := .nil
  below := by simp [ids, empty]
  own := by simp [empty]
  reachable := by simp [empty]

/-- A registry with fewer entries is well formed. -/
theorem WellFormed.sublist {registry : Registry} (wellFormed : registry.WellFormed)
    {entries : List Entry} (fewer : entries.Sublist registry.entries)
    : { registry with entries : Registry }.WellFormed where
  ordered := wellFormed.ordered.sublist (fewer.map _)
  below id member := wellFormed.below id ((fewer.map _).subset member)
  own entry member := wellFormed.own entry (fewer.subset member)
  reachable entry member := wellFormed.reachable entry (fewer.subset member)

theorem WellFormed.accept {registry : Registry} (wellFormed : registry.WellFormed)
    (peer : Peer) (now : Moment)
    : (registry.accept peer now).2.WellFormed := by
  rw [Registry.accept]
  split
  · exact wellFormed
  · refine { ordered := ?_, below := ?_, own := ?_, reachable := ?_ }
    · simp only [ids, List.map_append, List.map_cons, List.map_nil]
      refine List.pairwise_append.mpr ⟨wellFormed.ordered, List.pairwise_singleton _ _, ?_⟩
      intro id member last same
      rw [List.mem_singleton.mp same]
      exact wellFormed.below id member
    · intro id member
      simp only [ids, List.map_append, List.map_cons, List.map_nil, List.mem_append,
        List.mem_singleton] at member
      rcases member with member | rfl
      · exact Nat.lt_succ_of_lt (wellFormed.below id member)
      · exact Nat.lt_succ_self _
    · intro entry member
      rcases List.mem_append.mp member with member | member
      · exact wellFormed.own entry member
      · rw [List.mem_singleton.mp member]
        rfl
    · intro entry member
      rcases List.mem_append.mp member with member | member
      · exact wellFormed.reachable entry member
      · rw [List.mem_singleton.mp member]
        exact .start _ _ _

/-- Every entry after a change is the changed one or an old one. -/
theorem mem_put {registry : Registry} {changed entry : Entry}
    (member : entry ∈ (registry.put changed).entries)
    : entry = changed ∨ entry ∈ registry.entries := by
  obtain ⟨old, held, rfl⟩ := List.mem_map.mp member
  split
  · exact .inl rfl
  · exact .inr held

theorem WellFormed.change {registry : Registry} (wellFormed : registry.WellFormed)
    {entry changed : Entry} (found : registry.find? changed.key = some entry)
    (calls : List Session.Call) (later : changed.session = entry.session.afterAll calls)
    : (registry.put changed).WellFormed := by
  obtain ⟨held, key⟩ := mem_of_find? found
  have reached := wellFormed.reachable entry held
  refine { ordered := ?_, below := ?_, own := ?_, reachable := ?_ }
  · rw [ids_put]
    exact wellFormed.ordered
  · rw [ids_put]
    exact wellFormed.below
  · intro other member
    rcases mem_put member with rfl | member
    · rw [later, (reached.coherent.afterAll calls).1.id_eq, wellFormed.own entry held, key]
    · exact wellFormed.own other member
  · intro other member
    rcases mem_put member with rfl | member
    · rw [later]
      exact reached.afterAll calls
    · exact wellFormed.reachable other member

/-- A registry stays well formed and gives only new numbers, by induction on its changes. -/
theorem Evolves.wellFormed {registry next : Registry} (evolves : Evolves registry next)
    (wellFormed : registry.WellFormed)
    : next.WellFormed := by
  induction evolves with
  | refl => exact wellFormed
  | trans _ _ left right => exact right (left wellFormed)
  | accept registry peer now => exact wellFormed.accept peer now
  | change found calls later => exact wellFormed.change found calls later
  | remove registry id => exact wellFormed.sublist List.filter_sublist
  | drain registry => exact wellFormed.sublist (List.nil_sublist _)

theorem Evolves.next_le {registry next : Registry} (evolves : Evolves registry next)
    : registry.next ≤ next.next := by
  induction evolves with
  | refl => exact Nat.le_refl _
  | trans _ _ left right => exact Nat.le_trans left right
  | accept registry peer now =>
      rw [Registry.accept]
      split
      · exact Nat.le_refl _
      · exact Nat.le_succ _
  | change found calls later => exact Nat.le_refl _
  | remove registry id => exact Nat.le_refl _
  | drain registry => exact Nat.le_refl _

theorem Evolves.capacity_eq {registry next : Registry} (evolves : Evolves registry next)
    : next.capacity = registry.capacity := by
  induction evolves with
  | refl => rfl
  | trans _ _ left right => exact right.trans left
  | accept registry peer now =>
      rw [Registry.accept]
      split <;> rfl
  | change found calls later => rfl
  | remove registry id => rfl
  | drain registry => rfl

/-- Only an admission makes a registry larger, and a full one admits nobody. -/
theorem Evolves.size_le {registry next : Registry} (evolves : Evolves registry next)
    (fits : registry.size ≤ registry.capacity)
    : next.size ≤ next.capacity := by
  induction evolves with
  | refl => exact fits
  | trans _ _ left right => exact right (left fits)
  | accept registry peer now =>
      rw [Registry.accept]
      split
      · exact fits
      next room =>
        have below : registry.size < registry.capacity := by simpa [isFull] using room
        simpa [size, Nat.succ_le_iff] using below
  | change found calls later => simpa [size, put] using fits
  | remove registry id => exact Nat.le_trans (List.length_filter_le _ _) fits
  | drain registry => exact Nat.zero_le _

/-- No key occurs twice. -/
theorem WellFormed.nodup {registry : Registry} (wellFormed : registry.WellFormed)
    : registry.ids.Nodup :=
  wellFormed.ordered.imp fun less same => Nat.ne_of_lt less (congrArg SessionId.number same)

/-- A key has one entry, so that every entry is found by its key. -/
theorem WellFormed.find?_eq_some_iff {registry : Registry} (wellFormed : registry.WellFormed)
    {id : SessionId} {entry : Entry}
    : registry.find? id = some entry ↔ entry ∈ registry.entries ∧ entry.key = id := by
  refine ⟨mem_of_find?, fun ⟨member, key⟩ => ?_⟩
  have some : (registry.find? id).isSome := by
    rw [find?, List.find?_isSome]
    exact ⟨entry, member, by simp [key]⟩
  obtain ⟨other, found⟩ := Option.isSome_iff_exists.mp some
  obtain ⟨held, sameKey⟩ := mem_of_find? found
  have same : other = entry :=
    List.inj_on_of_nodup_map wellFormed.nodup held member (sameKey.trans key.symm)
  rw [found, same]

/-- A removed number is missing, and nothing else. -/
theorem WellFormed.ids_remove_perm {registry : Registry} (wellFormed : registry.WellFormed)
    {entry : Entry} (held : entry ∈ registry.entries)
    : ((registry.remove entry.key).2.ids ++ [entry.key]).Perm registry.ids := by
  have live : entry.key ∈ registry.ids := List.mem_map_of_mem held
  have erased : (registry.remove entry.key).2.ids = registry.ids.erase entry.key := by
    rw [ids_remove, wellFormed.nodup.erase_eq_filter]
    exact List.filter_congr fun id _ => by by_cases same : id = entry.key <;> simp [same]
  rw [erased]
  exact List.perm_append_comm.trans (List.perm_cons_erase live).symm

/-- A found session is one whose number has been given. -/
theorem WellFormed.known {registry : Registry} (wellFormed : registry.WellFormed)
    {id : SessionId} (live : (registry.find? id).isSome)
    : id.number < registry.next := by
  obtain ⟨entry, found⟩ := Option.isSome_iff_exists.mp live
  obtain ⟨held, rfl⟩ := mem_of_find? found
  exact wellFormed.below entry.key (List.mem_map_of_mem held)

/-- Other readiness is a change of one entry that makes no call on its session. -/
theorem WellFormed.setInterest_evolves {registry : Registry}
    (wellFormed : registry.WellFormed) (id : SessionId) (interest : Interest)
    : Evolves registry (registry.setInterest id interest) := by
  cases found : registry.find? id with
  | none =>
      have kept : registry.setInterest id interest = registry := by
        rw [find?, List.find?_eq_none] at found
        have same
            : registry.entries.map
                (fun entry => if entry.key = id then { entry with interest } else entry)
              = registry.entries.map fun entry => entry :=
          List.map_congr_left fun entry held => if_neg (by simpa using found entry held)
        rw [setInterest, same, List.map_id']
      rw [kept]
      exact .refl registry
  | some entry =>
      obtain ⟨held, rfl⟩ := mem_of_find? found
      have put
          : registry.setInterest entry.key interest = registry.put { entry with interest } := by
        rw [setInterest, Registry.put]
        congr 1
        refine List.map_congr_left fun other member => ?_
        split
        next same =>
          have only : registry.find? entry.key = some other :=
            wellFormed.find?_eq_some_iff.mpr ⟨member, same⟩
          rw [Option.some.inj (only.symm.trans found)]
        · rfl
      have changes : Evolves registry (registry.put { entry with interest }) :=
        .change found [] rfl
      rw [put]
      exact changes

/-- The keys of some of the entries differ as those of all of them do. -/
theorem WellFormed.nodup_filter {registry : Registry} (wellFormed : registry.WellFormed)
    (choice : Entry → Bool)
    : ((registry.entries.filter choice).map (·.key)).Nodup :=
  wellFormed.nodup.sublist (List.filter_sublist.map _)

theorem WellFormed.mem_filter_keys {registry : Registry} (wellFormed : registry.WellFormed)
    {choice : Entry → Bool} {id : SessionId}
    : id ∈ (registry.entries.filter choice).map (·.key)
      ↔ (registry.find? id).any choice = true := by
  rw [Option.any_eq_true]
  simp only [wellFormed.find?_eq_some_iff, List.mem_map, List.mem_filter]
  constructor
  · rintro ⟨entry, ⟨held, chosen⟩, key⟩
    exact ⟨entry, ⟨held, key⟩, chosen⟩
  · rintro ⟨entry, ⟨held, key⟩, chosen⟩
    exact ⟨entry, ⟨held, chosen⟩, key⟩

/-- The keys of chosen entries stand in the order of all keys. -/
theorem WellFormed.keys_filter {registry : Registry} (wellFormed : registry.WellFormed)
    (choice : Session → Bool)
    : (registry.entries.filter fun entry => choice entry.session).map (·.key)
      = registry.ids.filter fun id => (registry.get? id).any choice := by
  rw [ids, List.filter_map]
  congr 1
  refine List.filter_congr fun entry held => ?_
  have found : registry.find? entry.key = some entry :=
    wellFormed.find?_eq_some_iff.mpr ⟨held, rfl⟩
  simp [get?, found]

/-- Among entries with different keys, what is said of the one with a key is said once. -/
theorem filterMap_key {β : Type} {entries : List Entry} {id : SessionId}
    (nodup : (entries.map (·.key)).Nodup) (say : Entry → β)
    : entries.filterMap (fun entry => if entry.key = id then some (say entry) else none)
      = ((entries.find? fun entry => entry.key = id).map say).toList := by
  induction entries with
  | nil => rfl
  | cons entry rest ih =>
      obtain ⟨fresh, nodup⟩ := List.nodup_cons.mp nodup
      by_cases same : entry.key = id
      · have none : rest.filterMap
              (fun entry => if entry.key = id then some (say entry) else none) = [] := by
          simp only [List.filterMap_eq_nil_iff, ite_eq_right_iff]
          intro other member key
          exact absurd (List.mem_map.mpr ⟨other, member, key.trans same.symm⟩) fresh
        simp [same, none]
      · simp [same, ih nodup]

end Registry

end Handheld
