import Handheld.Proofs.Session.Registry

/-! Registries with their history: the numbers they have given out and those of the sessions
that have left. Main statement: the live sessions are the admitted ones that have not left, in
the order of admission, and the token of one that has left resolves to no session, whatever
is admitted later.
-/

namespace Handheld

namespace Registry

-----------------------------------------------------------------------------------------
-- Tokens
-----------------------------------------------------------------------------------------

theorem toNat_tokenBase : tokenBase.toNat = 16 := rfl

theorem toNat_tokenFor {id : SessionId} (small : id.number < 2 ^ 64 - 16)
    : (tokenFor id).toNat = 16 + id.number := by
  rw [tokenFor, UInt64.toNat_add, UInt64.toNat_ofNat', toNat_tokenBase]
  omega

/-- A number is read back from its token. -/
theorem idFor?_tokenFor {id : SessionId} (small : id.number < 2 ^ 64 - 16)
    : idFor? (tokenFor id) = some id := by
  have token := toNat_tokenFor small
  have above : ¬tokenFor id < tokenBase := by
    rw [UInt64.lt_iff_toNat_lt, token, toNat_tokenBase]
    omega
  have base : tokenBase ≤ tokenFor id := UInt64.not_lt.mp above
  rw [idFor?, if_neg above, UInt64.toNat_sub_of_le _ _ base, token, toNat_tokenBase,
    Nat.add_sub_cancel_left]

/-- The token of a number that is too large belongs to no session at all. -/
theorem idFor?_tokenFor_of_le {id : SessionId} (large : 2 ^ 64 - 16 ≤ id.number)
    (word : id.number < 2 ^ 64)
    : idFor? (tokenFor id) = none := by
  have below : tokenFor id < tokenBase := by
    rw [UInt64.lt_iff_toNat_lt, tokenFor, UInt64.toNat_add, UInt64.toNat_ofNat',
      toNat_tokenBase]
    omega
  rw [idFor?, if_pos below]

/-- The token of a session is none of the listener and the waker. -/
theorem tokenFor_ne_of_lt {id : SessionId} (small : id.number < 2 ^ 64 - 16) {token : Token}
    (reserved : token < tokenBase)
    : tokenFor id ≠ token := by
  rintro rfl
  rw [UInt64.lt_iff_toNat_lt, toNat_tokenFor small, toNat_tokenBase] at reserved
  omega

-----------------------------------------------------------------------------------------
-- Histories
-----------------------------------------------------------------------------------------

/-- One operation on a registry; a stream can always be registered for readiness. -/
inductive Operation
  | accept (peer : Peer) (now : Moment)
  | remove (id : SessionId)
  | drain
  | call (id : SessionId) (call : Session.Call)
  | setInterest (id : SessionId) (interest : Interest)

/-- A registry with the numbers that it has given out and the numbers of the sessions that were
removed or drained, each in the order of time.
-/
structure History where
  registry : Registry
  admitted : List SessionId := []
  departed : List SessionId := []

namespace History

def operate (history : History) : Operation → History
  | .accept peer now =>
      match history.registry.accept peer now with
      | (.admitted id, registry) =>
          { history with registry, admitted := history.admitted ++ [id] }
      | (.rejected, registry) => { history with registry }
  | .remove id =>
      let (removed, registry) := history.registry.remove id
      { history with
        registry
        departed := history.departed ++ (removed.map (·.id)).toList }
  | .drain =>
      let (drained, registry) := history.registry.drain
      { history with registry, departed := history.departed ++ drained.map (·.id) }
  | .call id call =>
      match history.registry.find? id with
      | none => history
      | some entry =>
          let called := { entry with session := entry.session.after call }
          { history with registry := history.registry.put called }
  | .setInterest id interest =>
      { history with registry := history.registry.setInterest id interest }

/-- The history of a registry from its beginning. -/
def run (capacity : Nat) (operations : List Operation) : History :=
  operations.foldl operate { registry := .empty capacity }

/-- The registry is well formed and within its capacity, numbers were given out in rising
order, and the live ones are those that have not departed.
-/
structure Sound (history : History) : Prop where
  wellFormed : history.registry.WellFormed
  fits : history.registry.size ≤ history.registry.capacity
  rising : history.admitted.Pairwise fun earlier later => earlier.number < later.number
  below : ∀ id ∈ history.admitted, id.number < history.registry.next
  departed_subset : history.departed ⊆ history.admitted
  ids_eq : history.registry.ids = history.admitted.filter fun id => id ∉ history.departed

theorem sound_empty (capacity : Nat) : Sound { registry := .empty capacity } where
  wellFormed := wellFormed_empty capacity
  fits := Nat.zero_le _
  rising := .nil
  below := by simp
  departed_subset := by simp
  ids_eq := rfl

/-- A change that keeps every session at its place keeps a history sound. -/
theorem Sound.replace {history : History} (sound : history.Sound) {registry : Registry}
    (evolves : Evolves history.registry registry)
    (ids : registry.ids = history.registry.ids)
    : Sound { history with registry } where
  wellFormed := evolves.wellFormed sound.wellFormed
  fits := evolves.size_le sound.fits
  rising := sound.rising
  below id given := Nat.lt_of_lt_of_le (sound.below id given) evolves.next_le
  departed_subset := sound.departed_subset
  ids_eq := ids.trans sound.ids_eq

/-- A new number is larger than all that were given before, so that it has not departed. -/
theorem Sound.accept {history : History} (sound : history.Sound) (peer : Peer)
    (now : Moment)
    : (history.operate (.accept peer now)).Sound := by
  have evolves := Evolves.accept history.registry peer now
  rw [operate]
  split
  next id registry admitted =>
    rw [admitted] at evolves
    obtain ⟨_, rfl, rfl⟩ := accept_eq_admitted admitted
    have fresh : (⟨history.registry.next⟩ : SessionId) ∉ history.admitted :=
      fun given => Nat.lt_irrefl _ (sound.below _ given)
    refine {
      wellFormed := evolves.wellFormed sound.wellFormed
      fits := evolves.size_le sound.fits
      rising := ?_
      below := ?_
      departed_subset := ?_
      ids_eq := ?_
    }
    · refine List.pairwise_append.mpr ⟨sound.rising, List.pairwise_singleton _ _, ?_⟩
      intro id given last same
      rw [List.mem_singleton.mp same]
      exact sound.below id given
    · intro id given
      rcases List.mem_append.mp given with given | given
      · exact Nat.lt_succ_of_lt (sound.below id given)
      · rw [List.mem_singleton.mp given]
        exact Nat.lt_succ_self _
    · exact fun id gone => List.mem_append_left _ (sound.departed_subset gone)
    · have live : ⟨history.registry.next⟩ ∉ history.departed :=
        fun gone => fresh (sound.departed_subset gone)
      rw [List.filter_append, ← sound.ids_eq]
      simp [ids, live]
  next registry rejected =>
    have same := accept_eq_rejected rejected
    exact sound.replace (same ▸ .refl _) (congrArg ids same)

/-- What is removed has been admitted, and leaves the others in their order. -/
theorem Sound.remove {history : History} (sound : history.Sound) (id : SessionId)
    : (history.operate (.remove id)).Sound := by
  have evolves := Evolves.remove history.registry id
  have ids := ids_remove history.registry id
  rw [operate]
  dsimp only
  cases found : history.registry.find? id with
  | none =>
      have removed : (history.registry.remove id).1 = none := by
        simp [Registry.remove, get?, found]
      have absent : id ∉ history.registry.ids := by
        rw [find?, List.find?_eq_none] at found
        simpa [Registry.ids] using found
      have same := sound.replace evolves (ids.trans (List.filter_eq_self.mpr fun other live => by
        simpa using fun equal : other = id => absent (equal ▸ live)))
      simpa [removed] using same
  | some entry =>
      obtain ⟨held, key⟩ := mem_of_find? found
      have own := (sound.wellFormed.own entry held).trans key
      have removed : (history.registry.remove id).1 = some entry.session := by
        simp [Registry.remove, get?, found]
      have live : id ∈ history.registry.ids := List.mem_map.mpr ⟨entry, held, key⟩
      have given : id ∈ history.admitted := by
        rw [sound.ids_eq] at live
        exact List.mem_of_mem_filter live
      refine {
        wellFormed := evolves.wellFormed sound.wellFormed
        fits := evolves.size_le sound.fits
        rising := sound.rising
        below := sound.below
        departed_subset := ?_
        ids_eq := ?_
      }
      · simp [removed, own, sound.departed_subset, given]
      · rw [ids, sound.ids_eq, List.filter_filter]
        simp [removed, own, and_comm]

/-- Behind a drain every admitted number has departed. -/
theorem Sound.drain {history : History} (sound : history.Sound)
    : (history.operate .drain).Sound := by
  have evolves := Evolves.drain history.registry
  have ids : history.registry.drain.1.map (·.id) = history.registry.ids := by
    rw [Registry.drain, sessions, Registry.ids, List.map_map]
    exact List.map_congr_left sound.wellFormed.own
  have drained
      : history.operate .drain
        = { history with
            registry := history.registry.drain.2
            departed := history.departed ++ history.registry.ids } := by
    rw [operate, ← ids]
  rw [drained]
  refine {
    wellFormed := evolves.wellFormed sound.wellFormed
    fits := evolves.size_le sound.fits
    rising := sound.rising
    below := sound.below
    departed_subset := ?_
    ids_eq := ?_
  }
  · rw [sound.ids_eq]
    exact List.append_subset.mpr ⟨sound.departed_subset, List.filter_subset_self _⟩
  · symm
    refine List.filter_eq_nil_iff.mpr fun id given stays => ?_
    simp only [sound.ids_eq, List.mem_append, List.mem_filter, decide_eq_true_eq] at stays
    exact stays (.inr ⟨given, fun gone => stays (.inl gone)⟩)

/-- A call changes the session of one number, which stays where it is. -/
theorem Sound.call {history : History} (sound : history.Sound) (id : SessionId)
    (call : Session.Call)
    : (history.operate (.call id call)).Sound := by
  rw [operate]
  split
  · exact sound
  next entry found =>
    have live : history.registry.find? entry.key = some entry :=
      (mem_of_find? found).2 ▸ found
    let called := { entry with session := entry.session.after call }
    have changes : Evolves history.registry (history.registry.put called) :=
      .change live [call] rfl
    exact sound.replace changes (ids_put _ called)

/-- Every operation keeps a history sound. -/
theorem Sound.operate {history : History} (sound : history.Sound) (operation : Operation)
    : (history.operate operation).Sound := by
  cases operation with
  | accept peer now => exact sound.accept peer now
  | remove id => exact sound.remove id
  | drain => exact sound.drain
  | call id call => exact sound.call id call
  | setInterest id interest =>
      exact sound.replace (sound.wellFormed.setInterest_evolves id interest)
        (ids_setInterest _ id interest)

/-- No operation changes the capacity or takes back a departure. -/
theorem operate_keeps (history : History) (operation : Operation)
    : (history.operate operation).registry.capacity = history.registry.capacity
      ∧ history.departed ⊆ (history.operate operation).departed := by
  cases operation with
  | accept peer now =>
      have capacity := (Evolves.accept history.registry peer now).capacity_eq
      rw [History.operate]
      split
      all_goals
        next taken =>
          rw [taken] at capacity
          exact ⟨capacity, List.Subset.refl _⟩
  | remove id => exact ⟨rfl, List.subset_append_left _ _⟩
  | drain => exact ⟨rfl, List.subset_append_left _ _⟩
  | call id call =>
      rw [History.operate]
      split <;> exact ⟨rfl, List.Subset.refl _⟩
  | setInterest id interest => exact ⟨rfl, List.Subset.refl _⟩

/-- Operations keep a history sound and keep what a single one keeps, by induction on them. -/
theorem Sound.operateAll {history : History} (sound : history.Sound)
    (operations : List Operation)
    : (operations.foldl History.operate history).Sound
      ∧ (operations.foldl History.operate history).registry.capacity = history.registry.capacity
      ∧ history.departed ⊆ (operations.foldl History.operate history).departed := by
  induction operations generalizing history with
  | nil => exact ⟨sound, rfl, List.Subset.refl _⟩
  | cons operation rest ih =>
      obtain ⟨capacity, departed⟩ := history.operate_keeps operation
      obtain ⟨soundLater, capacityLater, departedLater⟩ := ih (sound.operate operation)
      exact ⟨soundLater, capacityLater.trans capacity, List.Subset.trans departed departedLater⟩

theorem sound_run (capacity : Nat) (operations : List Operation)
    : (run capacity operations).Sound :=
  ((sound_empty capacity).operateAll operations).1

theorem run_capacity (capacity : Nat) (operations : List Operation)
    : (run capacity operations).registry.capacity = capacity :=
  ((sound_empty capacity).operateAll operations).2.1

theorem Sound.mem_ids_iff {history : History} (sound : history.Sound) {id : SessionId}
    : id ∈ history.registry.ids ↔ id ∈ history.admitted ∧ id ∉ history.departed := by
  rw [sound.ids_eq, List.mem_filter, decide_eq_true_eq]

/-- The sessions themselves carry the numbers under which they are held. -/
theorem Sound.sessions_ids {history : History} (sound : history.Sound)
    : history.registry.sessions.map (·.id)
      = history.admitted.filter fun id => id ∉ history.departed := by
  rw [← sound.ids_eq, sessions, ids, List.map_map]
  exact List.map_congr_left sound.wellFormed.own

theorem Sound.get?_departed {history : History} (sound : history.Sound) {id : SessionId}
    (gone : id ∈ history.departed)
    : history.registry.get? id = none := by
  rw [get?, Option.map_eq_none_iff, find?, List.find?_eq_none]
  intro entry held same
  have live : entry.key ∈ history.registry.ids := List.mem_map_of_mem held
  rw [decide_eq_true_eq.mp same] at live
  exact (sound.mem_ids_iff.mp live).2 gone

/-- Live sessions are chosen in the order of their admission. -/
theorem Sound.keys_filter {history : History} (sound : history.Sound)
    (choice : Session → Bool)
    : (history.registry.entries.filter fun entry => choice entry.session).map (·.key)
      = history.admitted.filter fun id => (history.registry.get? id).any choice := by
  rw [sound.wellFormed.keys_filter, sound.ids_eq, List.filter_filter]
  refine List.filter_congr fun id given => ?_
  by_cases gone : id ∈ history.departed
  · simp [sound.get?_departed gone]
  · simp [gone]

/-- The token of a departed session resolves to none, also when it has wrapped around. -/
theorem Sound.token_unresolved {history : History} (sound : history.Sound) {id : SessionId}
    (gone : id ∈ history.departed) (word : id.number < 2 ^ 64)
    : (idFor? (tokenFor id)).bind history.registry.get? = none := by
  by_cases small : id.number < 2 ^ 64 - 16
  · rw [idFor?_tokenFor small, Option.bind_some, sound.get?_departed gone]
  · rw [idFor?_tokenFor_of_le (Nat.not_lt.mp small) word, Option.bind_none]

end History

/-- A stale token never reaches a newer session. Whatever is done to a registry, numbers are
given out in rising order, each live session has its own number, all listings follow the order
of admission, the capacity is kept, tokens stand for their numbers, and the token of a session
that was removed or drained resolves to none from then on.
-/
theorem departed_token_unresolved (capacity : Nat) (operations : List Operation)
    : let history := History.run capacity operations
      let registry := history.registry
      let live := history.admitted.filter fun id => id ∉ history.departed
      history.admitted.Pairwise (fun earlier later => earlier.number < later.number)
      ∧ (∀ entry ∈ registry.entries,
          entry.session.id = entry.key ∧ entry.key.number < registry.next)
      ∧ registry.sessions.map (·.id) = live
      ∧ registry.drain.1.map (·.id) = live
      ∧ (∀ now timeout,
          registry.expired now timeout
          = history.admitted.filter fun id =>
              (registry.get? id).any (·.isExpired now timeout))
      ∧ (∀ now,
          registry.due now
          = history.admitted.filter fun id => (registry.get? id).any (·.telemetryDue now))
      ∧ registry.size ≤ capacity
      ∧ (∀ id ∈ history.admitted,
          id.number < 2 ^ 64 - 16
          → idFor? (tokenFor id) = some id
            ∧ tokenFor id ≠ listenerToken
            ∧ tokenFor id ≠ wakerToken)
      ∧ ∀ id ∈ history.departed,
          id.number < 2 ^ 64
          → ∀ later,
              (idFor? (tokenFor id)).bind
                (History.run capacity (operations ++ later)).registry.get?
              = none := by
  intro history registry live
  have sound : history.Sound := History.sound_run capacity operations
  have within := Nat.le_trans sound.fits (Nat.le_of_eq (History.run_capacity capacity operations))
  refine ⟨sound.rising, fun entry held => ?_, sound.sessions_ids, sound.sessions_ids,
    fun now timeout => sound.keys_filter (·.isExpired now timeout),
    fun now => sound.keys_filter (·.telemetryDue now), within, fun id _ small => ?_,
    fun id gone word later => ?_⟩
  · exact ⟨sound.wellFormed.own entry held,
      sound.wellFormed.below entry.key (List.mem_map_of_mem held)⟩
  · exact ⟨idFor?_tokenFor small, tokenFor_ne_of_lt small (by decide),
      tokenFor_ne_of_lt small (by decide)⟩
  · obtain ⟨soundLater, _, departed⟩ := sound.operateAll later
    rw [History.run, List.foldl_append]
    exact soundLater.token_unresolved (departed gone) word

/-- A client leaves and comes back while another stays silent, and all leave at last. -/
theorem departed_token_unresolved_return
    : let peer : Peer := ⟨.v4 ⟨192, 168, 1, 20⟩, 41000, rfl, rfl, by decide⟩
      let other : Peer := ⟨.v4 ⟨192, 168, 1, 21⟩, 41000, rfl, rfl, by decide⟩
      let operations : List Operation :=
        [.accept peer 0, .accept other 1, .accept peer 2, .remove ⟨1⟩, .accept peer 3]
      let later : List Operation := [.drain, .accept other 4]
      let history := History.run 2 operations
      history.admitted = [⟨1⟩, ⟨2⟩, ⟨3⟩]
      ∧ history.departed = [⟨1⟩]
      ∧ history.registry.sessions.map (·.id) = [⟨2⟩, ⟨3⟩]
      ∧ history.registry.expired 10 8 = [⟨2⟩]
      ∧ (History.run 2 (operations ++ later)).registry.ids = [⟨4⟩]
      ∧ (idFor? (tokenFor ⟨1⟩)).bind
          (History.run 2 (operations ++ later)).registry.get?
        = none
      ∧ idFor? (tokenFor ⟨3⟩) = some ⟨3⟩ := by
  intro peer other operations later history
  obtain ⟨_, _, listed, _, expired, _, _, tokens, stale⟩ := departed_token_unresolved 2 operations
  have expired := expired 10 8
  have admitted : history.admitted = [⟨1⟩, ⟨2⟩, ⟨3⟩] := by decide +kernel
  have departed : history.departed = [⟨1⟩] := by decide +kernel
  refine ⟨admitted, departed, listed.trans (by decide +kernel),
    expired.trans (by decide +kernel), by decide +kernel, ?_, ?_⟩
  · exact stale ⟨1⟩ (by simp [departed, history]) (by decide) later
  · exact (tokens ⟨3⟩ (by simp [admitted, history]) (by decide)).1

end Registry

end Handheld
