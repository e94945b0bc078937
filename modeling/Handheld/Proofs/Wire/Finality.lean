import Handheld.Proofs.Wire.RoundTrip

/-! A verdict of the decoder is final and comes at the last byte that it needs. Main
statements: more bytes never change a verdict that was reached, and a part of the bytes that
a verdict uses up reaches none.
-/

namespace Handheld

namespace Wire

/-- What was judged stays judged when more bytes arrive, by cases on the way to the verdict. -/
theorem Judged.append {received : Bytes} {verdict : Verdict}
    (judged : Judged received verdict) (decided : verdict ≠ .incomplete) (later : Bytes)
    : Judged (received ++ later) verdict := by
  cases judged with
  | heartbeat rest =>
      rw [List.append_assoc]
      exact .heartbeat (rest ++ later)
  | length apart outside =>
      rw [List.append_assoc]
      exact .length (List.append_assoc _ _ later ▸ apart.append later) outside
  | unknownTag positive within unknown =>
      rw [List.append_assoc, List.cons_append]
      exact .unknownTag positive within unknown
  | size positive within refused =>
      rw [List.append_assoc, List.cons_append]
      exact .size positive within refused
  | body sized allowed refused =>
      rw [List.append_assoc, List.cons_append, List.append_assoc]
      exact .body sized allowed refused
  | complete whole rest =>
      rw [List.append_assoc]
      exact .complete whole (rest ++ later)
  | begunHeartbeat _ _ => exact absurd rfl decided
  | shortLength _ _ => exact absurd rfl decided
  | noTag _ _ => exact absurd rfl decided
  | shortBody _ _ => exact absurd rfl decided

theorem decode_append {received : Bytes} (decided : decode received ≠ .incomplete)
    (later : Bytes)
    : decode (received ++ later) = decode received :=
  ((judged_decode received).append decided later).decode_eq

/-- A verdict uses up only bytes that have arrived. -/
theorem consumed_le_length (received : Bytes)
    : (decode received).consumed ≤ received.length := by
  have judged := judged_decode received
  generalize decode received = verdict at judged
  cases judged with
  | heartbeat rest => exact (List.prefix_append heartbeat rest).length_le
  | complete whole rest => exact (List.prefix_append _ rest).length_le
  | _ => exact Nat.zero_le _

/-- Bytes that may still become an item are fewer than those of the longest frame. -/
theorem length_le_of_incomplete {received : Bytes} (waiting : decode received = .incomplete)
    : received.length ≤ 148 := by
  cases judged_iff.mpr waiting with
  | begunHeartbeat begun short =>
      have : heartbeat.length = 6 := rfl
      omega
  | shortLength apart short => omega
  | noTag positive within => simp
  | shortBody allowed short =>
      have bounds := within_of_checkSize allowed
      simp only [List.length_append, Bytes.length_ofNat, List.length_cons]
      omega

/-- A verdict that is reached holds whatever follows, uses up only bytes that are there, and
is not reached from fewer bytes than it uses up.
-/
theorem verdict_final (received later : Bytes)
    : (decode received ≠ .incomplete → decode (received ++ later) = decode received)
      ∧ (decode received).consumed ≤ received.length
      ∧ ∀ part,
          part <+: received.take (decode received).consumed
          → part.length < (decode received).consumed
          → decode part = .incomplete := by
  refine ⟨fun decided => decode_append decided later, consumed_le_length received, ?_⟩
  intro part begun short
  obtain ⟨behind, whole⟩ := begun.trans (List.take_prefix _ received)
  -- An early verdict would be that on all bytes, which uses up more than the part has.
  by_cases decided : decode part = .incomplete
  · exact decided
  · have same := decode_append decided behind
    rw [whole] at same
    have enough := consumed_le_length part
    rw [← same] at enough
    omega

/-- A polling request with the beginning of a heartbeat behind it, and without its last byte. -/
theorem verdict_final_config
    : decode [5, 0, 0, 0, 2, 0x70, 0x17, 0, 0] = .complete (.config 6000) 9
      ∧ decode ([5, 0, 0, 0, 2, 0x70, 0x17, 0, 0] ++ [0xff, 0xff])
        = .complete (.config 6000) 9
      ∧ decode [5, 0, 0, 0, 2, 0x70, 0x17, 0] = .incomplete := by
  have final := verdict_final [5, 0, 0, 0, 2, 0x70, 0x17, 0, 0] [0xff, 0xff]
  have reached : decode [5, 0, 0, 0, 2, 0x70, 0x17, 0, 0] = .complete (.config 6000) 9 := by
    decide
  exact ⟨reached, (final.1 (by decide)).trans reached, final.2.2 _ (by decide) (by decide)⟩

end Wire

end Handheld
