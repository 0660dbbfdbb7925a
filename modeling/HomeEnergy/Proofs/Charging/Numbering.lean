import HomeEnergy.Proofs.Charging.Books

/-!
The ids of transactions. They are handed out from one counter, one after another and each of them
once, whoever asks and whether or not there is a session: the ids of a run are the first ids of the
counter (`Central.issued_eq`). The counter is a 32-bit integer and comes round after the largest
one, so the ids increase as long as there are fewer than `2 ^ 31` of them, and no longer.
-/

namespace HomeEnergy.Charging

open Ocpp (Request)

namespace Central

theorem nextTransactionId_answer (c : Central) (cp : String) (now : Timestamp) (req : Request) :
    ((c.answer cp now req).response.transactionId? = none ∧
      (c.answer cp now req).central.nextTransactionId = c.nextTransactionId) ∨
    ((c.answer cp now req).response.transactionId? = some c.nextTransactionId ∧
      (c.answer cp now req).central.nextTransactionId = c.nextTransactionId + 1) := by
  cases req with
  | startTransaction req =>
    exact Or.inr ⟨rfl, nextTransactionId_updateSession c.allocateTransactionId.2 cp _⟩
  | stopTransaction req =>
    refine Or.inl ?_
    unfold answer onStopTransaction
    dsimp only
    split
    · exact ⟨rfl, nextTransactionId_updateSession c cp _⟩
    · exact ⟨rfl, rfl⟩
  | bootNotification req => exact Or.inl ⟨rfl, nextTransactionId_updateSession c cp _⟩
  | heartbeat => exact Or.inl ⟨rfl, nextTransactionId_updateSession c cp _⟩
  | statusNotification req => exact Or.inl ⟨rfl, nextTransactionId_updateSession c cp _⟩
  | authorize req => exact Or.inl ⟨rfl, rfl⟩
  | meterValues req => exact Or.inl ⟨rfl, rfl⟩
  | dataTransfer req => exact Or.inl ⟨rfl, rfl⟩

theorem nextTransactionId_unregister (c : Central) (cp : String) (id : UInt64) :
    (c.unregister cp id).2.nextTransactionId = c.nextTransactionId := by
  unfold unregister
  split
  · split <;> rfl
  · rfl

/-- An event hands out nothing and leaves the counter alone, or hands out what the counter is at and
moves it on by one. -/
theorem handsOut?_cases (c : Central) (e : Event) :
    (c.handsOut? e = none ∧ (c.after e).nextTransactionId = c.nextTransactionId) ∨
    (c.handsOut? e = some c.nextTransactionId ∧
      (c.after e).nextTransactionId = c.nextTransactionId + 1) := by
  rcases c.after_cases e with ⟨cp, now, rfl⟩ | ⟨cp, id, rfl⟩ | ⟨cp, now, text, req, rfl, hreq⟩ |
    ⟨hbooks, hnone⟩
  · exact Or.inl ⟨rfl, rfl⟩
  · exact Or.inl ⟨rfl, c.nextTransactionId_unregister cp id⟩
  · have hafter : c.after (.text cp now text) = (c.answer cp now req).central :=
      (receive_of_request c cp now hreq).1
    rw [c.handsOut?_of_request cp now hreq, hafter]
    exact c.nextTransactionId_answer cp now req
  · refine Or.inl ⟨?_, hbooks.next_eq⟩
    cases e with
    | text cp now text => exact c.handsOut?_of_no_request cp now (hnone cp now text rfl)
    | register _ _ | unregister _ _ | hangUp _ | call _ _ _ _ _ => rfl

/-- The ids of a run of any length are the first ids of the counter, in their order. -/
theorem issued_eq (heartbeatInterval : UInt32) (events : List Event) :
    (fresh heartbeatInterval).issued events =
      firstIds ((fresh heartbeatInterval).issued events).length ∧
    ((fresh heartbeatInterval).run events).nextTransactionId =
      Int32.ofNat (((fresh heartbeatInterval).issued events).length + 1) := by
  unfold issued
  induction events using List.reverseRecOn with
  | nil => exact ⟨rfl, rfl⟩
  | append_singleton events e ih =>
    obtain ⟨hissued, hnext⟩ := ih
    rw [run_concat, gathered_concat]
    rcases ((fresh heartbeatInterval).run events).handsOut?_cases e with
      ⟨hnone, hsame⟩ | ⟨hsome, hmoved⟩
    · rw [hnone, Option.toList_none, List.append_nil, hsame]
      exact ⟨hissued, hnext⟩
    · rw [hsome, hmoved, hnext, Option.toList_some, List.length_append, List.length_singleton,
        Int32.ofNat_add (_ + 1)]
      refine ⟨?_, rfl⟩
      rw [firstIds_succ, ← hissued]

end Central

/-- The first ids of the counter increase as long as it has not come round. -/
theorem firstIds_pairwise_iff (n : Nat) : (firstIds n).Pairwise (· < ·) ↔ n < 2 ^ 31 := by
  constructor
  · intro h
    by_contra hn
    rw [List.pairwise_iff_getElem] at h
    have hlength : (firstIds n).length = n := by
      rw [firstIds, List.length_map, List.length_range]
    -- the largest id and the one after it
    have hlast := h (2 ^ 31 - 2) (2 ^ 31 - 1) (by omega) (by omega) (by decide)
    simp only [firstIds, List.getElem_map, List.getElem_range] at hlast
    exact absurd hlast (by decide)
  · intro hn
    induction n with
    | zero => exact List.Pairwise.nil
    | succ n ih =>
      rw [firstIds_succ, List.pairwise_append]
      refine ⟨ih (by omega), List.pairwise_singleton _ _, ?_⟩
      intro a ha b hb
      rw [List.mem_singleton.1 hb, Int32.lt_iff_toInt_lt, Int32.toInt_ofNat_of_lt hn]
      have := (toInt_of_mem_firstIds (by omega) ha).2
      omega

/-! ## The main result -/

/-- In a run of any length, each transaction id is greater than all that were handed out before it,
for as long as there are fewer than `2 ^ 31` of them, and not beyond. -/
theorem transactionIds_increase_iff (heartbeatInterval : UInt32) (events : List Event) :
    ((Central.fresh heartbeatInterval).issued events).Pairwise (· < ·) ↔
      ((Central.fresh heartbeatInterval).issued events).length < 2 ^ 31 := by
  obtain ⟨hissued, -⟩ := Central.issued_eq heartbeatInterval events
  rw [← firstIds_pairwise_iff, ← hissued]

def startRequest : Ocpp.StartTransaction := ⟨1, "TAG", 0, none, ⟨19844, 36000, 0⟩⟩

theorem requestOf?_startText : requestOf? (startText "a") = some (.startTransaction startRequest) :=
  by cbv

/-- A charge point that is not connected asks to start a transaction, again and again. -/
def insistent (n : Nat) : List Event :=
  List.replicate n (.text "CP1" ⟨0, 0, 0⟩ (startText "a"))

theorem length_issued_insistent (c : Central) (n : Nat) : (c.issued (insistent n)).length = n := by
  unfold Central.issued insistent
  induction n generalizing c with
  | zero => rfl
  | succ n ih =>
    have hsome : c.handsOut? (.text "CP1" ⟨0, 0, 0⟩ (startText "a")) =
        some c.nextTransactionId := c.handsOut?_of_request _ _ requestOf?_startText
    rw [List.replicate_succ, Central.gathered, hsome, Option.toList_some, List.length_append,
      List.length_singleton, ih, Nat.add_comm]

/-- After `2 ^ 31 - 1` transactions the counter comes round: the next id is not greater than those
before it, but negative. -/
theorem transactionId_not_increasing :
    ((Central.fresh 300).run (insistent (2 ^ 31 - 1))).nextTransactionId = -2147483648 ∧
    ¬ ((Central.fresh 300).issued (insistent (2 ^ 31))).Pairwise (· < ·) := by
  constructor
  · rw [(Central.issued_eq 300 _).2, length_issued_insistent]
    decide
  · rw [(Central.issued_eq 300 _).1, length_issued_insistent, firstIds_pairwise_iff]
    exact Nat.lt_irrefl _

end HomeEnergy.Charging
