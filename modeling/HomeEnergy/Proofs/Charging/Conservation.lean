import HomeEnergy.Proofs.Charging.Run

/-!
Conservation of transactions. Every transaction id that was ever handed out is in one place: among
the transactions of a connected charge point's session, among the records given to the store,
in a session that has ended, or nowhere because its charge point had no session.

The places are counted, and the proof is one of book-keeping: `Conserved.balance` says that the
counts of an id add up to how often the id was handed out, every event keeps it, and an id is never
handed out twice as long as the counter has not come round.
-/

namespace HomeEnergy.Charging

open Ocpp (Frame Request Response)

/-! ## Places -/

/-- Whether a session has a transaction of this id that has not ended. -/
def Session.holds (id : Int32) (s : Session) : Bool := s.transactions.contains id

theorem Session.holds_of_put {s s' : Session} {t : Transaction}
    (h : s'.transactions = s.transactions.put t.id t) (id : Int32) :
    s'.holds id = if id = t.id then true else s.holds id := by
  unfold Session.holds Table.contains
  rw [h, Table.get?_put]
  split <;> rfl

theorem Session.holds_of_erase {s s' : Session} {id' : Int32}
    (h : s'.transactions = s.transactions.erase id') (id : Int32) :
    s'.holds id = if id = id' then false else s.holds id := by
  unfold Session.holds Table.contains
  rw [h, Table.get?_erase]
  split <;> rfl

/-- Whether a record is that of a transaction with this id. -/
def Record.isOf (id : Int32) : Record → Bool
  | .transaction t => t.id = id
  | .meterValues _ => false

namespace Central

/-- How many connected charge points' sessions hold an id. -/
def timesActive (c : Central) (id : Int32) : Nat := c.sessions.values.countP (Session.holds id)

/-- How many sessions held an id when they ended. -/
def timesLost (c : Central) (id : Int32) : Nat := c.former.countP (Session.holds id)

/-- The id that an event hands out to a charge point that has no session. -/
def handsOutUnbooked? (c : Central) : Event → Option Int32
  | .text cp now text =>
    if c.isConnected cp then none else c.handsOut? (.text cp now text)
  | _ => none

/-- The ids handed out in a run. -/
def issued (c : Central) (events : List Event) : List Int32 := c.gathered handsOut? events

theorem issued_append (c : Central) (earlier later : List Event) :
    c.issued (earlier ++ later) = c.issued earlier ++ (c.run earlier).issued later :=
  gathered_append _ _ _ _

/-- The ids handed out in a run to charge points that had no session. -/
def unbooked (c : Central) (events : List Event) : List Int32 :=
  c.gathered handsOutUnbooked? events

end Central

/-! ## Ids -/

/-- The first ids of the counter. -/
def firstIds (n : Nat) : List Int32 := (List.range n).map fun k => Int32.ofNat (k + 1)

theorem firstIds_succ (n : Nat) : firstIds (n + 1) = firstIds n ++ [Int32.ofNat (n + 1)] := by
  unfold firstIds
  rw [List.range_succ, List.map_append]
  rfl

theorem toInt_of_mem_firstIds {n : Nat} {id : Int32} (hn : n < 2 ^ 31) (h : id ∈ firstIds n) :
    1 ≤ id.toInt ∧ id.toInt ≤ n := by
  obtain ⟨k, hk, rfl⟩ := List.mem_map.1 h
  have hk' : k < n := List.mem_range.1 hk
  rw [Int32.toInt_ofNat_of_lt (by omega)]
  omega

theorem next_not_mem_firstIds {n : Nat} (hn : n + 1 < 2 ^ 31) :
    Int32.ofNat (n + 1) ∉ firstIds n := by
  intro h
  have := (toInt_of_mem_firstIds (by omega) h).2
  rw [Int32.toInt_ofNat_of_lt hn] at this
  omega

theorem firstIds_nodup {n : Nat} (hn : n < 2 ^ 31) : (firstIds n).Nodup := by
  induction n with
  | zero => exact List.nodup_nil
  | succ n ih =>
    rw [firstIds_succ, List.nodup_append]
    refine ⟨ih (by omega), List.nodup_singleton _, ?_⟩
    intro a ha b hb hab
    rw [List.mem_singleton] at hb
    exact next_not_mem_firstIds hn (hb ▸ hab ▸ ha)

/-! ## The invariant -/

/-- A session is that of a charge point, and so are its transactions, none of which has ended. -/
structure Session.BelongsTo (cp : String) (s : Session) : Prop where
  named : s.chargePointId = cp
  owned : ∀ id t, s.transactions.get? id = some t →
    t.id = id ∧ t.chargePointId = cp ∧ t.isActive

/-- What holds of a central system that has handed out the ids `issued`, of them `unbooked` where
there was no session, and has given the store the records `kept`. -/
structure Conserved (c : Central) (issued unbooked : List Int32) (kept : List Record) : Prop where
  belongs : ∀ cp s, c.session? cp = some s → s.BelongsTo cp
  ended : ∀ t, .transaction t ∈ kept → t.ending.isSome
  issued_eq : issued = firstIds issued.length
  next_eq : c.nextTransactionId = Int32.ofNat (issued.length + 1)
  balance : ∀ id, c.timesActive id + kept.countP (Record.isOf id) + c.timesLost id +
    unbooked.count id = issued.count id

theorem conserved_fresh (heartbeatInterval : UInt32) :
    Conserved (.fresh heartbeatInterval) [] [] [] where
  belongs _ _ h := by cases h
  ended _ h := by cases h
  issued_eq := rfl
  next_eq := rfl
  balance _ := rfl

namespace Central

variable {c : Central} {cp : String} {s : Session}

theorem updateSession_of_none (h : c.session? cp = none) (f : Session → Session) :
    c.updateSession cp f = c := by
  unfold updateSession
  rw [h]

theorem session?_updateSession (c : Central) (cp : String) (f : Session → Session)
    (cp' : String) :
    (c.updateSession cp f).session? cp' =
      if cp' = cp then (c.session? cp).map f else c.session? cp' := by
  cases h : c.session? cp with
  | none =>
    rw [updateSession_of_none h]
    split
    · next he => rw [he, h]; rfl
    · rfl
  | some s =>
    unfold updateSession
    rw [h]
    exact Table.get?_put _ _ _ _

/-- What holds of all sessions still does if it does of the one that is changed. -/
theorem forall_session_updateSession {P : String → Session → Prop} {f : Session → Session}
    (h : ∀ cp s, c.session? cp = some s → P cp s)
    (hf : ∀ s, c.session? cp = some s → P cp (f s)) :
    ∀ cp' s', (c.updateSession cp f).session? cp' = some s' → P cp' s' := by
  intro cp' s' hs'
  rw [session?_updateSession] at hs'
  split at hs'
  · next he =>
    obtain ⟨s, hs, rfl⟩ := Option.map_eq_some_iff.1 hs'
    rw [he]
    exact hf s hs
  · exact h cp' s' hs'

theorem timesActive_updateSession (h : c.session? cp = some s) (f : Session → Session)
    (id : Int32) :
    (c.updateSession cp f).timesActive id + [s].countP (Session.holds id) =
      c.timesActive id + [f s].countP (Session.holds id) := by
  have hput := Table.countP_values_put (Session.holds id) c.sessions cp (f s)
  have hget : c.sessions.get? cp = some s := h
  rw [hget, Option.toList_some] at hput
  unfold updateSession
  rw [h]
  exact hput

/-- A session of a connected charge point is one of those that are counted. -/
theorem countP_session_le (h : c.session? cp = some s) (id : Int32) :
    [s].countP (Session.holds id) ≤ c.timesActive id := by
  have herase := Table.countP_values_erase (Session.holds id) c.sessions cp
  have hget : c.sessions.get? cp = some s := h
  rw [hget, Option.toList_some] at herase
  unfold timesActive
  omega

@[simp] theorem former_updateSession (c : Central) (cp : String) (f : Session → Session) :
    (c.updateSession cp f).former = c.former := by
  unfold updateSession
  split <;> rfl

@[simp] theorem timesLost_updateSession (c : Central) (cp : String) (f : Session → Session)
    (id : Int32) : (c.updateSession cp f).timesLost id = c.timesLost id := by
  unfold timesLost
  rw [former_updateSession]

@[simp] theorem nextTransactionId_updateSession (c : Central) (cp : String)
    (f : Session → Session) :
    (c.updateSession cp f).nextTransactionId = c.nextTransactionId := by
  unfold updateSession
  split <;> rfl

end Central

namespace Conserved

variable {c : Central} {issued unbooked : List Int32} {kept : List Record}

/-- Nothing is said about channels. -/
theorem congr {c' : Central} (h : Conserved c issued unbooked kept)
    (hsessions : c'.sessions = c.sessions) (hformer : c'.former = c.former)
    (hnext : c'.nextTransactionId = c.nextTransactionId) :
    Conserved c' issued unbooked kept := by
  refine ⟨?_, h.ended, h.issued_eq, hnext.trans h.next_eq, ?_⟩
  · intro cp s hs
    unfold Central.session? at hs
    rw [hsessions] at hs
    exact h.belongs cp s hs
  · intro id
    have := h.balance id
    unfold Central.timesActive Central.timesLost at this ⊢
    rw [hsessions, hformer]
    exact this

/-- A change of a session that leaves its transactions alone. -/
theorem updateSession (h : Conserved c issued unbooked kept) (cp : String)
    {f : Session → Session} (hcp : ∀ s, (f s).chargePointId = s.chargePointId)
    (hsame : ∀ s, (f s).transactions = s.transactions) :
    Conserved (c.updateSession cp f) issued unbooked kept := by
  cases hs : c.session? cp with
  | none => rw [Central.updateSession_of_none hs]; exact h
  | some s =>
    refine ⟨Central.forall_session_updateSession h.belongs ?_, h.ended, h.issued_eq, ?_, ?_⟩
    · intro s hs
      obtain ⟨hnamed, howned⟩ := h.belongs cp s hs
      refine ⟨(hcp s).trans hnamed, ?_⟩
      rw [hsame]
      exact howned
    · rw [Central.nextTransactionId_updateSession]
      exact h.next_eq
    · intro id
      have hholds : (f s).holds id = s.holds id := by
        unfold Session.holds
        rw [hsame]
      have hupdate := Central.timesActive_updateSession hs f id
      rw [List.countP_singleton, List.countP_singleton, hholds] at hupdate
      have hbalance := h.balance id
      rw [Central.timesLost_updateSession]
      omega

/-- The session that a new connection replaces takes its transactions with it. -/
theorem register (h : Conserved c issued unbooked kept) (cp : String) (now : Timestamp) :
    Conserved (c.register cp now).2 issued unbooked kept := by
  refine ⟨?_, h.ended, h.issued_eq, h.next_eq, ?_⟩
  · intro cp' s hs
    have hget : (c.register cp now).2.session? cp' =
        if cp' = cp then some (.fresh c.nextConnectionId cp now) else c.session? cp' :=
      Table.get?_put _ _ _ _
    rw [hget] at hs
    split at hs
    · next he =>
      cases hs
      exact ⟨he.symm, fun _ _ ht => by cases ht⟩
    · exact h.belongs cp' s hs
  · intro id
    have hput : (c.register cp now).2.timesActive id +
        (c.session? cp).toList.countP (Session.holds id) = c.timesActive id :=
      Table.countP_values_put (Session.holds id) c.sessions cp _
    have hlost : (c.register cp now).2.timesLost id =
        (c.session? cp).toList.countP (Session.holds id) + c.timesLost id :=
      List.countP_append
    have hbalance := h.balance id
    omega

/-- The session that ends with its connection takes its transactions with it. -/
theorem unregister (h : Conserved c issued unbooked kept) (cp : String) (connectionId : UInt64) :
    Conserved (c.unregister cp connectionId).2 issued unbooked kept := by
  unfold Central.unregister
  cases hs : c.session? cp with
  | none => exact h
  | some s =>
    by_cases hid : s.connectionId = connectionId
    · simp only [if_pos hid]
      refine ⟨?_, h.ended, h.issued_eq, h.next_eq, ?_⟩
      · intro cp' s' hs'
        have hget : (c.sessions.erase cp).get? cp' = if cp' = cp then none else c.session? cp' :=
          Table.get?_erase _ _ _
        have hs' : (c.sessions.erase cp).get? cp' = some s' := hs'
        rw [hget] at hs'
        split at hs'
        · cases hs'
        · exact h.belongs cp' s' hs'
      · intro id
        have herase := Table.countP_values_erase (Session.holds id) c.sessions cp
        have hget : c.sessions.get? cp = some s := hs
        rw [hget, Option.toList_some, List.countP_singleton] at herase
        have hbalance := h.balance id
        unfold Central.timesActive Central.timesLost at hbalance ⊢
        show (c.sessions.erase cp).values.countP _ + _ + _ + _ = _
        rw [List.countP_cons]
        omega
    · simp only [if_neg hid]
      exact h

/-- The id that is handed out next is in no place yet. -/
theorem next_fresh (h : Conserved c issued unbooked kept) (few : issued.length + 1 < 2 ^ 31) :
    issued.count c.nextTransactionId = 0 := by
  rw [List.count_eq_zero, h.next_eq, h.issued_eq, firstIds, List.length_map, List.length_range]
  exact next_not_mem_firstIds few

/-- The counter moves on by one, and the id that it was at is handed out. -/
theorem issued_concat (h : Conserved c issued unbooked kept) :
    issued ++ [c.nextTransactionId] = firstIds (issued ++ [c.nextTransactionId]).length ∧
    c.nextTransactionId + 1 =
      Int32.ofNat ((issued ++ [c.nextTransactionId]).length + 1) := by
  rw [List.length_append, List.length_singleton]
  constructor
  · rw [firstIds_succ, ← h.issued_eq, ← h.next_eq]
  · rw [Int32.ofNat_add (issued.length + 1), ← h.next_eq]
    rfl

/-- A transaction begins: its id, which was nowhere, is now in the session or, if there is none,
with those that were handed out in vain. -/
theorem start (h : Conserved c issued unbooked kept) (few : issued.length + 1 < 2 ^ 31)
    (cp : String) (now : Timestamp) (req : Ocpp.StartTransaction) :
    Conserved (c.onStartTransaction cp now req).central (issued ++ [c.nextTransactionId])
      (unbooked ++ if c.isConnected cp then [] else [c.nextTransactionId]) kept := by
  obtain ⟨hissued, hnext⟩ := h.issued_concat
  have hallocated : c.allocateTransactionId.2.session? cp = c.session? cp := rfl
  cases hs : c.session? cp with
  | none =>
    -- the counter moves on all the same
    have hconnected : c.isConnected cp = false := congrArg Option.isSome hs
    have hcentral : (c.onStartTransaction cp now req).central = c.allocateTransactionId.2 :=
      Central.updateSession_of_none (hallocated.trans hs) _
    rw [hcentral, hconnected]
    refine ⟨h.belongs, h.ended, hissued, hnext, ?_⟩
    intro id
    have hbalance := h.balance id
    rw [if_neg Bool.false_ne_true, List.count_append, List.count_append]
    show c.timesActive id + _ + c.timesLost id + _ = _
    omega
  | some s =>
    have hconnected : c.isConnected cp = true := congrArg Option.isSome hs
    rw [hconnected, if_pos rfl, List.append_nil]
    let t := Transaction.start c.nextTransactionId cp req.connectorId req.idTag req.meterStart now
    let note : Session → Session := fun s =>
      (s.addTransaction t).updateConnector req.connectorId now
        (·.beginTransaction c.nextTransactionId now)
    have hcentral : (c.onStartTransaction cp now req).central =
        c.allocateTransactionId.2.updateSession cp note := rfl
    rw [hcentral]
    refine ⟨Central.forall_session_updateSession h.belongs ?_, h.ended, hissued, ?_, ?_⟩
    · intro s hs
      obtain ⟨hnamed, howned⟩ := h.belongs cp s hs
      refine ⟨hnamed, ?_⟩
      intro id t' ht
      have hget : (s.transactions.put t.id t).get? id = some t' := ht
      rw [Table.get?_put] at hget
      split at hget
      · next he =>
        cases hget
        exact ⟨he.symm, rfl, rfl⟩
      · exact howned id t' hget
    · exact (Central.nextTransactionId_updateSession _ _ _).trans hnext
    · intro id
      have hholds : (note s).holds id = if id = t.id then true else s.holds id :=
        Session.holds_of_put rfl id
      have hupdate := Central.timesActive_updateSession (hallocated.trans hs) note id
      rw [List.countP_singleton, List.countP_singleton, hholds] at hupdate
      have hle := Central.countP_session_le hs id
      rw [List.countP_singleton] at hle
      have hbalance := h.balance id
      have hfresh := h.next_fresh few
      have hactive : c.allocateTransactionId.2.timesActive id = c.timesActive id := rfl
      have hlost : c.allocateTransactionId.2.timesLost id = c.timesLost id := rfl
      rw [List.count_append, List.count_singleton, Central.timesLost_updateSession, hlost]
      -- the new id was in no place, so that the session did not hold it before
      by_cases he : id = c.nextTransactionId
      · have ht : id = t.id := he
        rw [if_pos ht, if_pos rfl] at hupdate
        rw [← he] at hfresh
        rw [← he, if_pos (beq_self_eq_true id)]
        omega
      · have ht : ¬ id = t.id := he
        rw [if_neg ht] at hupdate
        rw [if_neg (fun hb => he (eq_of_beq hb).symm)]
        omega

/-- A transaction ends: it leaves its session and is given to the store. Where the id is not that
of a transaction of the session, nothing happens. -/
theorem stop (h : Conserved c issued unbooked kept) (cp : String) (now : Timestamp)
    (req : Ocpp.StopTransaction) :
    Conserved (c.onStopTransaction cp now req).central issued unbooked
      (kept ++ (c.onStopTransaction cp now req).record.toList) := by
  unfold Central.onStopTransaction
  split
  · next t ht =>
    obtain ⟨s, hs, hget⟩ := Option.bind_eq_some_iff.1 ht
    obtain ⟨hid, _, _⟩ := (h.belongs cp s hs).owned _ t hget
    refine ⟨Central.forall_session_updateSession h.belongs ?_, ?_, h.issued_eq, ?_, ?_⟩
    · intro s hs
      obtain ⟨hnamed, howned⟩ := h.belongs cp s hs
      refine ⟨hnamed, ?_⟩
      intro id t' ht'
      have hget' : (s.transactions.erase req.transactionId).get? id = some t' := ht'
      rw [Table.get?_erase] at hget'
      split at hget'
      · cases hget'
      · exact howned id t' hget'
    · intro t' ht'
      rcases List.mem_append.1 ht' with hkept | hnew
      · exact h.ended t' hkept
      · cases List.mem_singleton.1 hnew
        rfl
    · exact (Central.nextTransactionId_updateSession _ _ _).trans h.next_eq
    · intro id
      let note : Session → Session := fun s =>
        (s.removeTransaction req.transactionId).updateConnector t.connectorId now
          (·.endTransaction now)
      have hholds : (note s).holds id = if id = req.transactionId then false else s.holds id :=
        Session.holds_of_erase rfl id
      have hupdate := Central.timesActive_updateSession hs note id
      rw [List.countP_singleton, List.countP_singleton, hholds] at hupdate
      have hbalance := h.balance id
      show (c.updateSession cp note).timesActive id + (kept ++ [_]).countP _ +
        (c.updateSession cp note).timesLost id + _ = _
      rw [Central.timesLost_updateSession, List.countP_append, List.countP_singleton]
      -- one place is given up and one is taken for this id, and nothing happens to the others
      by_cases he : id = req.transactionId
      · have hheld : s.holds id = true := by
          unfold Session.holds Table.contains
          rw [he, hget]
          rfl
        have hof : Record.isOf id (.transaction (t.stop req.meterStop
            (req.reason.map Ocpp.StopReason.name) now)) = true := by
          rw [he, ← hid]
          exact decide_eq_true rfl
        rw [if_pos he, hheld] at hupdate
        rw [hof]
        simp only [if_pos, if_neg Bool.false_ne_true] at hupdate ⊢
        omega
      · have hof : Record.isOf id (.transaction (t.stop req.meterStop
            (req.reason.map Ocpp.StopReason.name) now)) = false :=
          decide_eq_false fun hb => he (hb.symm.trans hid)
        rw [if_neg he] at hupdate
        rw [hof, if_neg Bool.false_ne_true]
        omega
  · rw [Option.toList_none, List.append_nil]
    exact h

/-- What is given to the store besides finished transactions is not counted. -/
theorem keep_meterValues (h : Conserved c issued unbooked kept) (r : MeterRecord) :
    Conserved c issued unbooked (kept ++ [.meterValues r]) := by
  refine ⟨h.belongs, ?_, h.issued_eq, h.next_eq, ?_⟩
  · intro t ht
    rcases List.mem_append.1 ht with hkept | hnew
    · exact h.ended t hkept
    · cases List.mem_singleton.1 hnew
  · intro id
    have hnone : [Record.meterValues r].countP (Record.isOf id) = 0 := rfl
    rw [List.countP_append, hnone]
    exact h.balance id

/-- A request that hands out no id, takes no transaction and gives the store no record. -/
theorem quiet {c' : Central} (h : Conserved c' issued unbooked kept) (connected : Bool) :
    Conserved c' (issued ++ (none : Option Int32).toList)
      (unbooked ++ if connected then [] else (none : Option Int32).toList)
      (kept ++ (none : Option Record).toList) := by
  rw [Option.toList_none, Option.toList_none, ite_self, List.append_nil, List.append_nil,
    List.append_nil]
  exact h

theorem answer (h : Conserved c issued unbooked kept) (few : issued.length + 1 < 2 ^ 31)
    (cp : String) (now : Timestamp) (req : Request) :
    Conserved (c.answer cp now req).central
      (issued ++ (c.answer cp now req).response.transactionId?.toList)
      (unbooked ++ if c.isConnected cp then []
        else (c.answer cp now req).response.transactionId?.toList)
      (kept ++ (c.answer cp now req).record.toList) := by
  cases req with
  | bootNotification req =>
    refine quiet (h.updateSession cp ?_ ?_) _
    · intro s
      dsimp only
      split <;> rfl
    · intro s
      dsimp only
      split <;> rfl
  | heartbeat => refine quiet (h.updateSession cp ?_ ?_) _ <;> exact fun _ => rfl
  | authorize req => exact quiet h _
  | startTransaction req =>
    have := h.start few cp now req
    show Conserved _ _ _ (kept ++ [])
    rw [List.append_nil]
    exact this
  | stopTransaction req =>
    have hnone : (c.onStopTransaction cp now req).response.transactionId? = none := by
      unfold Central.onStopTransaction
      split <;> rfl
    have hquiet := quiet (h.stop cp now req) (c.isConnected cp)
    rw [@Option.toList_none Record, List.append_nil] at hquiet
    unfold Central.answer
    rw [hnone]
    exact hquiet
  | statusNotification req =>
    refine quiet (h.updateSession cp ?_ ?_) _ <;> exact fun _ => rfl
  | meterValues req =>
    have hquiet := quiet (h.keep_meterValues ⟨cp, req.connectorId, req.transactionId,
      req.meterValue.flatMap Central.samples⟩) (c.isConnected cp)
    rw [@Option.toList_none Record, List.append_nil] at hquiet
    exact hquiet
  | dataTransfer req => exact quiet h _

theorem call (h : Conserved c issued unbooked kept) (cp uniqueId action : String)
    (payload : Json) (now : Timestamp) :
    Conserved (c.call cp uniqueId action payload now).2 issued unbooked kept := by
  unfold Central.call
  cases hs : c.session? cp with
  | none => exact h
  | some s =>
    have hnoted : Conserved (c.updateSession cp (·.addPending uniqueId action now))
        issued unbooked kept := h.updateSession cp (fun _ => rfl) fun _ => rfl
    dsimp only
    split
    · next sent hsent =>
      unfold Central.send at hsent
      split at hsent
      · cases hsent
        exact hnoted.congr rfl rfl rfl
      · cases hsent
    · exact hnoted.updateSession cp (fun _ => rfl) fun _ => rfl

theorem hangUp (h : Conserved c issued unbooked kept) (connectionId : UInt64) :
    Conserved (c.hangUp connectionId) issued unbooked kept := by
  unfold Central.hangUp
  split
  · exact h.congr rfl rfl rfl
  · exact h

/-- Every event keeps the balance. -/
theorem after (h : Conserved c issued unbooked kept) (few : issued.length + 1 < 2 ^ 31)
    (e : Event) :
    Conserved (c.after e) (issued ++ (c.handsOut? e).toList)
      (unbooked ++ (c.handsOutUnbooked? e).toList) (kept ++ (c.handsOver? e).toList) := by
  cases e with
  | register cp now => exact quiet (h.register cp now) true
  | unregister cp id => exact quiet (h.unregister cp id) true
  | hangUp id => exact quiet (h.hangUp id) true
  | call cp uniqueId action payload now =>
    exact quiet (h.call cp uniqueId action payload now) true
  | text cp now text =>
    unfold Central.after Central.handsOutUnbooked? Central.handsOver? Central.handsOut?
    dsimp only
    rw [apply_ite Option.toList]
    cases hreq : requestOf? text with
    | some req =>
      obtain ⟨hcentral, hrecord⟩ := Central.receive_of_request c cp now hreq
      rw [hcentral, hrecord]
      exact h.answer few cp now req
    | none =>
      -- what makes no request can still change a session: an answer strikes off what it answers
      cases hset : settledId? text with
      | some id =>
        rw [Central.receive_of_settled c cp now hset]
        refine quiet (h.updateSession cp ?_ ?_) _ <;> exact fun _ => rfl
      | none =>
        obtain ⟨hcentral, hrecord⟩ := Central.receive_of_neither c cp now hreq hset
        rw [hcentral, hrecord]
        exact quiet h _

end Conserved

/-- Every run keeps the balance, as long as the counter of ids has not come round. -/
theorem conserved_run (heartbeatInterval : UInt32) (events : List Event)
    (few : ((Central.fresh heartbeatInterval).issued events).length < 2 ^ 31 - 1) :
    Conserved ((Central.fresh heartbeatInterval).run events)
      ((Central.fresh heartbeatInterval).issued events)
      ((Central.fresh heartbeatInterval).unbooked events)
      ((Central.fresh heartbeatInterval).gathered Central.handsOver? events) := by
  -- by the last event: the bound on the ids passes from a run to its beginnings
  induction events using List.reverseRecOn with
  | nil => exact conserved_fresh heartbeatInterval
  | append_singleton events e ih =>
    unfold Central.issued at few ih ⊢
    unfold Central.unbooked at ih ⊢
    rw [Central.gathered_concat, List.length_append] at few
    rw [Central.run_concat, Central.gathered_concat, Central.gathered_concat,
      Central.gathered_concat]
    exact (ih (by omega)).after (by omega) e

namespace Conserved

variable {c : Central} {issued unbooked : List Int32} {kept : List Record}

/-- An id that was handed out is in one place, and there once. -/
theorem one_place (h : Conserved c issued unbooked kept) (few : issued.length < 2 ^ 31)
    {id : Int32} (hid : id ∈ issued) :
    c.timesActive id + kept.countP (Record.isOf id) + c.timesLost id + unbooked.count id = 1 := by
  have hnodup : issued.Nodup := h.issued_eq ▸ firstIds_nodup few
  rw [h.balance, List.count_eq_one_of_mem hnodup hid]

/-- What is in a session has been handed out. -/
theorem issued_of_active (h : Conserved c issued unbooked kept) {cp : String} {s : Session}
    {id : Int32} {t : Transaction} (hs : c.session? cp = some s)
    (ht : s.transactions.get? id = some t) : id ∈ issued := by
  have hholds : s.holds id = true := congrArg Option.isSome ht
  have hle := Central.countP_session_le hs id
  rw [List.countP_singleton, if_pos hholds] at hle
  have hbalance := h.balance id
  exact List.count_pos_iff.1 (by omega)

/-- What the store was given has been handed out. -/
theorem issued_of_kept (h : Conserved c issued unbooked kept) {t : Transaction}
    (ht : .transaction t ∈ kept) : t.id ∈ issued := by
  have hpos : 0 < kept.countP (Record.isOf t.id) :=
    List.countP_pos_iff.2 ⟨_, ht, decide_eq_true rfl⟩
  have hbalance := h.balance t.id
  exact List.count_pos_iff.1 (by omega)

/-- What has been handed out is below what will be. -/
theorem lt_next (h : Conserved c issued unbooked kept) (few : issued.length + 1 < 2 ^ 31)
    {id : Int32} (hid : id ∈ issued) : id < c.nextTransactionId := by
  rw [h.issued_eq] at hid
  have hle := (toInt_of_mem_firstIds (by omega) hid).2
  rw [Int32.lt_iff_toInt_lt, h.next_eq, Int32.toInt_ofNat_of_lt few]
  omega

end Conserved

/-! ## Ends are final -/

namespace Central

/-- A request changes the central system at most by taking an id and by updating the session of its
charge point: what these keep is kept. -/
theorem answer_induction {P : Central → Prop} {c : Central} {cp : String} (h : P c)
    (hcounted : P c.allocateTransactionId.2) (hupdate : ∀ c f, P c → P (c.updateSession cp f))
    (now : Timestamp) (req : Request) : P (c.answer cp now req).central := by
  cases req with
  | startTransaction req => exact hupdate _ _ hcounted
  | stopTransaction req =>
    unfold answer onStopTransaction
    dsimp only
    split
    · exact hupdate c _ h
    · exact h
  | bootNotification req => exact hupdate c _ h
  | heartbeat => exact hupdate c _ h
  | statusNotification req => exact hupdate c _ h
  | authorize req => exact h
  | meterValues req => exact h
  | dataTransfer req => exact h

/-- What a text is taken in for is a session or the counter of transaction ids: connections are not
touched. -/
theorem receive_induction {P : Central → Prop} {c : Central} {cp : String} (h : P c)
    (hcounted : P c.allocateTransactionId.2) (hupdate : ∀ c f, P c → P (c.updateSession cp f))
    (now : Timestamp) (text : String) : P (c.receive cp now text).central := by
  cases hreq : requestOf? text with
  | some req =>
    rw [(receive_of_request c cp now hreq).1]
    exact answer_induction h hcounted hupdate now req
  | none =>
    cases hset : settledId? text with
    | some id =>
      rw [receive_of_settled c cp now hset]
      exact hupdate c _ h
    | none =>
      rw [(receive_of_neither c cp now hreq hset).1]
      exact h

theorem former_receive (c : Central) (cp : String) (now : Timestamp) (text : String) :
    (c.receive cp now text).central.former = c.former :=
  receive_induction (P := fun c' => c'.former = c.former) rfl rfl
    (fun c' f h => (former_updateSession c' cp f).trans h) now text

/-- Sessions that have ended stay so. -/
theorem former_after (c : Central) (e : Event) :
    ∃ ended, (c.after e).former = ended ++ c.former := by
  cases e with
  | register cp now => exact ⟨(c.session? cp).toList, rfl⟩
  | unregister cp id =>
    show ∃ ended, (c.unregister cp id).2.former = _
    unfold unregister
    split
    · next s _ =>
      split
      · exact ⟨[s], rfl⟩
      · exact ⟨[], rfl⟩
    · exact ⟨[], rfl⟩
  | hangUp id =>
    show ∃ ended, (c.hangUp id).former = _
    unfold hangUp
    split <;> exact ⟨[], rfl⟩
  | text cp now text => exact ⟨[], c.former_receive cp now text⟩
  | call cp uniqueId action payload now =>
    refine ⟨[], ?_⟩
    show (c.call cp uniqueId action payload now).2.former = c.former
    unfold call
    cases c.session? cp with
    | none => rfl
    | some s =>
      dsimp only
      split
      · next sent hsent =>
        unfold send at hsent
        split at hsent
        · cases hsent
          exact former_updateSession _ _ _
        · cases hsent
      · rw [former_updateSession, former_updateSession]

theorem former_run (c : Central) (events : List Event) :
    ∃ ended, (c.run events).former = ended ++ c.former := by
  induction events generalizing c with
  | nil => exact ⟨[], rfl⟩
  | cons e rest ih =>
    obtain ⟨ended, hended⟩ := ih (c.after e)
    obtain ⟨ended', hended'⟩ := c.former_after e
    refine ⟨ended ++ ended', ?_⟩
    show ((c.after e).run rest).former = _
    rw [hended, hended', List.append_assoc]

theorem timesLost_le_run (c : Central) (events : List Event) (id : Int32) :
    c.timesLost id ≤ (c.run events).timesLost id := by
  obtain ⟨ended, hended⟩ := c.former_run events
  unfold timesLost
  rw [hended, List.countP_append]
  exact Nat.le_add_left _ _

/-- An id that has been handed out and is in no session does not come back into one. -/
theorem inactive_run (heartbeatInterval : UInt32) (earlier later : List Event)
    (few : ((fresh heartbeatInterval).issued (earlier ++ later)).length < 2 ^ 31 - 1)
    {id : Int32} (hid : id ∈ (fresh heartbeatInterval).issued earlier)
    (hnone : ((fresh heartbeatInterval).run earlier).timesActive id = 0) :
    ((fresh heartbeatInterval).run (earlier ++ later)).timesActive id = 0 := by
  have hissued := issued_append (fresh heartbeatInterval) earlier later
  have few' : ((fresh heartbeatInterval).issued earlier).length < 2 ^ 31 - 1 := by
    rw [hissued, List.length_append] at few
    omega
  have hid' : id ∈ (fresh heartbeatInterval).issued (earlier ++ later) :=
    hissued ▸ List.mem_append_left _ hid
  have hbefore := (conserved_run heartbeatInterval earlier few').one_place (by omega) hid
  have hafter := (conserved_run heartbeatInterval _ few).one_place (by omega) hid'
  have hlost := ((fresh heartbeatInterval).run earlier).timesLost_le_run later id
  -- its one place is of a kind that only grows, so it is still there and leaves none for a session
  unfold unbooked at hbefore hafter
  rw [gathered_append, gathered_append, List.countP_append, List.count_append, run_append] at hafter
  rw [run_append]
  omega

/-- A request to stop what is not among the transactions of the sender's session. -/
theorem stop_of_inactive {c : Central} {cp : String} {req : Ocpp.StopTransaction}
    (h : (c.session? cp).bind (·.transactions.get? req.transactionId) = none) (now : Timestamp) :
    c.onStopTransaction cp now req = ⟨.stopTransaction .accepted, c, none⟩ := by
  unfold onStopTransaction
  rw [h]

/-- After a request to stop a transaction it is not in the sender's session. -/
theorem inactive_of_stop (c : Central) (cp : String) (now : Timestamp)
    (req : Ocpp.StopTransaction) :
    ((c.onStopTransaction cp now req).central.session? cp).bind
      (·.transactions.get? req.transactionId) = none := by
  cases h : (c.session? cp).bind (·.transactions.get? req.transactionId) with
  | none => rw [stop_of_inactive h]; exact h
  | some t =>
    obtain ⟨s, hs, hget⟩ := Option.bind_eq_some_iff.1 h
    unfold onStopTransaction
    rw [h]
    dsimp only
    rw [session?_updateSession, if_pos rfl, hs]
    show (s.transactions.erase req.transactionId).get? req.transactionId = none
    rw [Table.get?_erase, if_pos rfl]

end Central

theorem Recorder.after_stop_of_inactive {σ : Type} {r : Recorder σ} {cp text : String}
    {req : Ocpp.StopTransaction} (hreq : requestOf? text = some (.stopTransaction req))
    (h : (r.central.session? cp).bind (·.transactions.get? req.transactionId) = none)
    (store : RecordStore σ) (now : Timestamp) : r.after store (.text cp now text) = r := by
  obtain ⟨hcentral, hrecord⟩ := Central.receive_of_request r.central cp now hreq
  have hanswer : r.central.answer cp now (.stopTransaction req) =
      ⟨.stopTransaction .accepted, r.central, none⟩ := Central.stop_of_inactive h now
  rw [hanswer] at hcentral hrecord
  simp only [Recorder.after, Recorder.receive, hcentral, hrecord]

/-! ## The main result -/

/-- Transactions are conserved, whatever happens and in whatever order, as long as the counter of
ids has not come round. An id that was handed out is in one place: in the session of one connected
charge point, given to the store, once, in a session that has ended, or handed out where there was
no session. What is in a session is under its own id, names the charge point, has not ended, and is
below the next id; what was given to the store has ended. An id that has left the sessions does not
come back, so that a request to stop it changes nothing, and neither does the repetition of a
request to stop. -/
theorem transactions_conserved {σ : Type} (store : RecordStore σ) (records : σ)
    (heartbeatInterval : UInt32) (events : List Event)
    (few : ((Central.fresh heartbeatInterval).issued events).length < 2 ^ 31 - 1) :
    let start : Recorder (σ × List Record) := ⟨.fresh heartbeatInterval, records, []⟩
    let r := start.run store.logged events
    let issued := start.central.issued events
    (∀ id ∈ issued, r.central.timesActive id + r.records.2.countP (Record.isOf id) +
      r.central.timesLost id + (start.central.unbooked events).count id = 1) ∧
    (∀ cp s id t, r.central.session? cp = some s → s.transactions.get? id = some t →
      id ∈ issued ∧ id < r.central.nextTransactionId ∧ t.id = id ∧ t.chargePointId = cp ∧
        s.chargePointId = cp ∧ t.isActive) ∧
    (∀ t, .transaction t ∈ r.records.2 → t.id ∈ issued ∧ t.ending.isSome) ∧
    (∀ earlier later id, events = earlier ++ later → id ∈ start.central.issued earlier →
      (start.run store.logged earlier).central.timesActive id = 0 →
      r.central.timesActive id = 0 ∧
        ∀ cp now text req, requestOf? text = some (.stopTransaction req) →
          req.transactionId = id → r.after store.logged (.text cp now text) = r) ∧
    (∀ cp now text req now' text' req', requestOf? text = some (.stopTransaction req) →
      requestOf? text' = some (.stopTransaction req') → req'.transactionId = req.transactionId →
      (r.after store.logged (.text cp now text)).after store.logged (.text cp now' text') =
        r.after store.logged (.text cp now text)) := by
  intro start r issued
  have hr : r.central = start.central.run events := Recorder.central_run _ _ _
  have hkept : r.records.2 = start.central.gathered Central.handsOver? events :=
    (RecordStore.logged_run _ _ _).trans (List.nil_append _)
  have h := conserved_run heartbeatInterval events few
  rw [hr, hkept]
  refine ⟨fun id => h.one_place (by omega), ?_, ?_, ?_, ?_⟩
  · intro cp s id t hs ht
    obtain ⟨hnamed, howned⟩ := h.belongs cp s hs
    obtain ⟨hid, hcp, hactive⟩ := howned id t ht
    have hissued := h.issued_of_active hs ht
    exact ⟨hissued, h.lt_next (by omega) hissued, hid, hcp, hnamed, hactive⟩
  · intro t ht
    exact ⟨h.issued_of_kept ht, h.ended t ht⟩
  · rintro earlier later id rfl hid hnone
    rw [Recorder.central_run] at hnone
    have hinactive := Central.inactive_run heartbeatInterval earlier later few hid hnone
    refine ⟨hinactive, ?_⟩
    rintro cp now text req hreq rfl
    refine Recorder.after_stop_of_inactive hreq ?_ _ _
    rw [hr]
    refine Option.bind_eq_none_iff.2 fun s hs => ?_
    have hle := Central.countP_session_le hs req.transactionId
    rw [hinactive, List.countP_singleton] at hle
    by_contra hheld
    have hholds : s.holds req.transactionId = true := Option.isSome_iff_ne_none.2 hheld
    rw [if_pos hholds] at hle
    omega
  · intro cp now text req now' text' req' hreq hreq' hsame
    refine Recorder.after_stop_of_inactive hreq' ?_ _ _
    rw [Recorder.central_after, hsame]
    show ((Central.receive _ cp now text).central.session? cp).bind _ = none
    rw [(Central.receive_of_request _ cp now hreq).1]
    exact Central.inactive_of_stop _ _ _ _

/-- A text that asks to start a transaction. -/
def startText (uniqueId : String) : String :=
  (Frame.call uniqueId "StartTransaction" (.ofMembers
    [("connectorId", .ofNat 1), ("idTag", .string "TAG"), ("meterStart", .ofNat 0),
      ("timestamp", .string "2024-05-01T10:00:00Z")])).serialize

/-- A text that asks to stop a transaction. -/
def stopText (uniqueId : String) (transactionId : Nat) : String :=
  (Frame.call uniqueId "StopTransaction" (.ofMembers
    [("transactionId", .ofNat transactionId), ("meterStop", .ofNat 500),
      ("timestamp", .string "2024-05-01T11:00:00Z")])).serialize

/-- One charge point starts a transaction and stops it, another one starts one without being
connected. -/
def twoStations : List Event :=
  [.register "CP1" ⟨0, 0, 0⟩, .text "CP1" ⟨0, 1, 0⟩ (startText "a"),
    .text "CP2" ⟨0, 2, 0⟩ (startText "b"), .text "CP1" ⟨0, 3, 0⟩ (stopText "c" 1),
    .register "CP1" ⟨0, 4, 0⟩]

theorem issued_twoStations : (Central.fresh 300).issued twoStations = [1, 2] := by cbv

theorem transactions_conserved_twoStations :
    let start : Recorder (History × List Record) := ⟨.fresh 300, .empty, []⟩
    let r := start.run RecordStore.memory.logged twoStations
    (start.central.issued twoStations).length < 2 ^ 31 - 1 ∧
    ∀ id ∈ start.central.issued twoStations,
      r.central.timesActive id + r.records.2.countP (Record.isOf id) + r.central.timesLost id +
        (start.central.unbooked twoStations).count id = 1 := by
  have few : ((Central.fresh 300).issued twoStations).length < 2 ^ 31 - 1 := by
    rw [issued_twoStations]
    decide
  exact ⟨few, (transactions_conserved RecordStore.memory .empty 300 twoStations few).1⟩

end HomeEnergy.Charging
