import HomeEnergy.Proofs.Charging.Delivery
import HomeEnergy.Proofs.Charging.Numbering

/-!
Connections that are superseded. A charge point that connects again gets a new session, and its old
connection stays open until its own end. The end of the old connection leaves the new session alone,
but what is read on it does not: a text is taken in for the charge point and not for the connection,
and so it does to the new session whatever it would do there if it came on the new connection
(`superseded_connection_heeded`).

Which texts a session heeds is read off the text and the session (`Session.Heeds`). All others leave
it exactly as it is, at any time (`Central.receive_eq_self_iff`).
-/

namespace HomeEnergy.Charging

open Ocpp (Request)

/-! ## Texts that change a session -/

/-- The charge point is registered with this announcement already. -/
structure Session.Announced (s : Session) (req : Ocpp.BootNotification) : Prop where
  accepted : s.registration = .accepted
  vendor : s.configuration.get? "ChargePointVendor" = some req.chargePointVendor
  model : s.configuration.get? "ChargePointModel" = some req.chargePointModel
  firmware : ∀ version, req.firmwareVersion = some version →
    s.configuration.get? "FirmwareVersion" = some version

/-- A session changes with a text: with a sign of life, a new transaction, the end of one of its own
transactions, the report of a connector, an announcement that it does not have yet, or an answer to
a request that waits for one. -/
def Session.Heeds (s : Session) (text : String) : Prop :=
  match requestOf? text with
  | some (.bootNotification req) => ¬ s.Announced req
  | some .heartbeat => True
  | some (.startTransaction _) => True
  | some (.stopTransaction req) => (s.transactions.get? req.transactionId).isSome
  | some (.statusNotification _) => True
  | some (.authorize _) => False
  | some (.meterValues _) => False
  | some (.dataTransfer _) => False
  | none => ∃ id, settledId? text = some id ∧ (s.pending.get? id).isSome

namespace Session

variable {s : Session}

/-- A connector that is stamped with the time is not the same at all times. -/
theorem updateConnector_ne (id : UInt32) (before : Timestamp → Session)
    {f : Timestamp → Connector → Connector} (hf : ∀ now c, (f now c).updatedAt = now) :
    ¬ ∀ now, (before now).updateConnector id now (f now) = s := by
  intro h
  have hstamp (now : Timestamp) : (s.connectors.get? id).map Connector.updatedAt = some now := by
    rw [← h now]
    unfold updateConnector
    rw [Table.get?_put_self, Option.map_some, hf]
  exact absurd ((hstamp ⟨0, 0, 0⟩).symm.trans (hstamp ⟨1, 0, 0⟩)) (by decide)

theorem touchHeartbeat_ne : ¬ ∀ now, s.touchHeartbeat now = s := by
  intro h
  have hstamp (now : Timestamp) : s.lastHeartbeat = now.toMillisecond := by rw [← h now]; rfl
  exact absurd ((hstamp ⟨0, 0, 0⟩).symm.trans (hstamp ⟨1, 0, 0⟩)) (by decide)

theorem removePending_eq_self_iff {id : String} :
    s.removePending id = s ↔ s.pending.get? id = none := by
  constructor
  · intro h
    rw [← h]
    exact (Table.get?_erase _ _ _).trans (if_pos rfl)
  · intro h
    unfold removePending
    rw [Table.erase_of_get? h]

theorem setConfiguration_eq_self {key value : String}
    (h : s.configuration.get? key = some value) : s.setConfiguration key value = s := by
  unfold setConfiguration
  rw [Table.put_of_get? h]

theorem get?_setConfiguration (key value key' : String) :
    (s.setConfiguration key value).configuration.get? key' =
      if key' = key then some value else s.configuration.get? key' := Table.get?_put _ _ _ _

/-- The session with what an announcement says. -/
def announce (s : Session) (req : Ocpp.BootNotification) : Session :=
  let s := s.acceptRegistration.setConfiguration "ChargePointVendor" req.chargePointVendor
  let s := s.setConfiguration "ChargePointModel" req.chargePointModel
  match req.firmwareVersion with
  | some version => s.setConfiguration "FirmwareVersion" version
  | none => s

theorem announced_announce (s : Session) (req : Ocpp.BootNotification) :
    (s.announce req).Announced req := by
  constructor
  case accepted => unfold announce; cases req.firmwareVersion <;> rfl
  case vendor => unfold announce; cases req.firmwareVersion <;> simp [get?_setConfiguration]
  case model => unfold announce; cases req.firmwareVersion <;> simp [get?_setConfiguration]
  case firmware => intro version hversion; simp [announce, hversion, get?_setConfiguration]

theorem announce_eq_self_iff {req : Ocpp.BootNotification} :
    s.announce req = s ↔ s.Announced req := by
  constructor
  · intro h
    rw [← h]
    exact s.announced_announce req
  · rintro ⟨haccepted, hvendor, hmodel, hfirmware⟩
    have hregistered : s.acceptRegistration = s := by
      unfold acceptRegistration
      rw [← haccepted]
    unfold announce
    dsimp only
    rw [hregistered, setConfiguration_eq_self hvendor, setConfiguration_eq_self hmodel]
    split
    · next version hversion => exact setConfiguration_eq_self (hfirmware version hversion)
    · rfl

end Session

namespace Central

variable {c : Central} {cp : String} {s : Session}

theorem session?_updateSession_self (hs : c.session? cp = some s) (f : Session → Session) :
    (c.updateSession cp f).session? cp = some (f s) := by
  rw [session?_updateSession, if_pos rfl, hs, Option.map_some]

/-- The requests that leave a session as it is, at any time. -/
theorem answer_eq_self_iff (hs : c.session? cp = some s) {text : String} {req : Request}
    (hreq : requestOf? text = some req) :
    (∀ now, (c.answer cp now req).central.session? cp = some s) ↔ ¬ s.Heeds text := by
  unfold Session.Heeds
  rw [hreq]
  cases req with
  | bootNotification req =>
    have hafter (now : Timestamp) : (c.answer cp now (.bootNotification req)).central.session? cp =
        some (s.announce req) := session?_updateSession_self hs (·.announce req)
    simp only [hafter, Option.some.injEq, forall_const, not_not]
    exact Session.announce_eq_self_iff
  | heartbeat =>
    refine iff_of_false (fun h => ?_) (fun h => h trivial)
    exact Session.touchHeartbeat_ne fun now =>
      Option.some.inj ((session?_updateSession_self hs _).symm.trans (h now))
  | startTransaction req =>
    have hs' : c.allocateTransactionId.2.session? cp = some s := hs
    refine iff_of_false (fun h => ?_) (fun h => h trivial)
    let t (now : Timestamp) : Transaction :=
      .start c.nextTransactionId cp req.connectorId req.idTag req.meterStart now
    exact Session.updateConnector_ne req.connectorId (fun now => s.addTransaction (t now))
      (f := fun now k => k.beginTransaction c.nextTransactionId now) (fun _ _ => rfl) fun now =>
      Option.some.inj ((session?_updateSession_self hs' _).symm.trans (h now))
  | stopTransaction req =>
    show _ ↔ ¬ (s.transactions.get? req.transactionId).isSome
    constructor
    · intro h
      have hgone := c.inactive_of_stop cp default req
      rw [show (c.onStopTransaction cp default req).central.session? cp = some s from h default,
        Option.bind_some] at hgone
      rw [hgone]
      exact Bool.false_ne_true
    · intro hheld now
      have hinactive : (c.session? cp).bind (·.transactions.get? req.transactionId) = none := by
        rw [hs, Option.bind_some]
        exact Option.not_isSome_iff_eq_none.1 hheld
      show (c.onStopTransaction cp now req).central.session? cp = some s
      rw [stop_of_inactive hinactive]
      exact hs
  | statusNotification req =>
    refine iff_of_false (fun h => ?_) (fun h => h trivial)
    exact Session.updateConnector_ne req.connectorId (fun _ => s)
      (f := fun now k => k.report req.status req.errorCode.name now) (fun _ _ => rfl) fun now =>
      Option.some.inj ((session?_updateSession_self hs _).symm.trans (h now))
  | authorize req => exact iff_of_true (fun _ => hs) id
  | meterValues req => exact iff_of_true (fun _ => hs) id
  | dataTransfer req => exact iff_of_true (fun _ => hs) id

/-- The texts that leave a session as it is, at any time. -/
theorem receive_eq_self_iff (hs : c.session? cp = some s) (text : String) :
    (∀ now, (c.receive cp now text).central.session? cp = some s) ↔ ¬ s.Heeds text := by
  cases hreq : requestOf? text with
  | some req =>
    simp only [(receive_of_request c cp _ hreq).1]
    exact answer_eq_self_iff hs hreq
  | none =>
    unfold Session.Heeds
    rw [hreq]
    cases hset : settledId? text with
    | some id =>
      have hafter (now : Timestamp) : (c.receive cp now text).central.session? cp =
          some (s.removePending id) := by
        rw [receive_of_settled c cp now hset]
        exact session?_updateSession_self hs _
      simp only [hafter, Option.some.injEq, forall_const, Session.removePending_eq_self_iff,
        exists_eq_left', Option.not_isSome_iff_eq_none]
    | none =>
      refine iff_of_true (fun now => ?_) ?_
      · rw [(receive_of_neither c cp now hreq hset).1]
        exact hs
      · rintro ⟨id, hid, -⟩
        cases hid

end Central

/-! ## Superseded connections -/

theorem Central.session?_hangUp (c : Central) (connectionId : UInt64) (cp : String) :
    (c.hangUp connectionId).session? cp = c.session? cp := by
  unfold hangUp
  split <;> rfl

namespace Gateway

variable {σ : Type} {g : Gateway σ} {cp : String} {k : UInt64}

/-- The end of a connection leaves all sessions alone if its charge point is not bound to it. -/
theorem session?_disconnect (hopen : g.connections.get? k = some cp) (hfree : g.bound? cp ≠ some k)
    (cp' : String) :
    (g.disconnect k).recorder.central.session? cp' = g.recorder.central.session? cp' := by
  unfold disconnect
  rw [hopen, ← Central.session?_hangUp g.recorder.central k cp']
  rcases Central.unregister_cases (g.recorder.central.hangUp k) cp k with
    ⟨s, hs, hk, -⟩ | ⟨-, heq⟩
  · rw [Central.session?_hangUp] at hs
    refine absurd ?_ hfree
    rw [bound?, hs, Option.map_some, hk]
  · dsimp only
    rw [heq]
    rfl

/-- What is read on a connection that a charge point is not bound to is taken in all the same. -/
theorem session?_read (store : RecordStore σ) (hopen : g.connections.get? k = some cp)
    (hfree : g.bound? cp ≠ some k) (now : Timestamp) (text cp' : String) :
    (g.read store k now text).recorder.central.session? cp' =
      (g.recorder.central.receive cp now text).central.session? cp' := by
  have htaken : (g.take store cp now text).bound? cp ≠ some k := by
    rw [bound?_take]
    exact hfree
  unfold read
  rw [hopen]
  dsimp only
  split
  · rfl
  · split
    · next c hsent =>
      rw [Central.send_eq] at hsent
      split at hsent
      · cases hsent
        rfl
      · cases hsent
    · exact session?_disconnect (g := g.take store cp now text) hopen htaken cp'

end Gateway

/-! ## The main result -/

/-- A charge point has connected again while an older connection of it is still open. Its session is
that of the newer connection and stays so. What is read on the older one does to it what it would do
if the newer one had brought it: exactly the texts that the session does not heed leave it as it is.
When the older connection loses its channel or ends, nothing happens to it. -/
theorem superseded_connection_heeded {σ : Type} (store : RecordStore σ) (heartbeatInterval : UInt32)
    (records : σ) (acts : List Act) {cp : String} {k k' : UInt64} (hne : k ≠ k')
    (hopen : ((Gateway.fresh heartbeatInterval records).play store acts).connections.get? k =
      some cp)
    (hlast : (Gateway.fresh heartbeatInterval records).LastConnection store acts cp k') :
    let g := (Gateway.fresh heartbeatInterval records).play store acts
    ∃ s, g.recorder.central.session? cp = some s ∧ s.connectionId = k' ∧
      (∀ now text,
        (∀ cp', (g.read store k now text).recorder.central.session? cp' =
          (g.recorder.central.receive cp now text).central.session? cp') ∧
        ∃ s', (g.read store k now text).recorder.central.session? cp = some s' ∧
          s'.origin = s.origin) ∧
      (∀ text, (∀ now, (g.read store k now text).recorder.central.session? cp = some s) ↔
        ¬ s.Heeds text) ∧
      (g.perform store (.lose k)).recorder.central.session? cp = some s ∧
      (g.perform store (.disconnect k)).recorder.central.session? cp = some s := by
  intro g
  have hbound : g.bound? cp = some k' := (Gateway.bound?_play_iff fun _ => rfl).2 hlast
  have hfree : g.bound? cp ≠ some k := by
    rw [hbound]
    exact fun h => hne (Option.some.inj h).symm
  obtain ⟨s, hs, hconnection⟩ := Option.map_eq_some_iff.1 hbound
  have hread := Gateway.session?_read store hopen hfree
  refine ⟨s, hs, hconnection, fun now text => ⟨hread now text, ?_⟩, fun text => ?_, ?_, ?_⟩
  · have horigin : (g.recorder.central.receive cp now text).central.origin? cp =
        g.recorder.central.origin? cp := g.recorder.central.origin?_after (.text cp now text) cp
    unfold Central.origin? at horigin
    rw [hs, ← hread now text cp] at horigin
    exact Option.map_eq_some_iff.1 horigin
  · rw [← Central.receive_eq_self_iff hs text]
    exact forall_congr' fun now => Eq.congr_left (hread now text cp)
  · exact (Central.session?_hangUp _ k cp).trans hs
  · exact (Gateway.session?_disconnect hopen hfree cp).trans hs

/-- A charge point connects twice. -/
def reconnected : List Act := [.connect "CP1" ⟨0, 0, 0⟩, .connect "CP1" ⟨0, 1, 0⟩]

theorem superseded_connection_heeded_reconnected :
    let g := (Gateway.fresh 300 ()).play .discarding reconnected
    let session? (g : Gateway Unit) := g.recorder.central.session? "CP1"
    (1 : UInt64) ≠ 2 ∧ g.connections.get? 1 = some "CP1" ∧
    (Gateway.fresh 300 ()).LastConnection .discarding reconnected "CP1" 2 ∧
    ∃ s, session? g = some s ∧
      (¬ ∀ now, session? (g.read .discarding 1 now (startText "a")) = some s) ∧
      ∀ now, session? (g.read .discarding 1 now (stopText "b" 1)) = some s := by
  have hne : (1 : UInt64) ≠ 2 := by decide
  have hopen : ((Gateway.fresh 300 ()).play .discarding reconnected).connections.get? 1 =
      some "CP1" := rfl
  have hlast : (Gateway.fresh 300 ()).LastConnection .discarding reconnected "CP1" 2 :=
    (Gateway.bound?_play_iff fun _ => rfl).1 rfl
  have hstop : requestOf? (stopText "b" 1) =
      some (.stopTransaction ⟨none, 500, ⟨19844, 39600, 0⟩, 1, none, none⟩) := by cbv
  have hnone : (((Gateway.fresh 300 ()).play .discarding reconnected).recorder.central.session?
      "CP1" |>.bind (·.transactions.get? 1)) = none := rfl
  have hmain := superseded_connection_heeded .discarding 300 () reconnected hne hopen hlast
  -- nothing more is to be computed of the gateway
  generalize (Gateway.fresh 300 ()).play .discarding reconnected = g at hopen hnone hmain ⊢
  obtain ⟨s, hs, -, -, hheeds, -⟩ := hmain
  rw [hs, Option.bind_some] at hnone
  refine ⟨hne, hopen, hlast, s, hs, fun h => (hheeds _).1 h ?_, (hheeds _).2 ?_⟩
  · unfold Session.Heeds
    rw [requestOf?_startText]
    trivial
  · unfold Session.Heeds
    rw [hstop]
    exact Option.not_isSome_iff_eq_none.2 hnone

/-- On the first connection it starts a transaction that turns up in the session of the second. -/
theorem superseded_connection_starts_transaction :
    let start : Gateway Unit := .fresh 300 ()
    let g := start.play .discarding reconnected
    let g' := g.read .discarding 1 ⟨0, 2, 0⟩ (startText "a")
    g.connections.get? 1 = some "CP1" ∧ start.LastConnection .discarding reconnected "CP1" 2 ∧
    (g.recorder.central.session? "CP1").map (fun s => (s.connectionId, s.transactions.keys)) =
      some (2, []) ∧
    (g'.recorder.central.session? "CP1").map (fun s => (s.connectionId, s.transactions.keys)) =
      some (2, [1]) ∧
    g'.recorder.central.session? "CP1" ≠ g.recorder.central.session? "CP1" := by
  intro start g g'
  have hlast : start.LastConnection .discarding reconnected "CP1" 2 :=
    (Gateway.bound?_play_iff fun _ => rfl).1 rfl
  have hbefore : (g.recorder.central.session? "CP1").map
      (fun s => (s.connectionId, s.transactions.keys)) = some (2, []) := rfl
  have hafter : (g'.recorder.central.session? "CP1").map
      (fun s => (s.connectionId, s.transactions.keys)) = some (2, [1]) := by decide +kernel
  refine ⟨rfl, hlast, hbefore, hafter, fun hsame => ?_⟩
  rw [hsame, hbefore] at hafter
  cases hafter

end HomeEnergy.Charging
