import HomeEnergy.Proofs.Charging.Links
import HomeEnergy.Proofs.Charging.Numbering
import HomeEnergy.Proofs.Charging.Replies

/-!
Texts of different charge points. Neither of two charge points can touch the session of the other,
and which of their texts is taken in first makes no difference (`different_chargePoints_commute`).

What the two share is the counter of transaction ids and the records. They do not compete for an id
unless both start a transaction, and no two sessions hold the same id (`Conserved.holder_unique`),
so that the transactions they end are kept under different ids.

The times in the state are those at which texts were taken in, which is another time when the order
is another. States are therefore compared with all times left out (`Central.timeless`). What a text
does depends on its own session, its time and the counter alone
(`Central.session?_receive_timeless`).
-/

namespace HomeEnergy.Charging

open Ocpp (Frame Request)

/-! ## Leaving out the times -/

def Connector.timeless (c : Connector) : Connector := { c with updatedAt := default }

def Transaction.timeless (t : Transaction) : Transaction :=
  { t with startedAt := default, ending := t.ending.map fun e => { e with time := default } }

def PendingCall.timeless (p : PendingCall) : PendingCall := { p with sentAt := default }

/-- The session with every time in it left out. -/
def Session.timeless (s : Session) : Session :=
  { s with
    connectedAt := default
    lastHeartbeat := default
    connectors := s.connectors.map .timeless
    transactions := s.transactions.map .timeless
    pending := s.pending.map .timeless }

/-- The central system with every time in it left out. -/
def Central.timeless (c : Central) : Central :=
  { c with sessions := c.sessions.map .timeless, former := c.former.map .timeless }

/-- A record without the times at which it was made. The times of meter values are those that the
charge point has given. -/
def Record.timeless : Record → Record
  | .transaction t => .transaction t.timeless
  | .meterValues r => .meterValues r

def History.timeless (h : History) : History :=
  { h with transactions := h.transactions.map .timeless }

/-- The same records, but for times and for the order of the meter values. -/
structure History.Alike (h h' : History) : Prop where
  transactions : h.timeless.transactions = h'.timeless.transactions
  meterValues : h.meterValues.Perm h'.meterValues

namespace Session

variable {s s' : Session}

theorem timeless_addTransaction (h : s.timeless = s'.timeless) {t t' : Transaction}
    (ht : t.timeless = t'.timeless) :
    (s.addTransaction t).timeless = (s'.addTransaction t').timeless := by
  have hput (s : Session) (t : Transaction) :
      (s.addTransaction t).timeless = s.timeless.addTransaction t.timeless := by
    simp only [addTransaction, timeless, Table.map_put]
    rfl
  rw [hput, hput, h, ht]

theorem timeless_removeTransaction (h : s.timeless = s'.timeless) (id : Int32) :
    (s.removeTransaction id).timeless = (s'.removeTransaction id).timeless := by
  have herase (s : Session) :
      (s.removeTransaction id).timeless = s.timeless.removeTransaction id := by
    simp only [removeTransaction, timeless, Table.map_erase]
  rw [herase, herase, h]

theorem timeless_removePending (h : s.timeless = s'.timeless) (id : String) :
    (s.removePending id).timeless = (s'.removePending id).timeless := by
  have herase (s : Session) : (s.removePending id).timeless = s.timeless.removePending id := by
    simp only [removePending, timeless, Table.map_erase]
  rw [herase, herase, h]

theorem timeless_updateConnector (h : s.timeless = s'.timeless) (id : UInt32) (now now' : Timestamp)
    {f f' : Connector → Connector}
    (hf : ∀ c c', c.timeless = c'.timeless → (f c).timeless = (f' c').timeless) :
    (s.updateConnector id now f).timeless = (s'.updateConnector id now' f').timeless := by
  have hput (s : Session) (now : Timestamp) (f : Connector → Connector) :
      (s.updateConnector id now f).timeless =
        { s.timeless with
          connectors := s.timeless.connectors.put id
            (f ((s.connectors.get? id).getD (.fresh id now))).timeless } := by
    simp only [updateConnector, timeless, Table.map_put]
  have hget : ((s.connectors.get? id).getD (.fresh id now)).timeless =
      ((s'.connectors.get? id).getD (.fresh id now')).timeless := by
    have hconnectors := congrArg (fun s => Table.get? s.connectors id) h
    simp only [timeless, Table.get?_map] at hconnectors
    rw [← Option.getD_map Connector.timeless, ← Option.getD_map Connector.timeless, hconnectors]
    rfl
  rw [hput, hput, h, hf _ _ hget]

end Session

namespace Central

variable {c c' : Central} {cp : String}

theorem timeless_updateSession
    (h : (c.session? cp).map Session.timeless = (c'.session? cp).map Session.timeless)
    {f f' : Session → Session}
    (hf : ∀ s s', s.timeless = s'.timeless → (f s).timeless = (f' s').timeless) :
    ((c.updateSession cp f).session? cp).map Session.timeless =
      ((c'.updateSession cp f').session? cp).map Session.timeless := by
  rw [session?_updateSession, session?_updateSession, if_pos rfl, if_pos rfl]
  cases hs : c.session? cp with
  | none =>
    rw [hs] at h
    rw [Option.map_eq_none_iff.1 h.symm]
    rfl
  | some s =>
    rw [hs] at h
    obtain ⟨s', hs', hsame⟩ := Option.map_eq_some_iff.1 h.symm
    rw [hs']
    exact congrArg some (hf s s' hsame.symm)

/-- What no text changes. -/
def rest (c : Central) : Central := { c with sessions := .empty, nextTransactionId := 0 }

theorem timeless_eq
    (hsessions : ∀ cp, (c.session? cp).map Session.timeless = (c'.session? cp).map Session.timeless)
    (hnext : c.nextTransactionId = c'.nextTransactionId) (hrest : c.rest = c'.rest) :
    c.timeless = c'.timeless := by
  have htables : c.sessions.map Session.timeless = c'.sessions.map Session.timeless := by
    refine Table.ext_get? fun cp => ?_
    rw [Table.get?_map, Table.get?_map]
    exact hsessions cp
  have hc (c : Central) : c.timeless = { c.rest.timeless with
      sessions := c.sessions.map Session.timeless
      nextTransactionId := c.nextTransactionId } := rfl
  rw [hc, hc c', htables, hnext, hrest]

end Central

/-! ## What a text depends on -/

/-- Whether a text begins a transaction and so takes an id. -/
def startsTransaction (text : String) : Bool :=
  match requestOf? text with
  | some (.startTransaction _) => true
  | _ => false

theorem startsTransaction_of_request {text : String} {req : Ocpp.StartTransaction}
    (hreq : requestOf? text = some (.startTransaction req)) : startsTransaction text := by
  unfold startsTransaction
  rw [hreq]

namespace Central

variable (c : Central) (cp : String) (now : Timestamp) (text : String)

/-- A text does not touch the sessions of other charge points. -/
theorem session?_receive_of_ne {cp' : String} (h : cp' ≠ cp) :
    (c.receive cp now text).central.session? cp' = c.session? cp' :=
  receive_induction (P := fun c' => c'.session? cp' = c.session? cp') rfl rfl
    (fun c' f hc' => ((c'.session?_updateSession cp f cp').trans (if_neg h)).trans hc') now text

/-- Besides a session, a text changes nothing but the counter of transaction ids. -/
theorem rest_receive : (c.receive cp now text).central.rest = c.rest := by
  refine receive_induction (P := fun c' => c'.rest = c.rest) rfl rfl ?_ now text
  intro c' f hc'
  unfold updateSession
  split <;> exact hc'

theorem response_onStopTransaction (req : Ocpp.StopTransaction) :
    (c.onStopTransaction cp now req).response = .stopTransaction .accepted := by
  unfold onStopTransaction
  split <;> rfl

theorem isSome_handsOut? :
    (c.handsOut? (.text cp now text)).isSome = startsTransaction text := by
  show ((requestOf? text).bind fun req => (c.answer cp now req).response.transactionId?).isSome = _
  unfold startsTransaction
  cases requestOf? text with
  | none => rfl
  | some req =>
    cases req with
    | stopTransaction req =>
      show (c.onStopTransaction cp now req).response.transactionId?.isSome = false
      rw [response_onStopTransaction]
      rfl
    | bootNotification _ | heartbeat | authorize _ | startTransaction _ | statusNotification _
    | meterValues _ | dataTransfer _ => rfl

theorem nextTransactionId_receive :
    (c.receive cp now text).central.nextTransactionId =
      if startsTransaction text then c.nextTransactionId + 1 else c.nextTransactionId := by
  rw [← c.isSome_handsOut? cp now text]
  rcases c.handsOut?_cases (.text cp now text) with ⟨hnone, hsame⟩ | ⟨hsome, hmoved⟩
  · rw [hnone]
    exact hsame
  · rw [hsome]
    exact hmoved

variable {c cp now text} {c' : Central}

/-- What is answered depends on the interval and, for a new transaction, on the counter, and on no
session. -/
theorem reply_receive_congr (hinterval : c.heartbeatInterval = c'.heartbeatInterval)
    (hnext : startsTransaction text → c.nextTransactionId = c'.nextTransactionId) :
    (c.receive cp now text).reply = (c'.receive cp now text).reply := by
  have hresponse (req : Request) (hreq : requestOf? text = some req) :
      (c.answer cp now req).response = (c'.answer cp now req).response := by
    cases req with
    | bootNotification req => exact congrArg (Ocpp.Response.bootNotification now) hinterval
    | startTransaction req =>
      exact congrArg (Ocpp.Response.startTransaction · .accepted)
        (hnext (startsTransaction_of_request hreq))
    | stopTransaction req =>
      exact (c.response_onStopTransaction cp now req).trans
        (c'.response_onStopTransaction cp now req).symm
    | heartbeat | authorize _ | statusNotification _ | meterValues _ | dataTransfer _ => rfl
  rw [reply_receive, reply_receive]
  cases hparse : Frame.parse text with
  | error fault => rfl
  | ok frame =>
    cases frame with
    | callResult id payload => rfl
    | callError id code description details => rfl
    | call id action payload =>
      simp only
      cases hdecode : decodeRequest action payload with
      | error refusal => rfl
      | ok req =>
        have hreq : requestOf? text = some req := by
          simp only [requestOf?, hparse, hdecode, Except.toOption]
        simp only [hresponse req hreq]

section

variable (hs : (c.session? cp).map Session.timeless = (c'.session? cp).map Session.timeless)
include hs

/-- What a request does to its session, and what it gives to be kept, depends on that session and,
for a new transaction, on the counter. -/
theorem answer_timeless {req : Request}
    (hnext : ∀ req', req = .startTransaction req' → c.nextTransactionId = c'.nextTransactionId)
    (now now' : Timestamp) :
    ((c.answer cp now req).central.session? cp).map Session.timeless =
        ((c'.answer cp now' req).central.session? cp).map Session.timeless ∧
      (c.answer cp now req).record.map Record.timeless =
        (c'.answer cp now' req).record.map Record.timeless := by
  cases req with
  | bootNotification req =>
    refine ⟨timeless_updateSession hs fun s s' h => ?_, rfl⟩
    let note (s : Session) : Session :=
      (s.acceptRegistration.setConfiguration "ChargePointVendor" req.chargePointVendor
        ).setConfiguration "ChargePointModel" req.chargePointModel
    have hnote : (note s).timeless = (note s').timeless := congrArg note h
    dsimp only
    split
    · next version _ => exact congrArg (·.setConfiguration "FirmwareVersion" version) hnote
    · exact hnote
  | heartbeat => exact ⟨timeless_updateSession hs fun _ _ h => h, rfl⟩
  | authorize req => exact ⟨hs, rfl⟩
  | startTransaction req =>
    have hid := hnext req rfl
    have hs' : (c.allocateTransactionId.2.session? cp).map Session.timeless =
        (c'.allocateTransactionId.2.session? cp).map Session.timeless := hs
    refine ⟨timeless_updateSession hs' fun s s' h => ?_, rfl⟩
    refine Session.timeless_updateConnector (Session.timeless_addTransaction h ?_) _ _ _ ?_
    · exact congrArg (fun id =>
        (Transaction.start id cp req.connectorId req.idTag req.meterStart default).timeless) hid
    · intro k k' hk
      show k.timeless.beginTransaction c.nextTransactionId default =
        k'.timeless.beginTransaction c'.nextTransactionId default
      rw [hk, hid]
  | stopTransaction req =>
    have hfound (c : Central) :
        ((c.session? cp).bind (·.transactions.get? req.transactionId)).map Transaction.timeless =
          ((c.session? cp).map Session.timeless).bind (·.transactions.get? req.transactionId) := by
      cases c.session? cp with
      | none => rfl
      | some s => exact (Table.get?_map _ _ _).symm
    have hsame := (hfound c).trans ((congrArg (Option.bind · _) hs).trans (hfound c').symm)
    unfold answer onStopTransaction
    dsimp only
    cases ht : (c.session? cp).bind (·.transactions.get? req.transactionId) with
    | none =>
      rw [ht] at hsame
      rw [Option.map_eq_none_iff.1 hsame.symm]
      exact ⟨hs, rfl⟩
    | some t =>
      rw [ht] at hsame
      obtain ⟨t', ht', hsame⟩ := Option.map_eq_some_iff.1 hsame.symm
      rw [ht']
      have hconnector : t'.connectorId = t.connectorId := by
        show t'.timeless.connectorId = t.timeless.connectorId
        rw [hsame]
      constructor
      · refine timeless_updateSession hs fun s s' h => ?_
        rw [hconnector]
        refine Session.timeless_updateConnector
          (Session.timeless_removeTransaction h req.transactionId) _ _ _ fun k k' hk => ?_
        exact congrArg (·.endTransaction default) hk
      · refine congrArg (fun t => some (Record.transaction t)) ?_
        exact congrArg (·.stop req.meterStop (req.reason.map Ocpp.StopReason.name) default)
          hsame.symm
  | statusNotification req =>
    refine ⟨timeless_updateSession hs fun s s' h => ?_, rfl⟩
    refine Session.timeless_updateConnector h _ _ _ fun k k' hk => ?_
    exact congrArg (·.report req.status req.errorCode.name default) hk
  | meterValues req => exact ⟨hs, rfl⟩
  | dataTransfer req => exact ⟨hs, rfl⟩

/-- The same of any text. It does not depend on the time, but for the times that are noted. -/
theorem session?_receive_timeless
    (hnext : startsTransaction text → c.nextTransactionId = c'.nextTransactionId)
    (now now' : Timestamp) :
    ((c.receive cp now text).central.session? cp).map Session.timeless =
        ((c'.receive cp now' text).central.session? cp).map Session.timeless ∧
      (c.receive cp now text).record.map Record.timeless =
        (c'.receive cp now' text).record.map Record.timeless := by
  cases hreq : requestOf? text with
  | some req =>
    obtain ⟨hcentral, hrecord⟩ := receive_of_request c cp now hreq
    obtain ⟨hcentral', hrecord'⟩ := receive_of_request c' cp now' hreq
    rw [hcentral, hrecord, hcentral', hrecord']
    refine answer_timeless hs ?_ now now'
    rintro req' rfl
    exact hnext (startsTransaction_of_request hreq)
  | none =>
    cases hset : settledId? text with
    | some id =>
      rw [receive_of_settled c cp now hset, receive_of_settled c' cp now' hset]
      exact ⟨timeless_updateSession hs fun _ _ h => Session.timeless_removePending h id, rfl⟩
    | none =>
      obtain ⟨hcentral, hrecord⟩ := receive_of_neither c cp now hreq hset
      obtain ⟨hcentral', hrecord'⟩ := receive_of_neither c' cp now' hreq hset
      rw [hcentral, hrecord, hcentral', hrecord']
      exact ⟨hs, rfl⟩

end

/-! ## Two texts -/

section

variable {a b textA textB : String} (hne : a ≠ b)
  (hapart : ¬ (startsTransaction textA ∧ startsTransaction textB))
include hne hapart

/-- A text does and brings forth the same whether or not a text of another charge point has been
taken in before it. -/
theorem receive_after_other (c : Central) (nowB now now' : Timestamp) :
    let c' := (c.receive b nowB textB).central
    (c'.receive a now textA).reply = (c.receive a now textA).reply ∧
    ((c'.receive a now textA).central.session? a).map Session.timeless =
      ((c.receive a now' textA).central.session? a).map Session.timeless ∧
    (c'.receive a now textA).record.map Record.timeless =
      (c.receive a now' textA).record.map Record.timeless := by
  intro c'
  have hsession : c'.session? a = c.session? a := c.session?_receive_of_ne b nowB textB hne
  have hinterval : c'.heartbeatInterval = c.heartbeatInterval := by
    show c'.rest.heartbeatInterval = c.rest.heartbeatInterval
    rw [rest_receive]
  have hnext (hstarts : startsTransaction textA) : c'.nextTransactionId = c.nextTransactionId := by
    rw [nextTransactionId_receive, if_neg fun hb => hapart ⟨hstarts, hb⟩]
  exact ⟨reply_receive_congr hinterval hnext,
    session?_receive_timeless (congrArg _ hsession) hnext now now'⟩

theorem receive_comm (c : Central) (now₁ now₂ now₃ now₄ : Timestamp) :
    ((c.receive a now₁ textA).central.receive b now₂ textB).central.timeless =
      ((c.receive b now₃ textB).central.receive a now₄ textA).central.timeless := by
  refine timeless_eq (fun cp => ?_) ?_ ?_
  · by_cases ha : cp = a
    · rw [ha, session?_receive_of_ne _ _ _ _ hne]
      exact (receive_after_other hne hapart c now₃ now₄ now₁).2.1.symm
    · by_cases hb : cp = b
      · rw [hb, session?_receive_of_ne _ a _ _ hne.symm]
        exact (receive_after_other hne.symm (fun h => hapart h.symm) c now₁ now₂ now₃).2.1
      · rw [session?_receive_of_ne _ _ _ _ hb, session?_receive_of_ne _ _ _ _ ha,
          session?_receive_of_ne _ _ _ _ ha, session?_receive_of_ne _ _ _ _ hb]
  · simp only [nextTransactionId_receive]
    split
    · split
      · next hb ha => exact absurd ⟨ha, hb⟩ hapart
      · rfl
    · rfl
  · simp only [rest_receive]

end

end Central

/-! ## What is kept -/

/-- The history with what a text has given to be kept, if anything. -/
def History.keep (h : History) (record : Option Record) : History := record.elim h h.add

theorem Recorder.records_receive (r : Recorder History) (cp : String) (now : Timestamp)
    (text : String) :
    (r.receive .memory cp now text).2.records =
      r.records.keep (r.central.receive cp now text).record := by
  unfold Recorder.receive
  dsimp only
  split <;> next hrecord => rw [hrecord]; rfl

theorem History.timeless_keep (h : History) (record : Option Record) :
    (h.keep record).timeless = h.timeless.keep (record.map Record.timeless) := by
  cases record with
  | none => rfl
  | some record =>
    cases record with
    | transaction t =>
      show History.mk ((h.transactions.put t.id t).map Transaction.timeless) _ = _
      rw [Table.map_put]
      rfl
    | meterValues m => rfl

theorem Record.map_timeless_eq_transaction {record : Option Record} {t : Transaction}
    (h : record.map Record.timeless = some (.transaction t)) :
    ∃ t₀, record = some (.transaction t₀) ∧ t₀.timeless = t := by
  obtain ⟨record, rfl, hrecord⟩ := Option.map_eq_some_iff.1 h
  cases record with
  | transaction t₀ =>
    cases hrecord
    exact ⟨t₀, rfl, rfl⟩
  | meterValues m => cases hrecord

theorem History.keep_comm (h : History) {x y : Option Record}
    (hne : ∀ t t', x = some (.transaction t) → y = some (.transaction t') → t.id ≠ t'.id) :
    ((h.keep x).keep y).transactions = ((h.keep y).keep x).transactions ∧
      ((h.keep x).keep y).meterValues.Perm ((h.keep y).keep x).meterValues := by
  cases x with
  | none => exact ⟨rfl, .refl _⟩
  | some x =>
    cases y with
    | none => exact ⟨rfl, .refl _⟩
    | some y =>
      cases x with
      | transaction t =>
        cases y with
        | transaction t' =>
          exact ⟨Table.put_comm _ (hne t t' rfl rfl) _ _, .refl _⟩
        | meterValues m' => exact ⟨rfl, .refl _⟩
      | meterValues m =>
        cases y with
        | transaction t' => exact ⟨rfl, .refl _⟩
        | meterValues m' =>
          refine ⟨rfl, ?_⟩
          show (h.meterValues ++ [m] ++ [m']).Perm (h.meterValues ++ [m'] ++ [m])
          rw [List.append_assoc, List.append_assoc]
          exact (List.Perm.swap m' m []).append_left _

namespace Central

variable {c : Central} {a b : String} {s s' : Session} {id : Int32}

/-- Sessions of two charge points are counted both. -/
theorem two_le_timesActive (hne : a ≠ b) (ha : c.session? a = some s) (hb : c.session? b = some s')
    (hs : s.holds id) (hs' : s'.holds id) : 2 ≤ c.timesActive id := by
  have hgetA : c.sessions.get? a = some s := ha
  have hgetB : (c.sessions.erase a).get? b = some s' := by
    rw [Table.get?_erase, if_neg hne.symm]
    exact hb
  have heraseA := Table.countP_values_erase (Session.holds id) c.sessions a
  have heraseB := Table.countP_values_erase (Session.holds id) (c.sessions.erase a) b
  rw [hgetA, Option.toList_some, List.countP_singleton, if_pos hs] at heraseA
  rw [hgetB, Option.toList_some, List.countP_singleton, if_pos hs'] at heraseB
  unfold timesActive
  omega

/-- What is kept of a transaction that has ended is what the session had under its id, stopped. -/
theorem exists_of_record {now : Timestamp} {text : String} {t : Transaction}
    (h : (c.receive a now text).record = some (.transaction t)) :
    ∃ req s t₀, requestOf? text = some (.stopTransaction req) ∧ c.session? a = some s ∧
      s.transactions.get? req.transactionId = some t₀ ∧
      t = t₀.stop req.meterStop (req.reason.map Ocpp.StopReason.name) now := by
  cases hreq : requestOf? text with
  | none =>
    cases hset : settledId? text with
    | some id =>
      rw [receive_of_settled c a now hset] at h
      cases h
    | none =>
      rw [(receive_of_neither c a now hreq hset).2] at h
      cases h
  | some req =>
    rw [(receive_of_request c a now hreq).2] at h
    cases req with
    | stopTransaction req =>
      unfold answer onStopTransaction at h
      dsimp only at h
      split at h
      · next t₀ ht₀ =>
        obtain ⟨s, hs, hget⟩ := Option.bind_eq_some_iff.1 ht₀
        cases h
        exact ⟨req, s, t₀, rfl, hs, hget, rfl⟩
      · cases h
    | bootNotification _ | heartbeat | authorize _ | startTransaction _ | statusNotification _
    | meterValues _ | dataTransfer _ => cases h

end Central

namespace Conserved

variable {c : Central} {issued unbooked : List Int32} {kept : List Record}

/-- An id is among the transactions of one charge point at most. -/
theorem holder_unique (h : Conserved c issued unbooked kept) (few : issued.length < 2 ^ 31)
    {a b : String} {s s' : Session} {id : Int32} {t t' : Transaction}
    (ha : c.session? a = some s) (hb : c.session? b = some s')
    (ht : s.transactions.get? id = some t) (ht' : s'.transactions.get? id = some t') : a = b := by
  by_contra hne
  have htwo := Central.two_le_timesActive hne ha hb (congrArg Option.isSome ht)
    (congrArg Option.isSome ht')
  have hone := h.one_place few (h.issued_of_active ha ht)
  omega

/-- Transactions of different charge points are kept under different ids. -/
theorem record_ids_ne (h : Conserved c issued unbooked kept) (few : issued.length < 2 ^ 31)
    {a b : String} (hne : a ≠ b) {now now' : Timestamp} {textA textB : String} {t t' : Transaction}
    (hA : (c.receive a now textA).record = some (.transaction t))
    (hB : (c.receive b now' textB).record = some (.transaction t')) : t.id ≠ t'.id := by
  obtain ⟨req, s, t₀, -, hs, hget, rfl⟩ := Central.exists_of_record hA
  obtain ⟨req', s', t₀', -, hs', hget', rfl⟩ := Central.exists_of_record hB
  show t₀.id ≠ t₀'.id
  rw [((h.belongs a s hs).owned _ _ hget).1, ((h.belongs b s' hs').owned _ _ hget').1]
  intro hsame
  rw [← hsame] at hget'
  exact hne (h.holder_unique few hs hs' hget hget')

end Conserved

/-! ## The main result -/

/-- Texts of two different charge points, whatever has happened before, as long as the counter of
ids has not come round and not both of them start a transaction. The text of one does not touch the
session of the other. Taken in in either order and at any times, they lead to the same state but for
those times, and to the same records but for the order of meter values, and each of them is answered
as it would have been at its time without the other. A request to stop a transaction of the other
has no effect at all. -/
theorem different_chargePoints_commute (heartbeatInterval : UInt32) (records : History)
    (events : List Event)
    (few : ((Central.fresh heartbeatInterval).issued events).length < 2 ^ 31 - 1)
    {a b textA textB : String} (hne : a ≠ b)
    (hapart : ¬ (startsTransaction textA ∧ startsTransaction textB)) :
    let r := (⟨.fresh heartbeatInterval, records⟩ : Recorder History).run .memory events
    (∀ now, (r.receive .memory a now textA).2.central.session? b = r.central.session? b) ∧
    (∀ now₁ now₂ now₃ now₄,
      let ab := (r.receive .memory a now₁ textA).2.receive .memory b now₂ textB
      let ba := (r.receive .memory b now₃ textB).2.receive .memory a now₄ textA
      ab.2.central.timeless = ba.2.central.timeless ∧
      ab.2.records.Alike ba.2.records ∧
      ab.1 = (r.receive .memory b now₂ textB).1 ∧
      ba.1 = (r.receive .memory a now₄ textA).1) ∧
    (∀ now req s t, requestOf? textA = some (.stopTransaction req) →
      r.central.session? b = some s → s.transactions.get? req.transactionId = some t →
      (r.receive .memory a now textA).2 = r) := by
  intro r
  have hr : r.central = (Central.fresh heartbeatInterval).run events := Recorder.central_run _ _ _
  have h := conserved_run heartbeatInterval events few
  rw [← hr] at h
  refine ⟨fun now => Central.session?_receive_of_ne _ _ _ _ hne.symm, ?_, ?_⟩
  · intro now₁ now₂ now₃ now₄ ab ba
    obtain ⟨hreplyA, -, hrecordA⟩ :=
      Central.receive_after_other hne hapart r.central now₃ now₄ now₁
    obtain ⟨hreplyB, -, hrecordB⟩ :=
      Central.receive_after_other hne.symm (fun h => hapart h.symm) r.central now₁ now₂ now₃
    let x := (r.central.receive a now₁ textA).record.map Record.timeless
    let y := (r.central.receive b now₃ textB).record.map Record.timeless
    have hkeptAB : ab.2.records.timeless = (r.records.timeless.keep x).keep y := by
      rw [Recorder.records_receive, Recorder.records_receive, History.timeless_keep,
        History.timeless_keep]
      exact congrArg _ hrecordB
    have hkeptBA : ba.2.records.timeless = (r.records.timeless.keep y).keep x := by
      rw [Recorder.records_receive, Recorder.records_receive, History.timeless_keep,
        History.timeless_keep]
      exact congrArg _ hrecordA
    have hids : ∀ t t', x = some (.transaction t) → y = some (.transaction t') → t.id ≠ t'.id := by
      intro t t' hx hy
      obtain ⟨t₀, ht₀, rfl⟩ := Record.map_timeless_eq_transaction hx
      obtain ⟨t₀', ht₀', rfl⟩ := Record.map_timeless_eq_transaction hy
      show t₀.id ≠ t₀'.id
      exact h.record_ids_ne (by omega) hne ht₀ ht₀'
    obtain ⟨htransactions, hmeterValues⟩ := r.records.timeless.keep_comm hids
    rw [← hkeptAB, ← hkeptBA] at htransactions hmeterValues
    exact ⟨Central.receive_comm hne hapart r.central now₁ now₂ now₃ now₄,
      ⟨htransactions, hmeterValues⟩, congrArg (Option.map Frame.serialize) hreplyB,
      congrArg (Option.map Frame.serialize) hreplyA⟩
  · intro now req s t hreq hs ht
    refine Recorder.after_stop_of_inactive hreq ?_ .memory now
    refine Option.bind_eq_none_iff.2 fun s' hs' => ?_
    by_contra hheld
    obtain ⟨t', ht'⟩ := Option.ne_none_iff_exists'.1 hheld
    exact hne (h.holder_unique (by omega) hs' hs ht' ht)

/-- Two charge points are connected, and each of them has started a transaction. -/
def neighbours : List Event :=
  [.register "CP1" ⟨0, 0, 0⟩, .register "CP2" ⟨0, 1, 0⟩, .text "CP1" ⟨0, 2, 0⟩ (startText "a"),
    .text "CP2" ⟨0, 3, 0⟩ (startText "b")]

/-- Both of them ask to stop the transaction of the second one. -/
theorem different_chargePoints_commute_neighbours :
    let r := (⟨.fresh 300, .empty⟩ : Recorder History).run .memory neighbours
    let ab := (r.receive .memory "CP1" ⟨0, 4, 0⟩ (stopText "c" 2)).2.receive .memory "CP2" ⟨0, 5, 0⟩
      (stopText "d" 2)
    let ba := (r.receive .memory "CP2" ⟨0, 4, 0⟩ (stopText "d" 2)).2.receive .memory "CP1" ⟨0, 5, 0⟩
      (stopText "c" 2)
    ((Central.fresh 300).issued neighbours).length < 2 ^ 31 - 1 ∧ "CP1" ≠ "CP2" ∧
    ¬ (startsTransaction (stopText "c" 2) ∧ startsTransaction (stopText "d" 2)) ∧
    (r.receive .memory "CP1" ⟨0, 4, 0⟩ (stopText "c" 2)).2 = r ∧
    ab.2.central.timeless = ba.2.central.timeless ∧ ab.2.records.Alike ba.2.records := by
  have few : ((Central.fresh 300).issued neighbours).length < 2 ^ 31 - 1 := by
    have hissued : (Central.fresh 300).issued neighbours = [1, 2] := by cbv
    rw [hissued]
    decide
  have hne : "CP1" ≠ "CP2" := by decide
  have hapart : ¬ (startsTransaction (stopText "c" 2) ∧ startsTransaction (stopText "d" 2)) := by
    have hstop : startsTransaction (stopText "c" 2) = false := by cbv
    rw [hstop]
    exact fun h => Bool.false_ne_true h.1
  have hreq : requestOf? (stopText "c" 2) =
      some (.stopTransaction ⟨none, 500, ⟨19844, 39600, 0⟩, 2, none, none⟩) := by cbv
  have hheld : (((⟨.fresh 300, .empty⟩ : Recorder History).run .memory neighbours).central.session?
      "CP2" |>.bind (·.transactions.get? 2)).isSome := by cbv
  have hmain := different_chargePoints_commute 300 .empty neighbours few hne hapart
  -- nothing more is to be computed of the state
  generalize (⟨.fresh 300, .empty⟩ : Recorder History).run .memory neighbours = r at hheld hmain ⊢
  obtain ⟨t, ht⟩ := Option.isSome_iff_exists.1 hheld
  obtain ⟨s, hs, hget⟩ := Option.bind_eq_some_iff.1 ht
  obtain ⟨-, hcomm, hstop⟩ := hmain
  obtain ⟨hcentral, hrecords, -⟩ := hcomm ⟨0, 4, 0⟩ ⟨0, 5, 0⟩ ⟨0, 4, 0⟩ ⟨0, 5, 0⟩
  exact ⟨few, hne, hapart, hstop _ _ s t hreq hs hget, hcentral, hrecords⟩

end HomeEnergy.Charging
