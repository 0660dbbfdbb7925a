import HomeEnergy.Proofs.Charging.Commuting
import HomeEnergy.Proofs.Charging.Links
import HomeEnergy.Proofs.Charging.Observer
import HomeEnergy.Proofs.Charging.Replies

/-!
What a history holds after a run is what happened in it: of each transaction that was stopped while
it was running one record, put together from the request that began it and the request that ended
it, and of each report of meter values that was answered with a result one record, in the order in
which they came (`history_follows_run`).

A transaction is running as long as neither its session has ended nor its charge point has asked to
stop it (`Central.runs_run_iff`). Its id is taken by no other one, because the counter has not come
round, so that nothing in a session or in the history is ever overwritten.
-/

namespace HomeEnergy

namespace Json.Decoder

/-! ## Words of the wire -/

variable {α : Type} {name : α → String} {all : List α} {a : α}

/-- What is decoded by its name is what the name stands for. -/
theorem named_name {given : String} (h : named (all.map fun a => (name a, a)) given = .ok a) :
    given = name a := by
  unfold named at h
  split at h
  · next hget =>
    cases h
    induction all with
    | nil => cases hget
    | cons b rest ih =>
      rw [List.map_cons, Entries.get?] at hget
      split at hget
      · next hsame =>
        cases hget
        exact hsame
      · exact ih hget
  · cases h

theorem variant_name {j : Json} (h : variant (all.map fun a => (name a, a)) j = .ok a) :
    j = .string (name a) ∨ j = .object [(name a, .null)] := by
  unfold variant at h
  split at h
  · exact Or.inl (congrArg Json.string (named_name h))
  · next key value =>
    cases hkey : named (all.map fun a => (name a, a)) key with
    | error mismatch =>
      rw [hkey] at h
      cases h
    | ok b =>
      have hchecked : (if value = .null then Except.ok b
          else .error (Mismatch.wrongKind value .nothing)) = .ok a := by
        rw [hkey] at h
        exact h
      split at hchecked
      · next hnull =>
        cases hchecked
        rw [hnull, ← named_name hkey]
        exact Or.inr rfl
      · cases hchecked
  · cases h
  · cases h

end Json.Decoder

namespace Ocpp

/-- The action of a request. -/
def Request.action : Request → Action
  | .bootNotification _ => .bootNotification
  | .heartbeat => .heartbeat
  | .authorize _ => .authorize
  | .startTransaction _ => .startTransaction
  | .stopTransaction _ => .stopTransaction
  | .statusNotification _ => .statusNotification
  | .meterValues _ => .meterValues
  | .dataTransfer _ => .dataTransfer

/-- What is decoded for an action is a request of this action. -/
theorem Request.action_of_decode {a : Action} {payload : Json} {req : Request}
    (h : Request.decode a payload = .ok req) : req.action = a := by
  have hmap {α : Type} {decoded : Except Json.Mismatch α} {f : α → Request}
      (hf : ∀ x, (f x).action = a) (h : decoded.map f = .ok req) : req.action = a := by
    cases decoded with
    | error mismatch => cases h
    | ok x =>
      cases h
      exact hf x
  cases a with
  | heartbeat =>
    -- there are no fields, and so nothing that the request could be made of
    unfold Request.decode Json.Decoder.record at h
    dsimp only at h
    split at h
    · next members =>
      cases hcheck : members.forM fun m => (Json.Fields.just Request.heartbeat).check m.1 m.2 with
      | error mismatch =>
        rw [hcheck] at h
        cases h
      | ok _ =>
        rw [hcheck] at h
        cases h
        rfl
    · next items =>
      cases items with
      | nil =>
        cases h
        rfl
      | cons item rest => cases h
    · cases h
  | bootNotification | authorize | startTransaction | stopTransaction | statusNotification
  | meterValues | dataTransfer => exact hmap (fun _ => rfl) h

end Ocpp

namespace Charging

open Ocpp (Frame Request)

/-! ## Running transactions -/

/-- The transactions that run at a charge point, and the connection of their session. -/
structure Running where
  connectionId : UInt64
  transactions : Table Int32 Transaction

/-- The running transactions after a text that makes a request to begin or to end one; the id is the
one for a transaction that begins. -/
def Running.take (id : Int32) (cp : String) (now : Timestamp) (text : String) (r : Running) :
    Running :=
  match requestOf? text with
  | some (.startTransaction req) =>
    let t := Transaction.start id cp req.connectorId req.idTag req.meterStart now
    { r with transactions := r.transactions.put id t }
  | some (.stopTransaction req) =>
    { r with transactions := r.transactions.erase req.transactionId }
  | _ => r

def Session.running (s : Session) : Running := ⟨s.connectionId, s.transactions⟩

/-- The event is a request of a charge point to stop the transaction of an id. -/
def Event.Stops (cp : String) (id : Int32) (e : Event) : Prop :=
  ∃ now text req, e = .text cp now text ∧ requestOf? text = some (.stopTransaction req) ∧
    req.transactionId = id

namespace Central

def running? (c : Central) (cp : String) : Option Running := (c.session? cp).map Session.running

/-- A transaction runs in the session that a charge point has under a connection. -/
def Runs (c : Central) (cp : String) (k : UInt64) (t : Transaction) : Prop :=
  ∃ r, c.running? cp = some r ∧ r.connectionId = k ∧ r.transactions.get? t.id = some t

/-- The event is a request that begins a transaction, in the session that its charge point has under
a connection. -/
def Begins (c : Central) (cp : String) (k : UInt64) (t : Transaction) (e : Event) : Prop :=
  ∃ now text req, e = .text cp now text ∧ requestOf? text = some (.startTransaction req) ∧
    c.handsOut? e = some t.id ∧ (∃ r, c.running? cp = some r ∧ r.connectionId = k) ∧
    t = { id := t.id, chargePointId := cp, connectorId := req.connectorId, idTag := req.idTag,
          meterStart := req.meterStart, startedAt := now, ending := none }

/-- A transaction was begun in the session that a charge point has under a connection, and since
then this session has not ended and its charge point has not asked to stop the transaction. -/
def Underway (start : Central) (events : List Event) (cp : String) (k : UInt64)
    (t : Transaction) : Prop :=
  ∃ before e since, events = before ++ e :: since ∧ (start.run before).Begins cp k t e ∧
    ∀ e' ∈ since, ¬ (e'.Ends cp k ∨ e'.Stops cp t.id)

/-- What becomes of a transaction that is underway when its charge point asks to stop it, which is
the first request to do so in its session. -/
def Finished (start : Central) (events : List Event) (t : Transaction) : Prop :=
  ∃ before cp now text after, events = before ++ .text cp now text :: after ∧
    ∃ req k t₀, requestOf? text = some (.stopTransaction req) ∧
      start.Underway before cp k t₀ ∧ t₀.id = req.transactionId ∧
      t = { t₀ with ending := some ⟨req.meterStop, now, req.reason.map Ocpp.StopReason.name⟩ }

variable {c c' : Central} {cp : String} {k : UInt64} {t : Transaction}

theorem running?_updateSession {f : Session → Session} {g : Running → Running}
    (hf : ∀ s, (f s).running = g s.running) (c : Central) (cp cp' : String) :
    (c.updateSession cp f).running? cp' =
      if cp' = cp then (c.running? cp).map g else c.running? cp' := by
  unfold running?
  rw [session?_updateSession, apply_ite (Option.map _), Option.map_map, Option.map_map]
  exact congrArg (fun h => if cp' = cp then (c.session? cp).map h else _) (funext hf)

theorem running?_updateSession_of_same {f : Session → Session}
    (hf : ∀ s, (f s).running = s.running) (c : Central) (cp cp' : String) :
    (c.updateSession cp f).running? cp' = c.running? cp' := by
  rw [running?_updateSession (g := id) hf, Option.map_id, id_eq]
  split
  · next he => rw [he]
  · rfl

theorem running?_of_sameBooks (h : SameBooks c c') (cp : String) :
    c'.running? cp = c.running? cp := by
  have hsame := congrArg (Option.map Session.running) (h.sessions cp)
  rw [Option.map_map, Option.map_map] at hsame
  exact hsame

/-- Where there is no session, or the session has no such transaction, nothing is to be taken
out. -/
theorem running?_onStopTransaction (c : Central) (cp : String) (now : Timestamp)
    (req : Ocpp.StopTransaction) :
    (c.onStopTransaction cp now req).central.running? cp = (c.running? cp).map fun r =>
      { r with transactions := r.transactions.erase req.transactionId } := by
  cases hget : (c.session? cp).bind (·.transactions.get? req.transactionId) with
  | some t =>
    unfold onStopTransaction
    rw [hget]
    refine (running?_updateSession (g := fun r => ⟨r.connectionId, _⟩) ?_ c cp cp).trans
      (if_pos rfl)
    exact fun _ => rfl
  | none =>
    rw [stop_of_inactive hget]
    unfold running?
    cases hs : c.session? cp with
    | none => rfl
    | some s =>
      rw [hs, Option.bind_some] at hget
      exact congrArg (fun ts => some (Running.mk s.connectionId ts)) (Table.erase_of_get? hget).symm

theorem running?_answer (c : Central) (cp : String) (now : Timestamp) {text : String}
    {req : Request} (hreq : requestOf? text = some req) :
    (c.answer cp now req).central.running? cp =
      (c.running? cp).map (Running.take c.nextTransactionId cp now text) := by
  have hsame (h : ∀ r, Running.take c.nextTransactionId cp now text r = r) :
      (c.running? cp).map (Running.take c.nextTransactionId cp now text) = c.running? cp := by
    rw [show Running.take c.nextTransactionId cp now text = id from funext h, Option.map_id, id_eq]
  unfold Running.take at hsame ⊢
  rw [hreq] at hsame ⊢
  cases req with
  | startTransaction req =>
    refine (running?_updateSession (g := fun r => ⟨r.connectionId, _⟩) ?_
      c.allocateTransactionId.2 cp cp).trans (if_pos rfl)
    exact fun _ => rfl
  | stopTransaction req => exact running?_onStopTransaction c cp now req
  | bootNotification req =>
    rw [hsame fun _ => rfl]
    refine running?_updateSession_of_same (fun s => ?_) c cp cp
    dsimp only
    split <;> rfl
  | heartbeat =>
    rw [hsame fun _ => rfl]
    refine running?_updateSession_of_same ?_ c cp cp
    exact fun _ => rfl
  | statusNotification req =>
    rw [hsame fun _ => rfl]
    refine running?_updateSession_of_same ?_ c cp cp
    exact fun _ => rfl
  | authorize _ | meterValues _ | dataTransfer _ => rw [hsame fun _ => rfl]; rfl

/-- What runs after an event, by the event. -/
theorem running?_after (c : Central) (e : Event) (cp' : String) :
    (c.after e).running? cp' =
      match e with
      | .register cp _ =>
        if cp' = cp then some ⟨c.nextConnectionId, .empty⟩ else c.running? cp'
      | .unregister cp id =>
        if cp' = cp then (c.running? cp).filter (·.connectionId ≠ id) else c.running? cp'
      | .text cp now text =>
        if cp' = cp then (c.running? cp).map (Running.take c.nextTransactionId cp now text)
        else c.running? cp'
      | _ => c.running? cp' := by
  cases e with
  | register cp now =>
    show ((c.register cp now).2.session? cp').map _ = _
    rw [session?_register, apply_ite (Option.map _)]
    rfl
  | unregister cp id =>
    show ((c.unregister cp id).2.session? cp').map _ = _
    simp only [session?_unregister, apply_ite (Option.map _), running?, Option.filter_map]
    rfl
  | hangUp id => exact running?_of_sameBooks (sameBooks_hangUp c id) cp'
  | call cp id action payload now =>
    exact running?_of_sameBooks (sameBooks_call c cp id action payload now) cp'
  | text cp now text =>
    dsimp only
    split
    · next he =>
      rw [he]
      cases hreq : requestOf? text with
      | some req =>
        rw [← running?_answer c cp now hreq]
        exact congrArg (·.running? cp) (receive_of_request c cp now hreq).1
      | none =>
        have htake : Running.take c.nextTransactionId cp now text = id := by
          funext r
          unfold Running.take
          rw [hreq]
          rfl
        rw [htake, Option.map_id, id_eq]
        rcases c.after_cases (.text cp now text) with
          ⟨_, _, h⟩ | ⟨_, _, h⟩ | ⟨_, _, _, _, h, hsome⟩ | ⟨hbooks, -⟩
        · cases h
        · cases h
        · cases h
          rw [hreq] at hsome
          cases hsome
        · exact running?_of_sameBooks hbooks cp
    · next hne =>
      exact congrArg (Option.map _) (session?_receive_of_ne c cp now text hne)

/-! ## How long a transaction runs -/

variable {issued unbooked : List Int32} {kept : List Record}

theorem begins_text_iff {cp' : String} {now : Timestamp} {text : String} :
    c.Begins cp k t (.text cp' now text) ↔ cp' = cp ∧
      (∃ r, c.running? cp = some r ∧ r.connectionId = k) ∧
      ∃ req, requestOf? text = some (.startTransaction req) ∧
        t = .start c.nextTransactionId cp req.connectorId req.idTag req.meterStart now := by
  have hid {req : Ocpp.StartTransaction} (hreq : requestOf? text = some (.startTransaction req)) :
      c.handsOut? (.text cp' now text) = some c.nextTransactionId :=
    c.handsOut?_of_request cp' now hreq
  constructor
  · rintro ⟨now', text', req, he, hreq, hid', hr, ht⟩
    cases he
    rw [hid hreq] at hid'
    exact ⟨rfl, hr, req, hreq, Option.some.inj hid' ▸ ht⟩
  · rintro ⟨rfl, hr, req, hreq, rfl⟩
    exact ⟨now, text, req, rfl, hreq, hid hreq, hr, rfl⟩

theorem stops_text_iff {cp' : String} {now : Timestamp} {text : String} {id : Int32} :
    (Event.text cp' now text).Stops cp id ↔
      cp' = cp ∧ ∃ req, requestOf? text = some (.stopTransaction req) ∧ req.transactionId = id := by
  constructor
  · rintro ⟨now', text', req, he, hreq, hid⟩
    cases he
    exact ⟨rfl, req, hreq, hid⟩
  · rintro ⟨rfl, req, hreq, hid⟩
    exact ⟨now, text, req, rfl, hreq, hid⟩

/-- A text begins the transaction, or leaves it running because it does not ask to stop it. -/
theorem get?_take_iff {r : Running} {id : Int32} {now : Timestamp} {text : String}
    (hfresh : r.transactions.get? t.id = some t → t.id ≠ id) :
    (r.take id cp now text).transactions.get? t.id = some t ↔
      (∃ req, requestOf? text = some (.startTransaction req) ∧
        t = .start id cp req.connectorId req.idTag req.meterStart now) ∨
      (r.transactions.get? t.id = some t ∧
        ¬ ∃ req, requestOf? text = some (.stopTransaction req) ∧ req.transactionId = t.id) := by
  unfold Running.take
  cases hreq : requestOf? text with
  | none => simp
  | some req =>
    cases req with
    | startTransaction req =>
      let new := Transaction.start id cp req.connectorId req.idTag req.meterStart now
      have hput : (r.transactions.put id new).get? t.id = some t ↔
          t = new ∨ r.transactions.get? t.id = some t := by
        rw [Table.get?_put]
        by_cases he : t.id = id
        · rw [if_pos he, Option.some_inj, eq_comm]
          exact (or_iff_left fun hold => hfresh hold he).symm
        · rw [if_neg he]
          refine (or_iff_right ?_).symm
          rintro rfl
          exact he rfl
      simpa using hput
    | stopTransaction req =>
      have herase : (r.transactions.erase req.transactionId).get? t.id = some t ↔
          r.transactions.get? t.id = some t ∧ req.transactionId ≠ t.id := by
        rw [Table.get?_erase]
        by_cases he : t.id = req.transactionId
        · rw [if_pos he]
          exact iff_of_false (Option.some_ne_none t).symm fun hboth => hboth.2 he.symm
        · rw [if_neg he]
          exact (and_iff_left (Ne.symm he)).symm
      simpa using herase
    | bootNotification _ | heartbeat | authorize _ | statusNotification _ | meterValues _
    | dataTransfer _ => simp

theorem connectionId_take (r : Running) (id : Int32) (cp : String) (now : Timestamp)
    (text : String) : (r.take id cp now text).connectionId = r.connectionId := by
  unfold Running.take
  split <;> rfl

theorem runs_after_text {now : Timestamp} {text : String} :
    (c.after (.text cp now text)).Runs cp k t ↔
      ∃ r, c.running? cp = some r ∧ r.connectionId = k ∧
        (r.take c.nextTransactionId cp now text).transactions.get? t.id = some t := by
  unfold Runs
  rw [running?_after]
  dsimp only
  rw [if_pos rfl]
  constructor
  · rintro ⟨_, htaken, hk, ht⟩
    obtain ⟨r, hr, rfl⟩ := Option.map_eq_some_iff.1 htaken
    rw [connectionId_take] at hk
    exact ⟨r, hr, hk, ht⟩
  · rintro ⟨r, hr, hk, ht⟩
    exact ⟨_, Option.map_eq_some_iff.2 ⟨r, hr, rfl⟩, (connectionId_take _ _ _ _ _).trans hk, ht⟩

/-- A transaction that runs after an event was begun by it, or has run before and the event neither
ends its session nor stops it. -/
theorem runs_after_iff (h : Conserved c issued unbooked kept) (few : issued.length + 1 < 2 ^ 31)
    (e : Event) : (c.after e).Runs cp k t ↔
      c.Begins cp k t e ∨ (c.Runs cp k t ∧ ¬ (e.Ends cp k ∨ e.Stops cp t.id)) := by
  -- only texts begin or stop a transaction
  have hquiet (hother : ∀ now text, e ≠ .text cp now text) :
      (c.Begins cp k t e ∨ (c.Runs cp k t ∧ ¬ (e.Ends cp k ∨ e.Stops cp t.id))) ↔
        c.Runs cp k t ∧ ¬ e.Ends cp k := by
    have hbegins : ¬ c.Begins cp k t e := by
      rintro ⟨now, text, -, htext, -⟩
      exact hother now text htext
    have hstops : ¬ e.Stops cp t.id := by
      rintro ⟨now, text, -, htext, -⟩
      exact hother now text htext
    rw [or_iff_right hbegins, or_iff_left hstops]
  cases e with
  | register cp' now =>
    rw [hquiet fun _ _ => Event.noConfusion]
    unfold Runs
    rw [running?_after]
    dsimp only
    by_cases he : cp = cp'
    · rw [if_pos he]
      refine iff_of_false ?_ fun hboth => hboth.2 he.symm
      rintro ⟨r, hr, -, ht⟩
      cases hr
      cases ht
    · rw [if_neg he]
      exact (and_iff_left (Ne.symm he)).symm
  | unregister cp' id =>
    rw [hquiet fun _ _ => Event.noConfusion]
    unfold Runs
    rw [running?_after]
    dsimp only
    by_cases he : cp = cp'
    · subst he
      simp only [if_pos, Option.filter_eq_some_iff, Event.Ends, true_and, decide_eq_true_eq]
      constructor
      · rintro ⟨r, ⟨hr, hne⟩, rfl, ht⟩
        exact ⟨⟨r, hr, rfl, ht⟩, Ne.symm hne⟩
      · rintro ⟨⟨r, hr, rfl, ht⟩, hne⟩
        exact ⟨r, ⟨hr, Ne.symm hne⟩, rfl, ht⟩
    · rw [if_neg he]
      exact (and_iff_left fun hends => he hends.1.symm).symm
  | hangUp id =>
    rw [hquiet fun _ _ => Event.noConfusion]
    unfold Runs
    rw [running?_after]
    exact (and_iff_left False.elim).symm
  | call cp' id action payload now =>
    rw [hquiet fun _ _ => Event.noConfusion]
    unfold Runs
    rw [running?_after]
    exact (and_iff_left False.elim).symm
  | text cp' now text =>
    by_cases he : cp' = cp
    · subst he
      rw [runs_after_text]
      have hfresh {r : Running} (hr : c.running? cp' = some r)
          (ht : r.transactions.get? t.id = some t) : t.id ≠ c.nextTransactionId := by
        obtain ⟨s, hs, rfl⟩ := Option.map_eq_some_iff.1 hr
        exact Int32.ne_of_lt (h.lt_next few (h.issued_of_active hs ht))
      simp only [begins_text_iff, stops_text_iff, Event.Ends, true_and, false_or]
      constructor
      · rintro ⟨r, hr, hk, ht⟩
        rcases (get?_take_iff (hfresh hr)).1 ht with hbegun | ⟨hold, hgoes⟩
        · exact Or.inl ⟨⟨r, hr, hk⟩, hbegun⟩
        · exact Or.inr ⟨⟨r, hr, hk, hold⟩, hgoes⟩
      · rintro (⟨⟨r, hr, hk⟩, hbegun⟩ | ⟨⟨r, hr, hk, hold⟩, hgoes⟩)
        · exact ⟨r, hr, hk, (get?_take_iff (hfresh hr)).2 (Or.inl hbegun)⟩
        · exact ⟨r, hr, hk, (get?_take_iff (hfresh hr)).2 (Or.inr ⟨hold, hgoes⟩)⟩
    · rw [hquiet fun _ _ htext => he (Event.text.inj htext).1]
      unfold Runs
      rw [running?_after]
      dsimp only
      rw [if_neg (Ne.symm he)]
      exact (and_iff_left False.elim).symm

variable {start : Central} {events : List Event}

theorem underway_concat {e : Event} :
    start.Underway (events ++ [e]) cp k t ↔ (start.run events).Begins cp k t e ∨
      (start.Underway events cp k t ∧ ¬ (e.Ends cp k ∨ e.Stops cp t.id)) := by
  refine Iff.trans (exists_since_concat_iff (f := id)) (or_congr_left ?_)
  exact ⟨fun ⟨_, he, h⟩ => he ▸ h, fun h => ⟨e, rfl, h⟩⟩

/-- What runs after a run is what was begun in it and has neither lost its session nor been stopped
since. -/
theorem runs_run_iff {heartbeatInterval : UInt32}
    (few : ((fresh heartbeatInterval).issued events).length < 2 ^ 31 - 1) :
    ((fresh heartbeatInterval).run events).Runs cp k t ↔
      (fresh heartbeatInterval).Underway events cp k t := by
  induction events using List.reverseRecOn with
  | nil =>
    refine iff_of_false ?_ ?_
    · rintro ⟨_, hr, -⟩
      cases hr
    · rintro ⟨before, e, since, heq, -⟩
      exact List.cons_ne_nil _ _ (List.append_eq_nil_iff.1 heq.symm).2
  | append_singleton events e ih =>
    have few' : ((fresh heartbeatInterval).issued events).length < 2 ^ 31 - 1 := by
      rw [issued_append, List.length_append] at few
      omega
    have h := conserved_run heartbeatInterval events few'
    rw [run_concat, runs_after_iff h (by omega), ih few', underway_concat]

/-! ## What is handed over -/

/-- What is handed over of a transaction is what a request to stop it makes of it while it runs. -/
theorem handsOver?_eq_transaction_iff (h : Conserved c issued unbooked kept) {e : Event} :
    c.handsOver? e = some (.transaction t) ↔
      ∃ cp now text req k t₀, e = .text cp now text ∧
        requestOf? text = some (.stopTransaction req) ∧ c.Runs cp k t₀ ∧
        t₀.id = req.transactionId ∧
        t = t₀.stop req.meterStop (req.reason.map Ocpp.StopReason.name) now := by
  constructor
  · intro hover
    cases e with
    | text cp now text =>
      obtain ⟨req, s, t₀, hreq, hs, hget, ht⟩ := exists_of_record hover
      obtain ⟨hid, -⟩ := (h.belongs cp s hs).owned _ _ hget
      refine ⟨cp, now, text, req, s.connectionId, t₀, rfl, hreq, ?_, hid, ht⟩
      exact ⟨s.running, congrArg (Option.map Session.running) hs, rfl, hid ▸ hget⟩
    | _ => cases hover
  · rintro ⟨cp, now, text, req, k, t₀, rfl, hreq, ⟨_, hr, -, hget⟩, hid, rfl⟩
    obtain ⟨s, hs, rfl⟩ := Option.map_eq_some_iff.1 hr
    have hruns : (c.session? cp).bind (·.transactions.get? req.transactionId) = some t₀ :=
      Option.bind_eq_some_iff.2 ⟨s, hs, hid ▸ hget⟩
    refine (receive_of_request c cp now hreq).2.trans ?_
    show (c.onStopTransaction cp now req).record = _
    unfold onStopTransaction
    rw [hruns]

theorem mem_handed_iff {heartbeatInterval : UInt32}
    (few : ((fresh heartbeatInterval).issued events).length < 2 ^ 31 - 1) :
    .transaction t ∈ (fresh heartbeatInterval).gathered handsOver? events ↔
      (fresh heartbeatInterval).Finished events t := by
  have hbefore {before : List Event} {e : Event} {after : List Event}
      (heq : events = before ++ e :: after) :
      ((fresh heartbeatInterval).issued before).length < 2 ^ 31 - 1 := by
    rw [heq, issued_append, List.length_append] at few
    omega
  rw [mem_gathered_iff]
  constructor
  · rintro ⟨before, e, after, heq, hover⟩
    have h := conserved_run heartbeatInterval before (hbefore heq)
    obtain ⟨cp, now, text, req, k, t₀, rfl, hreq, hruns, hid, ht⟩ :=
      (handsOver?_eq_transaction_iff h).1 hover
    exact ⟨before, cp, now, text, after, heq, req, k, t₀, hreq,
      (runs_run_iff (hbefore heq)).1 hruns, hid, ht⟩
  · rintro ⟨before, cp, now, text, after, heq, req, k, t₀, hreq, hunderway, hid, ht⟩
    have h := conserved_run heartbeatInterval before (hbefore heq)
    refine ⟨before, _, after, heq, (handsOver?_eq_transaction_iff h).2 ?_⟩
    exact ⟨cp, now, text, req, k, t₀, rfl, hreq, (runs_run_iff (hbefore heq)).2 hunderway, hid, ht⟩

end Central

/-- The store is given one record at most for each id. -/
theorem Conserved.kept_once {c : Central} {issued unbooked : List Int32} {kept : List Record}
    (h : Conserved c issued unbooked kept) (few : issued.length < 2 ^ 31) (id : Int32) :
    kept.countP (Record.isOf id) ≤ 1 := by
  by_cases hid : id ∈ issued
  · have := h.one_place few hid
    omega
  · have := h.balance id
    rw [List.count_eq_zero_of_not_mem hid] at this
    omega

/-! ## What the history holds -/

/-- The meter values of a record, if it is one of meter values. -/
def Record.meterRecord? : Record → Option MeterRecord
  | .meterValues r => some r
  | .transaction _ => none

namespace History

variable {records : List Record}

/-- Where no id comes twice, every transaction is found under its id. -/
theorem get?_foldl_add (once : ∀ id, records.countP (Record.isOf id) ≤ 1) {id : Int32}
    {t : Transaction} : (records.foldl add empty).transactions.get? id = some t ↔
      .transaction t ∈ records ∧ t.id = id := by
  induction records using List.reverseRecOn with
  | nil => exact iff_of_false nofun fun h => List.not_mem_nil h.1
  | append_singleton records record ih =>
    have hcount (id : Int32) : records.countP (Record.isOf id) +
        [record].countP (Record.isOf id) ≤ 1 := List.countP_append ▸ once id
    have hih := ih fun id => (Nat.le_add_right _ _).trans (hcount id)
    rw [List.foldl_concat, List.mem_append, List.mem_singleton]
    cases record with
    | meterValues r => simpa [add] using hih
    | transaction t' =>
      show ((records.foldl add empty).transactions.put t'.id t').get? id = some t ↔ _
      rw [Table.get?_put]
      split
      · next he =>
        -- the new one is the only one with its id
        have hnew : .transaction t ∉ records ∨ t.id ≠ id := by
          by_contra! hold
          have hpos : 0 < records.countP (Record.isOf id) :=
            List.countP_pos_iff.2 ⟨_, hold.1, decide_eq_true hold.2⟩
          have hone : [Record.transaction t'].countP (Record.isOf id) = 1 := by
            rw [List.countP_singleton]
            exact if_pos (decide_eq_true he.symm)
          have := hcount id
          omega
        constructor
        · rintro ⟨⟩
          exact ⟨Or.inr rfl, he.symm⟩
        · rintro ⟨hold | hsame, hid⟩
          · exact absurd hnew (by simp [hold, hid])
          · cases hsame
            rfl
      · next hne =>
        rw [hih]
        refine and_congr_left fun hid => (or_iff_left ?_).symm
        rintro ⟨⟩
        exact hne hid.symm

theorem meterValues_foldl_add (h : History) (records : List Record) :
    (records.foldl add h).meterValues = h.meterValues ++ records.filterMap Record.meterRecord? := by
  induction records generalizing h with
  | nil => exact (List.append_nil _).symm
  | cons record rest ih =>
    rw [List.foldl_cons, ih]
    cases record with
    | meterValues r => exact List.append_assoc _ _ _
    | transaction t => rfl

end History

/-- The history of a run is made up of what the run handed over, one after another. -/
theorem Recorder.records_run (c : Central) (h : History) (events : List Event) :
    (Recorder.run .memory ⟨c, h⟩ events).records =
      (c.gathered Central.handsOver? events).foldl History.add h := by
  have hfollows : RecordStore.memory.Follows .listing fun list => list.foldl History.add h :=
    fun record list => List.foldl_concat _ _ _ _
  have hlist : (Recorder.run .listing ⟨c, []⟩ events).records =
      c.gathered Central.handsOver? events := by
    have hlogged := RecordStore.logged_run .discarding ⟨c, (), []⟩ events
    rw [List.nil_append] at hlogged
    rw [← hlogged]
    exact congrArg Recorder.records
      (run_mapRecords (RecordStore.listing_follows_logged .discarding) ⟨c, (), []⟩ events)
  rw [← hlist]
  exact congrArg Recorder.records (run_mapRecords hfollows ⟨c, []⟩ events)

/-! ## Meter values -/

/-- The record lists the sampled values of all meter values, one after another: at the place of each
of them, counted over all those before it, there is its value with its unit and what it measures,
and the time of the meter value that it is part of, and there is nothing else. -/
structure MeterRecord.Lists (r : MeterRecord) (values : List Ocpp.MeterValue) : Prop where
  length : r.samples.length = (values.map fun v => v.sampledValue.length).sum
  sample : ∀ before v after earlier s later, values = before ++ v :: after →
    v.sampledValue = earlier ++ s :: later →
      r.samples[(before.map fun v => v.sampledValue.length).sum + earlier.length]? = some
        { timestamp := v.timestamp
          measurand := (s.measurand.map Ocpp.Measurand.name).getD "Energy.Active.Import.Register"
          value := s.value
          unit := s.unit.map Ocpp.Measure.name }

/-- The record is that of the meter values that a charge point reports with a payload. -/
def MeterRecord.Reports (call : String × Json) (r : MeterRecord) : Prop :=
  ∃ req, Ocpp.MeterValues.decode call.2 = .ok req ∧ r.chargePointId = call.1 ∧
    r.connectorId = req.connectorId ∧ r.transactionId = req.transactionId ∧
    r.Lists req.meterValue

theorem action_of_decodeRequest {action : String} {payload : Json} {req : Request}
    (h : decodeRequest action payload = .ok req) : req.action.name = action := by
  unfold decodeRequest at h
  split at h
  · cases h
  · next a ha =>
    split at h
    · next hdecode =>
      cases h
      rw [Request.action_of_decode hdecode]
      exact Ocpp.Action.ofName?_eq_some_iff.1 ha
    · cases h

theorem decodeRequest_meterValues (payload : Json) :
    decodeRequest (Ocpp.Action.name .meterValues) payload =
      match Ocpp.MeterValues.decode payload with
      | .ok req => .ok (.meterValues req)
      | .error mismatch =>
        .error (.undecodable (Ocpp.Action.name .meterValues) mismatch.message) := by
  have hname : Ocpp.Action.ofName? (Ocpp.Action.name .meterValues) = some .meterValues :=
    Ocpp.Action.ofName?_eq_some_iff.2 rfl
  unfold decodeRequest
  rw [hname]
  dsimp only [Request.decode]
  cases Ocpp.MeterValues.decode payload <;> rfl

namespace Central

/-- The charge point and the payload of a report of meter values that is answered with a result. -/
def reported? (c : Central) : Event → Option (String × Json)
  | .text cp now text =>
    match Frame.parse text with
    | .ok (.call _ action payload) =>
      if action = Ocpp.Action.name .meterValues ∧
          (c.receive cp now text).reply.any Frame.isResult then
        some (cp, payload)
      else none
    | _ => none
  | _ => none

theorem length_samples (values : List Ocpp.MeterValue) :
    (values.flatMap samples).length = (values.map fun v => v.sampledValue.length).sum := by
  rw [List.length_flatMap]
  refine congrArg List.sum (List.map_congr_left fun v _ => ?_)
  exact List.length_map _

theorem lists_samples {r : MeterRecord} {values : List Ocpp.MeterValue}
    (h : r.samples = values.flatMap samples) : r.Lists values where
  length := h ▸ length_samples values
  sample before v after earlier s later hvalues hsampled := by
    have hsplit : values.flatMap samples =
        before.flatMap samples ++ (samples v ++ after.flatMap samples) := by
      rw [hvalues, List.flatMap_append, List.flatMap_cons]
    have hlt : earlier.length < (samples v).length := by
      unfold samples
      rw [List.length_map, hsampled, List.length_append, List.length_cons]
      omega
    rw [h, hsplit, ← length_samples, List.getElem?_append_right (Nat.le_add_right _ _),
      Nat.add_sub_cancel_left, List.getElem?_append_left hlt]
    have hmeasurand : (s.measurand.getD defaultMeasurand).name =
        (s.measurand.map Ocpp.Measurand.name).getD "Energy.Active.Import.Register" := by
      cases s.measurand <;> rfl
    unfold samples
    rw [hsampled, List.map_append, List.getElem?_append_right (by rw [List.length_map]),
      List.length_map, Nat.sub_self, List.map_cons, List.getElem?_cons_zero, hmeasurand]

/-- What is kept of a request besides transactions that were stopped. -/
theorem meterRecord?_receive (c : Central) (cp : String) (now : Timestamp) (text : String) :
    (c.receive cp now text).record.bind Record.meterRecord? =
      match requestOf? text with
      | some (.meterValues req) =>
        some ⟨cp, req.connectorId, req.transactionId, req.meterValue.flatMap samples⟩
      | _ => none := by
  cases hreq : requestOf? text with
  | none =>
    cases hset : settledId? text with
    | some id => rw [receive_of_settled c cp now hset]; rfl
    | none => rw [(receive_of_neither c cp now hreq hset).2]; rfl
  | some req =>
    rw [(receive_of_request c cp now hreq).2]
    cases req with
    | stopTransaction req =>
      show (c.onStopTransaction cp now req).record.bind _ = none
      unfold onStopTransaction
      split <;> rfl
    | bootNotification _ | heartbeat | authorize _ | startTransaction _ | statusNotification _
    | meterValues _ | dataTransfer _ => rfl

/-- A report of meter values that is answered with a result is one that can be decoded. -/
theorem reported?_text (c : Central) (cp : String) (now : Timestamp) (text : String) :
    (∃ payload req, c.reported? (.text cp now text) = some (cp, payload) ∧
      Ocpp.MeterValues.decode payload = .ok req ∧ requestOf? text = some (.meterValues req)) ∨
    (c.reported? (.text cp now text) = none ∧
      ∀ req, requestOf? text ≠ some (.meterValues req)) := by
  unfold reported? requestOf?
  dsimp only
  rw [reply_receive]
  cases Frame.parse text with
  | error fault => exact Or.inr ⟨rfl, nofun⟩
  | ok frame =>
    cases frame with
    | callResult id payload => exact Or.inr ⟨rfl, nofun⟩
    | callError id code description details => exact Or.inr ⟨rfl, nofun⟩
    | call id action payload =>
      dsimp only
      by_cases haction : action = Ocpp.Action.name .meterValues
      · subst haction
        have hrequest := decodeRequest_meterValues payload
        cases hdecode : Ocpp.MeterValues.decode payload with
        | ok req =>
          rw [hdecode] at hrequest
          refine Or.inl ⟨payload, req, if_pos ⟨rfl, ?_⟩, hdecode, ?_⟩ <;> rw [hrequest] <;> rfl
        | error mismatch =>
          rw [hdecode] at hrequest
          refine Or.inr ⟨if_neg ?_, ?_⟩ <;> rw [hrequest]
          · exact fun h => Bool.false_ne_true h.2
          · exact nofun
      · refine Or.inr ⟨if_neg fun h => haction h.1, fun req hreq => haction ?_⟩
        cases hdecode : decodeRequest action payload with
        | error refusal =>
          rw [hdecode] at hreq
          cases hreq
        | ok req' =>
          rw [hdecode] at hreq
          cases hreq
          exact (action_of_decodeRequest hdecode).symm

/-- A text that asks for something else reports nothing. -/
theorem reported?_of_other {text : String} {req : Request} (hreq : requestOf? text = some req)
    (hother : req.action ≠ .meterValues) (c : Central) (cp : String) (now : Timestamp) :
    c.reported? (.text cp now text) = none := by
  rcases c.reported?_text cp now text with ⟨_, r, -, -, hr⟩ | ⟨hnone, -⟩
  · cases hreq.symm.trans hr
    exact absurd rfl hother
  · exact hnone

theorem reported?_of_meterValues {text : String} {req : Ocpp.MeterValues}
    (hreq : requestOf? text = some (.meterValues req)) (c : Central) (cp : String)
    (now : Timestamp) :
    ∃ payload, Ocpp.MeterValues.decode payload = .ok req ∧
      c.reported? (.text cp now text) = some (cp, payload) := by
  rcases c.reported?_text cp now text with ⟨payload, r, hsome, hdecode, hr⟩ | ⟨-, hr⟩
  · cases hreq.symm.trans hr
    exact ⟨payload, hdecode, hsome⟩
  · exact absurd hreq (hr _)

theorem reports_meterRecord? (c : Central) (e : Event) :
    Option.Rel MeterRecord.Reports (c.reported? e)
      ((c.handsOver? e).bind Record.meterRecord?) := by
  cases e with
  | text cp now text =>
    show Option.Rel _ _ ((c.receive cp now text).record.bind _)
    rw [meterRecord?_receive]
    rcases c.reported?_text cp now text with ⟨payload, req, hcall, hdecode, hreq⟩ | ⟨hnone, hreq⟩
    · rw [hcall, hreq]
      exact .some ⟨req, hdecode, rfl, rfl, rfl, lists_samples rfl⟩
    · rw [hnone]
      split
      · next hsome => exact absurd hsome (hreq _)
      · exact .none
  | _ => exact .none

end Central

/-! ## The main result -/

/-- After any run, as long as the counter of ids has not come round, the history holds one record
for each transaction that was stopped while it was running, as the request that was given its id
began it and the first request to stop it ended it, and no other. The reason is the word that stood
in the request. Of meter values the history holds one record for each report that was answered with
a result, in the order of the reports, with all their sampled values in their order. -/
theorem history_follows_run (heartbeatInterval : UInt32) (events : List Event)
    (few : ((Central.fresh heartbeatInterval).issued events).length < 2 ^ 31 - 1) :
    let start := Central.fresh heartbeatInterval
    let history := (Recorder.run .memory ⟨start, .empty⟩ events).records
    (∀ id t, history.transactions.get? id = some t ↔ start.Finished events t ∧ t.id = id) ∧
    (∀ j reason, Json.Decoder.variant Ocpp.StopReason.names j = .ok reason →
      j = .string reason.name ∨ j = .object [(reason.name, .null)]) ∧
    List.Forall₂ MeterRecord.Reports (start.gathered Central.reported? events)
      history.meterValues := by
  intro start history
  have hhistory : history = (start.gathered Central.handsOver? events).foldl History.add .empty :=
    Recorder.records_run start .empty events
  have h := conserved_run heartbeatInterval events few
  rw [hhistory]
  refine ⟨fun id t => ?_, fun j reason => Json.Decoder.variant_name, ?_⟩
  · rw [History.get?_foldl_add fun id => h.kept_once (by omega) id]
    exact and_congr_left' (Central.mem_handed_iff few)
  · rw [History.meterValues_foldl_add, Central.filterMap_gathered]
    exact Central.forall₂_gathered Central.reports_meterRecord? start events

/-- A text that asks to stop the first transaction, with a reason. -/
def unpluggedText : String :=
  (Frame.call "u" "StopTransaction" (.ofMembers
    [("transactionId", .ofNat 1), ("meterStop", .ofNat 700), ("reason", .string "EVDisconnected"),
      ("timestamp", .string "2024-05-01T11:00:00Z")])).serialize

def unpluggedRequest : Ocpp.StopTransaction :=
  ⟨none, 700, ⟨19844, 39600, 0⟩, 1, some .evDisconnected, none⟩

theorem requestOf?_unpluggedText :
    requestOf? unpluggedText = some (.stopTransaction unpluggedRequest) := by cbv

/-- A text that reports two meter values, where only the second one says what it measures. -/
def meterText : String :=
  (Frame.call "m" "MeterValues" (.ofMembers
    [("connectorId", .ofNat 1), ("meterValue", .array
      [.ofMembers [("timestamp", .string "2024-05-01T10:15:00Z"),
        ("sampledValue", .array [.ofMembers [("value", .string "150")]])],
      .ofMembers [("timestamp", .string "2024-05-01T10:30:00Z"),
        ("sampledValue", .array [.ofMembers [("value", .string "16"),
          ("measurand", .string "Current.Import"), ("unit", .string "A")]])]])])).serialize

def meterRequest : Ocpp.MeterValues :=
  ⟨1, none,
    [⟨⟨19844, 36900, 0⟩, [⟨"150", none, none, none, none, none, none⟩]⟩,
      ⟨⟨19844, 37800, 0⟩,
        [⟨"16", none, none, some .currentImport, none, none, some .ampere⟩]⟩]⟩

theorem requestOf?_meterText : requestOf? meterText = some (.meterValues meterRequest) := by cbv

def meterRecord : MeterRecord :=
  ⟨"CP1", 1, none,
    [⟨⟨19844, 36900, 0⟩, "Energy.Active.Import.Register", "150", none⟩,
      ⟨⟨19844, 37800, 0⟩, "Current.Import", "16", some "A"⟩]⟩

theorem MeterRecord.Reports.eq_meterRecord {payload : Json} {r : MeterRecord}
    (h : MeterRecord.Reports ("CP1", payload) r)
    (hdecode : Ocpp.MeterValues.decode payload = .ok meterRequest) : r = meterRecord := by
  obtain ⟨cp, connectorId, transactionId, taken⟩ := r
  obtain ⟨req, hreq, rfl, rfl, rfl, hlists⟩ := h
  cases hdecode.symm.trans hreq
  obtain ⟨first, second, rfl⟩ := List.length_eq_two.1 hlists.length
  cases hlists.sample [] _ _ [] _ [] rfl rfl
  cases hlists.sample [_] _ [] [] _ [] rfl rfl
  rfl

/-- A charge point starts a transaction, reports meter values and stops the transaction twice. -/
def unplugged : List Event :=
  [.register "CP1" ⟨0, 0, 0⟩, .text "CP1" ⟨0, 1, 0⟩ (startText "a"),
    .text "CP1" ⟨0, 2, 0⟩ meterText, .text "CP1" ⟨0, 3, 0⟩ unpluggedText,
    .text "CP1" ⟨0, 4, 0⟩ (stopText "c" 1)]

theorem length_issued_unplugged :
    ((Central.fresh 300).issued unplugged).length < 2 ^ 31 - 1 := by
  have hlength : unplugged.length = 5 := rfl
  have hle := (Central.fresh 300).length_gathered_le Central.handsOut? unplugged
  unfold Central.issued
  omega

theorem finished_unplugged : (Central.fresh 300).Finished unplugged
    ⟨1, "CP1", 1, "TAG", 0, ⟨0, 1, 0⟩, some ⟨700, ⟨0, 3, 0⟩, some "EVDisconnected"⟩⟩ := by
  let t : Transaction := ⟨1, "CP1", 1, "TAG", 0, ⟨0, 1, 0⟩, none⟩
  have hrunning : ((Central.fresh 300).run [.register "CP1" ⟨0, 0, 0⟩]).running? "CP1" =
      some ⟨1, .empty⟩ := rfl
  have hbegins : ((Central.fresh 300).run [.register "CP1" ⟨0, 0, 0⟩]).Begins "CP1" 1 t
      (.text "CP1" ⟨0, 1, 0⟩ (startText "a")) :=
    Central.begins_text_iff.2 ⟨rfl, ⟨_, hrunning, rfl⟩, startRequest, requestOf?_startText, rfl⟩
  have hspared : ∀ e ∈ [Event.text "CP1" ⟨0, 2, 0⟩ meterText],
      ¬ (e.Ends "CP1" 1 ∨ e.Stops "CP1" t.id) := by
    intro e he
    rw [List.mem_singleton.1 he]
    rintro (hends | ⟨now, text, req, htext, hreq, -⟩)
    · exact hends
    · cases htext
      rw [requestOf?_meterText] at hreq
      cases hreq
  have hunderway : (Central.fresh 300).Underway (unplugged.take 3) "CP1" 1 t :=
    ⟨[.register "CP1" ⟨0, 0, 0⟩], .text "CP1" ⟨0, 1, 0⟩ (startText "a"), _, rfl, hbegins, hspared⟩
  exact ⟨unplugged.take 3, "CP1", ⟨0, 3, 0⟩, unpluggedText, unplugged.drop 4, rfl,
    unpluggedRequest, 1, t, requestOf?_unpluggedText, hunderway, rfl, rfl⟩

theorem gathered_reported?_unplugged : ∃ payload,
    Ocpp.MeterValues.decode payload = .ok meterRequest ∧
      (Central.fresh 300).gathered Central.reported? unplugged = [("CP1", payload)] := by
  have hstop : requestOf? (stopText "c" 1) =
      some (.stopTransaction ⟨none, 500, ⟨19844, 39600, 0⟩, 1, none, none⟩) := by cbv
  obtain ⟨payload, hdecode, hmeter⟩ := Central.reported?_of_meterValues requestOf?_meterText
    (((Central.fresh 300).after (.register "CP1" ⟨0, 0, 0⟩)).after
      (.text "CP1" ⟨0, 1, 0⟩ (startText "a"))) "CP1" ⟨0, 2, 0⟩
  refine ⟨payload, hdecode, ?_⟩
  unfold unplugged
  simp only [Central.gathered]
  rw [Central.reported?_of_other requestOf?_startText (by decide),
    Central.reported?_of_other requestOf?_unpluggedText (by decide),
    Central.reported?_of_other hstop (by decide), hmeter]
  rfl

theorem history_follows_run_unplugged :
    let history := (Recorder.run .memory ⟨.fresh 300, .empty⟩ unplugged).records
    ((Central.fresh 300).issued unplugged).length < 2 ^ 31 - 1 ∧
    history.transactions.get? 1 = some
      ⟨1, "CP1", 1, "TAG", 0, ⟨0, 1, 0⟩, some ⟨700, ⟨0, 3, 0⟩, some "EVDisconnected"⟩⟩ ∧
    List.Forall₂ MeterRecord.Reports ((Central.fresh 300).gathered Central.reported? unplugged)
      history.meterValues ∧
    history.meterValues = [meterRecord] := by
  have h := history_follows_run 300 unplugged length_issued_unplugged
  obtain ⟨payload, hdecode, hgathered⟩ := gathered_reported?_unplugged
  have hmeter := h.2.2
  rw [hgathered] at hmeter
  obtain ⟨r, rest, hreports, hrest, hhistory⟩ := List.forall₂_cons_left_iff.1 hmeter
  cases hrest
  cases hreports.eq_meterRecord hdecode
  -- the two sides differ in names only, so nothing is to be evaluated
  with_reducible exact
    ⟨length_issued_unplugged, (h.1 1 _).2 ⟨finished_unplugged, rfl⟩, h.2.2, hhistory⟩

end Charging

end HomeEnergy
