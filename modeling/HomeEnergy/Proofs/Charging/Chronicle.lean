import HomeEnergy.Proofs.Charging.Numbering

/-!
The connectors of a session as its chronicle has them. A chronicle is the list of what a charge
point has told of its connectors since it was connected, the newest entry first: transactions that
were started, under the ids that they were given, requests to stop one, and reports. What came last
decides (`latest?`), and what a request to stop means depends on what came before it (`activeOn?`).

A session follows its chronicle (`Session.Follows`): it has the active transactions and the
connectors that can be read off it. Every request keeps this (`follows_answer`), and nothing else
that happens, short of a new connection, has to do with it (`follows_run`).
-/

namespace HomeEnergy.Charging

open Ocpp (ConnectorStatus Request)

/-! ## Chronicles -/

inductive Entry where
  | started (connector : UInt32) (id : Int32)
  | stopped (id : Int32)
  | reported (connector : UInt32) (status : ConnectorStatus) (errorCode : String)
deriving DecidableEq

/-- The connector that a transaction was started on, unless it was stopped afterwards. -/
def activeOn? (id : Int32) : List Entry → Option UInt32
  | [] => none
  | .started connector id' :: earlier => if id' = id then some connector else activeOn? id earlier
  | .stopped id' :: earlier => if id' = id then none else activeOn? id earlier
  | .reported _ _ _ :: earlier => activeOn? id earlier

/-- What the newest entry says that says anything, given what came before it. -/
def latest? {α : Type} (says? : List Entry → Entry → Option α) : List Entry → Option α
  | [] => none
  | e :: earlier => (says? earlier e).or (latest? says? earlier)

namespace Entry

variable (connector : UInt32) (earlier : List Entry)

def names : Entry → Bool
  | started c _ => c = connector
  | stopped _ => false
  | reported c _ _ => c = connector

def status? : Entry → Option ConnectorStatus
  | started c _ => if c = connector then some .charging else none
  | stopped id => if activeOn? id earlier = some connector then some .available else none
  | reported c status _ => if c = connector then some status else none

def errorCode? : Entry → Option String
  | reported c _ errorCode => if c = connector then some errorCode else none
  | _ => none

/-- The transaction that an entry gives to a connector, or that it has none any more. -/
def transaction? : Entry → Option (Option Int32)
  | started c id => if c = connector then some (some id) else none
  | stopped id => if activeOn? id earlier = some connector then some none else none
  | reported _ _ _ => none

end Entry

/-- A connector without the time of its last change. -/
structure Picture where
  id : UInt32
  status : ConnectorStatus
  errorCode : String
  transactionId : Option Int32
deriving DecidableEq

def Connector.picture (c : Connector) : Picture := ⟨c.id, c.status, c.errorCode, c.transactionId⟩

namespace Picture

def unknown (connector : UInt32) : Picture := ⟨connector, .available, Connector.noError, none⟩

def ofChronicle (connector : UInt32) (log : List Entry) : Picture where
  id := connector
  status := (latest? (Entry.status? connector) log).getD .available
  errorCode := (latest? (fun _ => Entry.errorCode? connector) log).getD Connector.noError
  transactionId := (latest? (Entry.transaction? connector) log).join

/-- A connector by the chronicle, which exists if it is spoken of there. -/
def ofChronicle? (connector : UInt32) (log : List Entry) : Option Picture :=
  if log.any (·.names connector) then some (ofChronicle connector log) else none

end Picture

/-! ## Reading a chronicle -/

/-- Whether an entry changes a connector, given what came before it. -/
def Entry.Concerns (connector : UInt32) (earlier : List Entry) : Entry → Prop
  | started c _ => c = connector
  | stopped id => activeOn? id earlier = some connector
  | reported c _ _ => c = connector

section Reading

variable {connector : UInt32} {id : Int32} {e : Entry} {log : List Entry}

theorem named_of_activeOn? (h : activeOn? id log = some connector) :
    log.any (·.names connector) = true := by
  induction log with
  | nil => cases h
  | cons e earlier ih =>
    rw [List.any_cons, Bool.or_eq_true]
    cases e with
    | started c id' =>
      unfold activeOn? at h
      split at h
      · exact Or.inl (decide_eq_true (Option.some.inj h))
      · exact Or.inr (ih h)
    | stopped id' =>
      unfold activeOn? at h
      split at h
      · cases h
      · exact Or.inr (ih h)
    | reported c status errorCode => exact Or.inr (ih h)

theorem named_of_concerns (h : e.Concerns connector log) :
    (e :: log).any (·.names connector) = true := by
  rw [List.any_cons, Bool.or_eq_true]
  cases e with
  | started c id => exact Or.inl (decide_eq_true h)
  | stopped id => exact Or.inr (named_of_activeOn? h)
  | reported c status errorCode => exact Or.inl (decide_eq_true h)

theorem names_of_not_concerns (h : ¬ e.Concerns connector log) : e.names connector = false := by
  cases e with
  | started c id => exact decide_eq_false h
  | stopped id => rfl
  | reported c status errorCode => exact decide_eq_false h

theorem ofChronicle_of_not_concerns (h : ¬ e.Concerns connector log) :
    Picture.ofChronicle connector (e :: log) = Picture.ofChronicle connector log := by
  unfold Picture.ofChronicle
  cases e with
  | started c id =>
    have hc : ¬ c = connector := h
    simp only [latest?, Entry.status?, Entry.errorCode?, Entry.transaction?, if_neg hc,
      Option.none_or]
  | stopped id =>
    have hid : ¬ activeOn? id log = some connector := h
    simp only [latest?, Entry.status?, Entry.errorCode?, Entry.transaction?, if_neg hid,
      Option.none_or]
  | reported c status errorCode =>
    have hc : ¬ c = connector := h
    simp only [latest?, Entry.status?, Entry.errorCode?, Entry.transaction?, if_neg hc,
      Option.none_or]

theorem ofChronicle?_of_not_concerns (h : ¬ e.Concerns connector log) :
    Picture.ofChronicle? connector (e :: log) = Picture.ofChronicle? connector log := by
  unfold Picture.ofChronicle?
  rw [List.any_cons, names_of_not_concerns h, Bool.false_or, ofChronicle_of_not_concerns h]

theorem ofChronicle?_of_concerns (h : e.Concerns connector log) :
    Picture.ofChronicle? connector (e :: log) =
      some (Picture.ofChronicle connector (e :: log)) := if_pos (named_of_concerns h)

theorem ofChronicle_of_unnamed (h : log.any (·.names connector) = false) :
    Picture.ofChronicle connector log = Picture.unknown connector := by
  induction log with
  | nil => rfl
  | cons e earlier ih =>
    have hconcerns : ¬ e.Concerns connector earlier := by
      intro hc
      rw [named_of_concerns hc] at h
      cases h
    rw [List.any_cons, names_of_not_concerns hconcerns, Bool.false_or] at h
    rw [ofChronicle_of_not_concerns hconcerns, ih h]

/-- A connector that does not exist yet is taken for one of which nothing is known. -/
theorem picture_getD {found : Option Connector}
    (h : found.map Connector.picture = Picture.ofChronicle? connector log) (now : Timestamp) :
    (found.getD (.fresh connector now)).picture = Picture.ofChronicle connector log := by
  unfold Picture.ofChronicle? at h
  split at h
  · obtain ⟨k, rfl, hk⟩ := Option.map_eq_some_iff.1 h
    exact hk
  · next hunnamed =>
    rw [Option.map_eq_none_iff.1 h, Option.getD_none,
      ofChronicle_of_unnamed (eq_false_of_ne_true hunnamed)]
    rfl

theorem ofChronicle_started (connector : UInt32) (id : Int32) (log : List Entry) :
    Picture.ofChronicle connector (.started connector id :: log) =
      { Picture.ofChronicle connector log with
        status := .charging, transactionId := some id } := by
  simp only [Picture.ofChronicle, latest?, Entry.status?, Entry.errorCode?, Entry.transaction?,
    if_pos, Option.some_or, Option.none_or, Option.getD_some, Option.join_some]

theorem ofChronicle_stopped (h : activeOn? id log = some connector) :
    Picture.ofChronicle connector (.stopped id :: log) =
      { Picture.ofChronicle connector log with status := .available, transactionId := none } := by
  simp only [Picture.ofChronicle, latest?, Entry.status?, Entry.errorCode?, Entry.transaction?,
    if_pos h, Option.some_or, Option.none_or, Option.getD_some, Option.join_some]

theorem ofChronicle_reported (connector : UInt32) (status : ConnectorStatus) (errorCode : String)
    (log : List Entry) :
    Picture.ofChronicle connector (.reported connector status errorCode :: log) =
      { Picture.ofChronicle connector log with status := status, errorCode := errorCode } := by
  simp only [Picture.ofChronicle, latest?, Entry.status?, Entry.errorCode?, Entry.transaction?,
    if_pos, Option.some_or, Option.none_or, Option.getD_some]

end Reading

/-! ## Following a chronicle -/

/-- A session has the active transactions and the connectors that its chronicle tells of. -/
structure Session.Follows (s : Session) (log : List Entry) : Prop where
  active : ∀ id, (s.transactions.get? id).map (·.connectorId) = activeOn? id log
  pictured : ∀ connector,
    (s.connectors.get? connector).map Connector.picture = Picture.ofChronicle? connector log

namespace Session.Follows

variable {s s' : Session} {log : List Entry} {now : Timestamp}

theorem fresh (connectionId : UInt64) (cp : String) (now : Timestamp) :
    (Session.fresh connectionId cp now).Follows [] := ⟨fun _ => rfl, fun _ => rfl⟩

theorem congr (h : s.Follows log) (hconnectors : s'.connectors = s.connectors)
    (htransactions : s'.transactions = s.transactions) : s'.Follows log := by
  refine ⟨?_, ?_⟩
  · rw [htransactions]; exact h.active
  · rw [hconnectors]; exact h.pictured

/-- A change of the one connector that an entry concerns. -/
theorem pictured_updateConnector (h : s.Follows log) (hs' : s'.connectors = s.connectors)
    {e : Entry} {connector : UInt32} (hthis : e.Concerns connector log)
    (hothers : ∀ k, k ≠ connector → ¬ e.Concerns k log) {f : Connector → Connector}
    (hf : ∀ k, k.picture = Picture.ofChronicle connector log →
      (f k).picture = Picture.ofChronicle connector (e :: log)) (k : UInt32) :
    ((s'.updateConnector connector now f).connectors.get? k).map Connector.picture =
      Picture.ofChronicle? k (e :: log) := by
  unfold Session.updateConnector
  rw [hs', Table.get?_put]
  split
  · next hk =>
    subst hk
    rw [ofChronicle?_of_concerns hthis, Option.map_some,
      hf _ (picture_getD (h.pictured k) now)]
  · next hk => rw [ofChronicle?_of_not_concerns (hothers k hk), h.pictured k]

theorem started (h : s.Follows log) (t : Transaction) :
    ((s.addTransaction t).updateConnector t.connectorId now
      (·.beginTransaction t.id now)).Follows (.started t.connectorId t.id :: log) := by
  have hadded : (s.addTransaction t).connectors = s.connectors := rfl
  refine ⟨fun id => ?_, ?_⟩
  · show ((s.transactions.put t.id t).get? id).map _ = _
    rw [Table.get?_put, activeOn?, ← h.active id, apply_ite (Option.map _)]
    simp only [eq_comm, Option.map_some]
  · refine h.pictured_updateConnector hadded (e := .started t.connectorId t.id) rfl
      (fun k hk => hk.symm) ?_
    intro k hk
    rw [ofChronicle_started, ← hk]
    rfl

theorem stopped (h : s.Follows log) {id : Int32} {t : Transaction}
    (ht : s.transactions.get? id = some t) :
    ((s.removeTransaction id).updateConnector t.connectorId now
      (·.endTransaction now)).Follows (.stopped id :: log) := by
  have hactive : activeOn? id log = some t.connectorId := by
    rw [← h.active id, ht, Option.map_some]
  have hremoved : (s.removeTransaction id).connectors = s.connectors := rfl
  refine ⟨fun id' => ?_, ?_⟩
  · show ((s.transactions.erase id).get? id').map _ = _
    rw [Table.get?_erase, activeOn?, ← h.active id', apply_ite (Option.map _)]
    simp only [eq_comm, Option.map_none]
  · refine h.pictured_updateConnector hremoved (e := .stopped id) hactive ?_ ?_
    · intro k hk hconcerns
      exact hk (Option.some.inj (hconcerns.symm.trans hactive))
    · intro k hk
      rw [ofChronicle_stopped hactive, ← hk]
      rfl

/-- A request to stop what is not active is passed over. -/
theorem stopped_inactive (h : s.Follows log) {id : Int32} (hnone : s.transactions.get? id = none) :
    s.Follows (.stopped id :: log) := by
  have hinactive : activeOn? id log = none := by rw [← h.active id, hnone, Option.map_none]
  refine ⟨fun id' => ?_, fun connector => ?_⟩
  · rw [h.active id', activeOn?]
    split
    · next he => rw [← he, hinactive]
    · rfl
  · rw [h.pictured connector, ofChronicle?_of_not_concerns]
    intro hconcerns
    exact Option.some_ne_none _ (hconcerns.symm.trans hinactive)

theorem reported (h : s.Follows log) (connector : UInt32) (status : ConnectorStatus)
    (errorCode : String) :
    (s.updateConnector connector now (·.report status errorCode now)).Follows
      (.reported connector status errorCode :: log) := by
  refine ⟨h.active, h.pictured_updateConnector rfl (e := .reported connector status errorCode)
    rfl (fun k hk => hk.symm) ?_⟩
  intro k hk
  rw [ofChronicle_reported, ← hk]
  rfl

end Session.Follows

/-! ## The chronicle of a session -/

/-- What a request tells, with the id that is handed out to it. -/
def Entry.ofRequest? (handed : Option Int32) : Request → Option Entry
  | .startTransaction req => handed.map (.started req.connectorId)
  | .stopTransaction req => some (.stopped req.transactionId)
  | .statusNotification req => some (.reported req.connectorId req.status req.errorCode.name)
  | _ => none

namespace Central

def told? (chargePointId : String) (c : Central) : Event → Option Entry
  | .text cp now text =>
    if cp = chargePointId then
      (requestOf? text).bind (Entry.ofRequest? (c.handsOut? (.text cp now text)))
    else none
  | _ => none

theorem told?_text (cp : String) (c : Central) (cp' : String) (now : Timestamp) (text : String) :
    told? cp c (.text cp' now text) =
      if cp' = cp then
        (requestOf? text).bind (Entry.ofRequest? (c.handsOut? (.text cp' now text)))
      else none := rfl

/-- What a charge point tells in a run, the newest entry first. -/
def chronicle (c : Central) (chargePointId : String) (events : List Event) : List Entry :=
  (c.gathered (told? chargePointId) events).reverse

theorem chronicle_concat (c : Central) (cp : String) (events : List Event) (e : Event) :
    c.chronicle cp (events ++ [e]) =
      (told? cp (c.run events) e).toList ++ c.chronicle cp events := by
  unfold chronicle
  rw [gathered_concat, List.reverse_append]
  cases told? cp (c.run events) e <;> rfl

/-- If a charge point is connected, its session follows a chronicle. -/
def Follows (c : Central) (cp : String) (log : List Entry) : Prop :=
  ∀ s, c.session? cp = some s → s.Follows log

variable {c c' : Central} {cp cp' : String} {log log' : List Entry}

namespace Follows

theorem register (c : Central) (cp : String) (now : Timestamp) :
    (c.register cp now).2.Follows cp [] := by
  intro s hs
  have hput : (c.register cp now).2.session? cp = some (.fresh c.nextConnectionId cp now) :=
    Table.get?_put_self _ _ _
  rw [hput] at hs
  cases hs
  exact .fresh _ cp now

theorem of_session?_eq (h : c.Follows cp log) (hsame : c'.session? cp = c.session? cp) :
    c'.Follows cp log := by
  intro s hs
  exact h s (hsame ▸ hs)

theorem of_sameBooks (h : c.Follows cp log) (hbooks : SameBooks c c') : c'.Follows cp log := by
  intro s' hs'
  obtain ⟨s, hs, hconnectors, htransactions⟩ := hbooks.exists_session hs'
  exact (h s hs).congr hconnectors htransactions

theorem updateSession (h : c.Follows cp log) {f : Session → Session}
    (hf : ∀ s, c.session? cp = some s → s.Follows log → (f s).Follows log') :
    (c.updateSession cp f).Follows cp log' := by
  intro s' hs'
  rw [session?_updateSession, if_pos rfl] at hs'
  obtain ⟨s, hs, rfl⟩ := Option.map_eq_some_iff.1 hs'
  exact hf s hs (h s hs)

theorem unregister (h : c.Follows cp log) (cp' : String) (id : UInt64) :
    (c.unregister cp' id).2.Follows cp log := by
  unfold Central.unregister
  split
  · split
    · intro s hs
      change (c.sessions.erase cp').get? cp = some s at hs
      rw [Table.get?_erase] at hs
      split at hs
      · cases hs
      · exact h s hs
    · exact h
  · exact h

end Follows

/-- A charge point's requests do not change the sessions of others. -/
theorem session?_answer_of_ne (h : cp' ≠ cp) (c : Central) (now : Timestamp) (req : Request) :
    (c.answer cp now req).central.session? cp' = c.session? cp' := by
  refine answer_induction (P := fun c₁ => c₁.session? cp' = c.session? cp') rfl rfl ?_ now req
  intro c₁ f hsame
  rw [session?_updateSession, if_neg h]
  exact hsame

/-- A request does to the session what its entry does to the chronicle. -/
theorem follows_answer (h : c.Follows cp log) (now : Timestamp) (req : Request) :
    (c.answer cp now req).central.Follows cp
      ((Entry.ofRequest? (c.answer cp now req).response.transactionId? req).toList ++ log) := by
  cases req with
  | startTransaction req =>
    let t := Transaction.start c.nextTransactionId cp req.connectorId req.idTag req.meterStart now
    have hcounted : c.allocateTransactionId.2.Follows cp log := h
    exact hcounted.updateSession fun s _ hfollows => hfollows.started t
  | stopTransaction req =>
    unfold answer onStopTransaction
    dsimp only
    split
    · next t ht =>
      obtain ⟨s, hs, hget⟩ := Option.bind_eq_some_iff.1 ht
      refine h.updateSession fun s' hs' hfollows => ?_
      rw [hs] at hs'
      cases hs'
      exact hfollows.stopped hget
    · next hnone =>
      intro s hs
      rw [hs, Option.bind_some] at hnone
      exact (h s hs).stopped_inactive hnone
  | statusNotification req =>
    exact h.updateSession fun s _ hfollows => hfollows.reported _ _ _
  | bootNotification req =>
    refine h.updateSession fun s _ hfollows => hfollows.congr ?_ ?_
    · dsimp only
      split <;> rfl
    · dsimp only
      split <;> rfl
  | heartbeat => exact h.updateSession fun s _ hfollows => hfollows.congr rfl rfl
  | authorize req => exact h
  | meterValues req => exact h
  | dataTransfer req => exact h

/-- Whatever happens, short of a new connection of the charge point, does to its session what the
entry does to the chronicle. -/
theorem follows_after (h : c.Follows cp log) {e : Event} (hsame : ∀ now, e ≠ .register cp now) :
    (c.after e).Follows cp ((told? cp c e).toList ++ log) := by
  rcases c.after_cases e with ⟨cp', now, rfl⟩ | ⟨cp', id, rfl⟩ | ⟨cp', now, text, req, rfl, hreq⟩ |
    ⟨hbooks, hnone⟩
  -- it is another charge point that connects
  · have hne : cp ≠ cp' := by
      intro he
      exact hsame now (he ▸ rfl)
    exact h.of_session?_eq (Table.get?_put_of_ne _ hne _)
  · exact h.unregister cp' id
  · have hafter : c.after (.text cp' now text) = (c.answer cp' now req).central :=
      (receive_of_request c cp' now hreq).1
    rw [hafter, told?_text, hreq, c.handsOut?_of_request cp' now hreq]
    split
    · next he =>
      subst he
      exact follows_answer h now req
    · next hne =>
      exact h.of_session?_eq (session?_answer_of_ne (fun he => hne he.symm) c now req)
  · have htold : told? cp c e = none := by
      cases e with
      | text cp' now text =>
        rw [told?_text, hnone cp' now text rfl, Option.bind_none, ite_self]
      | register _ _ | unregister _ _ | hangUp _ | call _ _ _ _ _ => rfl
    rw [htold]
    exact h.of_sameBooks hbooks

/-- A session follows its chronicle for as long as it lasts. -/
theorem follows_run (h : c.Follows cp []) {events : List Event}
    (hsame : ∀ now, .register cp now ∉ events) :
    (c.run events).Follows cp (c.chronicle cp events) := by
  induction events using List.reverseRecOn with
  | nil => exact h
  | append_singleton events e ih =>
    rw [run_concat, chronicle_concat]
    refine follows_after (ih ?_) ?_
    · intro now hmem
      exact hsame now (List.mem_append_left _ hmem)
    · intro now he
      exact hsame now (he ▸ List.mem_append_right _ (List.mem_singleton_self _))

end Central

/-! ## The links of connectors -/

def Entry.startedId? : Entry → Option Int32
  | .started _ id => some id
  | _ => none

theorem started_of_activeOn? {id : Int32} {connector : UInt32} {log : List Entry}
    (h : activeOn? id log = some connector) : .started connector id ∈ log := by
  induction log with
  | nil => cases h
  | cons e earlier ih =>
    cases e with
    | started c id' =>
      unfold activeOn? at h
      split at h
      · next he =>
        cases h
        rw [he]
        exact List.mem_cons_self
      · exact List.mem_cons_of_mem _ (ih h)
    | stopped id' =>
      unfold activeOn? at h
      split at h
      · cases h
      · exact List.mem_cons_of_mem _ (ih h)
    | reported c status errorCode => exact List.mem_cons_of_mem _ (ih h)

/-- Where no id is handed out twice, the transaction of a connector is one that was started on it
and has not been stopped. -/
theorem activeOn?_of_transaction {id : Int32} {connector : UInt32} {log : List Entry}
    (hnodup : (log.filterMap Entry.startedId?).Nodup)
    (h : (latest? (Entry.transaction? connector) log).join = some id) :
    activeOn? id log = some connector := by
  induction log with
  | nil => cases h
  | cons e earlier ih =>
    cases e with
    | started c id' =>
      rw [List.filterMap_cons_some (f := Entry.startedId?) (b := id') rfl,
        List.nodup_cons] at hnodup
      simp only [latest?, Entry.transaction?] at h
      split at h
      · next hc =>
        cases h
        rw [activeOn?, if_pos rfl, hc]
      · rw [Option.none_or] at h
        have hearlier := ih hnodup.2 h
        -- started before, the id is not started again
        have hne : ¬ id' = id := by
          rintro rfl
          exact hnodup.1 (List.mem_filterMap.2 ⟨_, started_of_activeOn? hearlier, rfl⟩)
        rw [activeOn?, if_neg hne, hearlier]
    | stopped id' =>
      rw [List.filterMap_cons_none rfl] at hnodup
      simp only [latest?, Entry.transaction?] at h
      split at h
      · cases h
      · next hnot =>
        rw [Option.none_or] at h
        have hearlier := ih hnodup h
        -- its stop would have freed the connector
        have hne : ¬ id' = id := by
          rintro rfl
          exact hnot hearlier
        rw [activeOn?, if_neg hne, hearlier]
    | reported c status errorCode =>
      rw [List.filterMap_cons_none rfl] at hnodup
      exact ih hnodup h

namespace Central

/-- The ids in a chronicle are among those that were handed out, in their order. -/
theorem startedIds_sublist (c : Central) (cp : String) (events : List Event) :
    ((c.gathered (told? cp) events).filterMap Entry.startedId?).Sublist (c.issued events) := by
  unfold issued
  induction events generalizing c with
  | nil => exact List.Sublist.slnil
  | cons e rest ih =>
    rw [gathered, gathered, List.filterMap_append]
    refine List.Sublist.append ?_ (ih (c.after e))
    cases e with
    | text cp' now text =>
      rw [told?_text]
      split
      · cases requestOf? text with
        | none => exact List.nil_sublist _
        | some req =>
          cases req with
          | startTransaction req =>
            rw [Option.bind_some, Entry.ofRequest?]
            cases c.handsOut? (.text cp' now text) with
            | none => exact List.nil_sublist _
            | some id => exact List.Sublist.refl _
          | _ => exact List.nil_sublist _
      · exact List.nil_sublist _
    | register _ _ | unregister _ _ | hangUp _ | call _ _ _ _ _ => exact List.nil_sublist _

end Central

/-! ## The main result -/

/-- The connectors of a session are those that the chronicle of its charge point speaks of, and each
of them is as the chronicle has it; so are the transactions that are active. The transaction of a
connector is active in the same session and was started on this connector. A request to stop any
other transaction than an active one of the session changes nothing at all. -/
theorem connectors_follow_chronicle (heartbeatInterval : UInt32) (before during : List Event)
    (cp : String) (now : Timestamp) (one_session : ∀ now', .register cp now' ∉ during)
    (few : ((Central.fresh heartbeatInterval).issued
      (before ++ .register cp now :: during)).length < 2 ^ 31 - 1) :
    let opened := ((Central.fresh heartbeatInterval).run before).after (.register cp now)
    let log := opened.chronicle cp during
    let c := (Central.fresh heartbeatInterval).run (before ++ .register cp now :: during)
    ∀ s, c.session? cp = some s →
      (∀ connector, (s.connectors.get? connector).map Connector.picture =
        Picture.ofChronicle? connector log) ∧
      (∀ id, (s.transactions.get? id).map (·.connectorId) = activeOn? id log) ∧
      (∀ connector k id, s.connectors.get? connector = some k → k.transactionId = some id →
        ∃ t, s.transactions.get? id = some t ∧ t.isActive ∧ t.connectorId = connector ∧
          .started connector id ∈ log) ∧
      ∀ now' text req, requestOf? text = some (.stopTransaction req) →
        s.transactions.get? req.transactionId = none → c.after (.text cp now' text) = c := by
  intro opened log c s hs
  have hrun : c = opened.run during := by
    show (Central.fresh heartbeatInterval).run _ = _
    rw [Central.run_append]
    rfl
  have hfollows : s.Follows log :=
    Central.follows_run (Central.Follows.register _ cp now) one_session s (hrun ▸ hs)
  have hnodup : (log.filterMap Entry.startedId?).Nodup := by
    have hwhole : ((Central.fresh heartbeatInterval).issued
        (before ++ .register cp now :: during)).Nodup := by
      rw [(Central.issued_eq heartbeatInterval _).1]
      exact firstIds_nodup (by omega)
    unfold Central.issued at hwhole
    rw [Central.gathered_append, Central.gathered] at hwhole
    have hduring := (List.nodup_append.1 (List.nodup_append.1 hwhole).2.1).2.1
    show ((opened.gathered _ during).reverse.filterMap _).Nodup
    rw [List.filterMap_reverse, List.nodup_reverse]
    exact (opened.startedIds_sublist cp during).nodup hduring
  refine ⟨hfollows.pictured, hfollows.active, ?_, ?_⟩
  · intro connector k id hk hid
    have hpicture := hfollows.pictured connector
    rw [hk, Option.map_some] at hpicture
    have hlatest : (latest? (Entry.transaction? connector) log).join = some id := by
      unfold Picture.ofChronicle? at hpicture
      split at hpicture
      · rw [← hid]
        exact (congrArg Picture.transactionId (Option.some.inj hpicture)).symm
      · cases hpicture
    have hactive := activeOn?_of_transaction hnodup hlatest
    obtain ⟨t, ht, hconnector⟩ := Option.map_eq_some_iff.1 ((hfollows.active id).trans hactive)
    have howned := ((conserved_run heartbeatInterval _ few).belongs cp s hs).owned id t ht
    exact ⟨t, ht, howned.2.2, hconnector, started_of_activeOn? hactive⟩
  · intro now' text req hreq hnone
    have hinactive : (c.session? cp).bind (·.transactions.get? req.transactionId) = none := by
      rw [hs]
      exact hnone
    show (c.receive cp now' text).central = c
    rw [(Central.receive_of_request c cp now' hreq).1]
    show (c.onStopTransaction cp now' req).central = c
    rw [Central.stop_of_inactive hinactive]

def overlapping : List Event :=
  [.text "CP1" ⟨0, 1, 0⟩ (startText "a"), .text "CP1" ⟨0, 2, 0⟩ (startText "b"),
    .text "CP1" ⟨0, 3, 0⟩ (stopText "c" 1)]

/-- Stopping the older transaction frees the connector, although the newer one is still active. -/
theorem connectors_follow_chronicle_overlapping :
    ∃ s, ((Central.fresh 300).run (.register "CP1" ⟨0, 0, 0⟩ :: overlapping)).session? "CP1" =
        some s ∧
      (s.connectors.get? 1).map Connector.picture = some (.unknown 1) ∧
      (s.transactions.get? 2).map (·.connectorId) = some 1 := by
  let opened := (Central.fresh 300).after (.register "CP1" ⟨0, 0, 0⟩)
  have one_session : ∀ now', .register "CP1" now' ∉ overlapping := by
    intro now' hmem
    simp [overlapping] at hmem
  have few : ((Central.fresh 300).issued (.register "CP1" ⟨0, 0, 0⟩ :: overlapping)).length <
      2 ^ 31 - 1 := by
    have hissued : (Central.fresh 300).issued (.register "CP1" ⟨0, 0, 0⟩ :: overlapping) =
      [1, 2] := by cbv
    rw [hissued]
    decide
  have hlog : opened.chronicle "CP1" overlapping = [.stopped 1, .started 1 2, .started 1 1] := by
    cbv
  have hconnected : (((Central.fresh 300).run
      (.register "CP1" ⟨0, 0, 0⟩ :: overlapping)).session? "CP1").isSome = true := by cbv
  obtain ⟨s, hs⟩ := Option.isSome_iff_exists.1 hconnected
  obtain ⟨hpictured, hactive, -⟩ :=
    connectors_follow_chronicle 300 [] overlapping "CP1" ⟨0, 0, 0⟩ one_session few s hs
  refine ⟨s, hs, ?_, ?_⟩
  · rw [hpictured 1]
    exact (congrArg (Picture.ofChronicle? 1) hlog).trans (by decide)
  · rw [hactive 2]
    exact (congrArg (activeOn? 2) hlog).trans (by decide)

end HomeEnergy.Charging
