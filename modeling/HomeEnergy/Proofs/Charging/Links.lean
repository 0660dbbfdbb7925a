import HomeEnergy.Proofs.Charging.Conservation

/-!
What ties the central system to its charge points: how each session began and which requests wait
for an answer in it (its link), and the channels that messages go out on. What charge points ask for
leaves all of this alone. An event ends the session or changes its link in a way that is read off
the event (`Central.link?_after`), and a call does one of three things (`Central.call_cases`).
-/

namespace HomeEnergy.Charging

open Ocpp (Command Frame Request)

/-! ## Links -/

/-- The event ends the session that a charge point has under a connection: it opens a new one, or
reports the end of this one. -/
def Event.Ends (cp : String) (connectionId : UInt64) : Event → Prop
  | .register cp' _ => cp' = cp
  | .unregister cp' id => cp' = cp ∧ id = connectionId
  | _ => False

/-- How a session began. It does not change as long as the session lasts. -/
structure Origin where
  connectionId : UInt64
  chargePointId : String
  connectedAt : Timestamp
deriving DecidableEq

/-- The part of a session that the requests of its charge point leave alone. -/
structure Link where
  origin : Origin
  pending : Table String PendingCall

namespace Link

def note (uniqueId action : String) (now : Timestamp) (l : Link) : Link :=
  { l with pending := l.pending.put uniqueId ⟨action, now⟩ }

def strike (uniqueId : String) (l : Link) : Link :=
  { l with pending := l.pending.erase uniqueId }

/-- A text strikes off what it answers. -/
def take (text : String) (l : Link) : Link :=
  match settledId? text with
  | some id => l.strike id
  | none => l

end Link

def Session.origin (s : Session) : Origin := ⟨s.connectionId, s.chargePointId, s.connectedAt⟩

def Session.link (s : Session) : Link := ⟨s.origin, s.pending⟩

/-- What waits in a channel that is open. -/
def Channel.waiting? : Channel → Option (List String)
  | ⟨true, queue⟩ => some queue
  | ⟨false, _⟩ => none

namespace Central

def link? (c : Central) (cp : String) : Option Link := (c.session? cp).map Session.link

variable (c : Central) (cp : String)

theorem link?_eq_some_iff {c : Central} {cp : String} {l : Link} :
    c.link? cp = some l ↔ ∃ s, c.session? cp = some s ∧ s.link = l := Option.map_eq_some_iff

theorem link?_updateSession {f : Session → Session} {g : Link → Link}
    (hf : ∀ s, (f s).link = g s.link) (cp' : String) :
    (c.updateSession cp f).link? cp' =
      if cp' = cp then (c.link? cp).map g else c.link? cp' := by
  unfold link?
  rw [session?_updateSession, apply_ite (Option.map _), Option.map_map, Option.map_map]
  exact congrArg (fun h => if cp' = cp then (c.session? cp).map h else _) (funext hf)

theorem link?_updateSession_of_same {f : Session → Session} (hf : ∀ s, (f s).link = s.link)
    (cp' : String) : (c.updateSession cp f).link? cp' = c.link? cp' := by
  rw [link?_updateSession c cp (g := id) hf, Option.map_id, id_eq]
  split
  · next he => rw [he]
  · rfl

/-! ## Channels -/

/-- The queue of a connection whose channel is open. -/
def queue? (c : Central) (connectionId : UInt64) : Option (List String) :=
  (c.channels.get? connectionId).bind Channel.waiting?

theorem send_eq (connectionId : UInt64) (message : String) :
    c.send connectionId message =
      match c.queue? connectionId with
      | some queue =>
        .ok { c with channels := c.channels.put connectionId ⟨true, queue ++ [message]⟩ }
      | none => .error .closed := by
  unfold send queue?
  cases c.channels.get? connectionId with
  | none => rfl
  | some channel =>
    obtain ⟨isOpen, queue⟩ := channel
    cases isOpen <;> rfl

theorem queue?_of_channels {c c' : Central} (h : c'.channels = c.channels) (connectionId : UInt64) :
    c'.queue? connectionId = c.queue? connectionId := by
  unfold queue?
  rw [h]

theorem queue?_of_put {c c' : Central} {connectionId : UInt64} {channel : Channel}
    (h : c'.channels = c.channels.put connectionId channel) (connectionId' : UInt64) :
    c'.queue? connectionId' =
      if connectionId' = connectionId then channel.waiting? else c.queue? connectionId' := by
  unfold queue?
  rw [h, Table.get?_put]
  split <;> rfl

@[simp] theorem channels_updateSession (f : Session → Session) :
    (c.updateSession cp f).channels = c.channels := by
  unfold updateSession
  split <;> rfl

@[simp] theorem nextConnectionId_updateSession (f : Session → Session) :
    (c.updateSession cp f).nextConnectionId = c.nextConnectionId := by
  unfold updateSession
  split <;> rfl

@[simp] theorem queue?_updateSession (f : Session → Session) (id : UInt64) :
    (c.updateSession cp f).queue? id = c.queue? id :=
  queue?_of_channels (channels_updateSession c cp f) id

/-! ## What texts do -/

/-- The requests of charge points do not change links. -/
theorem link?_answer (now : Timestamp) (req : Request) (cp' : String) :
    (c.answer cp now req).central.link? cp' = c.link? cp' := by
  cases req with
  | bootNotification req =>
    refine link?_updateSession_of_same c cp (fun s => ?_) cp'
    dsimp only
    split <;> rfl
  | heartbeat =>
    refine link?_updateSession_of_same c cp ?_ cp'
    exact fun _ => rfl
  | authorize req => rfl
  | startTransaction req =>
    refine link?_updateSession_of_same c.allocateTransactionId.2 cp ?_ cp'
    exact fun _ => rfl
  | stopTransaction req =>
    unfold answer onStopTransaction
    dsimp only
    split
    · refine link?_updateSession_of_same c cp ?_ cp'
      exact fun _ => rfl
    · rfl
  | statusNotification req =>
    refine link?_updateSession_of_same c cp ?_ cp'
    exact fun _ => rfl
  | meterValues req => rfl
  | dataTransfer req => rfl

theorem link?_receive (now : Timestamp) (text : String) (cp' : String) :
    (c.receive cp now text).central.link? cp' =
      if cp' = cp then (c.link? cp).map (·.take text) else c.link? cp' := by
  have hsame (h : settledId? text = none) :
      (if cp' = cp then (c.link? cp).map (·.take text) else c.link? cp') = c.link? cp' := by
    have htake : (fun l : Link => l.take text) = id := by
      funext l
      unfold Link.take
      rw [h]
      rfl
    rw [htake, Option.map_id, id_eq]
    split
    · next he => rw [he]
    · rfl
  cases hset : settledId? text with
  | some id =>
    have htake : (fun l : Link => l.take text) = Link.strike id := by
      funext l
      unfold Link.take
      rw [hset]
    rw [receive_of_settled c cp now hset, htake]
    exact link?_updateSession c cp (fun _ => rfl) cp'
  | none =>
    rw [hsame hset]
    cases hreq : requestOf? text with
    | some req => rw [(receive_of_request c cp now hreq).1, link?_answer]
    | none => rw [(receive_of_neither c cp now hreq hset).1]

theorem channels_receive (now : Timestamp) (text : String) :
    (c.receive cp now text).central.channels = c.channels :=
  receive_induction (P := fun c' => c'.channels = c.channels) rfl rfl
    (fun c' f h => (channels_updateSession c' cp f).trans h) now text

theorem nextConnectionId_receive (now : Timestamp) (text : String) :
    (c.receive cp now text).central.nextConnectionId = c.nextConnectionId :=
  receive_induction (P := fun c' => c'.nextConnectionId = c.nextConnectionId) rfl rfl
    (fun c' f h => (nextConnectionId_updateSession c' cp f).trans h) now text

/-! ## What connections do -/

theorem session?_register (now : Timestamp) (cp' : String) :
    (c.register cp now).2.session? cp' =
      if cp' = cp then some (.fresh c.nextConnectionId cp now) else c.session? cp' :=
  Table.get?_put _ _ _ _

theorem link?_register (now : Timestamp) (cp' : String) :
    (c.register cp now).2.link? cp' =
      if cp' = cp then some ⟨⟨c.nextConnectionId, cp, now⟩, .empty⟩ else c.link? cp' := by
  unfold link?
  rw [session?_register, apply_ite (Option.map _)]
  rfl

/-- A connection that ends takes the session away if it is its own, and else does nothing. -/
theorem unregister_cases (connectionId : UInt64) :
    (∃ s, c.session? cp = some s ∧ s.connectionId = connectionId ∧
      c.unregister cp connectionId =
        (true, { c with sessions := c.sessions.erase cp, former := s :: c.former })) ∨
    ((∀ s, c.session? cp = some s → s.connectionId ≠ connectionId) ∧
      c.unregister cp connectionId = (false, c)) := by
  unfold unregister
  cases hs : c.session? cp with
  | none => exact Or.inr ⟨nofun, rfl⟩
  | some s =>
    by_cases hid : s.connectionId = connectionId
    · refine Or.inl ⟨s, rfl, hid, ?_⟩
      simp only [if_pos hid]
    · refine Or.inr ⟨?_, ?_⟩
      · intro s' hs'
        cases hs'
        exact hid
      · simp only [if_neg hid]

theorem session?_unregister (connectionId : UInt64) (cp' : String) :
    (c.unregister cp connectionId).2.session? cp' =
      if cp' = cp then (c.session? cp).filter (·.connectionId ≠ connectionId)
      else c.session? cp' := by
  rcases unregister_cases c cp connectionId with ⟨s, hs, hid, heq⟩ | ⟨hother, heq⟩
  · have hgone : (some s).filter (·.connectionId ≠ connectionId) = none :=
      Option.filter_some_neg (decide_eq_false (not_not_intro hid))
    rw [heq, hs, hgone]
    exact Table.get?_erase _ _ _
  · have hkept : (c.session? cp).filter (·.connectionId ≠ connectionId) = c.session? cp := by
      cases hs : c.session? cp with
      | none => rfl
      | some s => exact Option.filter_some_pos (decide_eq_true (hother s hs))
    rw [heq, hkept]
    split
    · next he => rw [he]
    · rfl

theorem link?_unregister (connectionId : UInt64) (cp' : String) :
    (c.unregister cp connectionId).2.link? cp' =
      if cp' = cp then (c.link? cp).filter fun l => l.origin.connectionId ≠ connectionId
      else c.link? cp' := by
  unfold link?
  rw [session?_unregister, apply_ite (Option.map _), Option.filter_map]
  rfl

theorem link?_hangUp (connectionId : UInt64) (cp' : String) :
    (c.hangUp connectionId).link? cp' = c.link? cp' := by
  unfold hangUp
  split <;> rfl

/-! ## What calls do -/

/-- A call fails where there is no session; it is noted and queued where the channel of the session
is open; and where it is closed it is noted and struck off again. -/
theorem call_cases (uniqueId action : String) (payload : Json) (now : Timestamp) :
    (c.session? cp = none ∧
      c.call cp uniqueId action payload now = (.error (.notConnected cp), c)) ∨
    (∃ s queue, c.session? cp = some s ∧ c.queue? s.connectionId = some queue ∧
      c.call cp uniqueId action payload now =
        (.ok (),
          { c.updateSession cp (·.addPending uniqueId action now) with
            channels := c.channels.put s.connectionId
              ⟨true, queue ++ [(Frame.call uniqueId action payload).serialize]⟩ })) ∨
    (∃ s, c.session? cp = some s ∧ c.queue? s.connectionId = none ∧
      c.call cp uniqueId action payload now =
        (.error (.notSent SendFault.closed.message),
          (c.updateSession cp (·.addPending uniqueId action now)).updateSession cp
            (·.removePending uniqueId))) := by
  unfold call
  cases hs : c.session? cp with
  | none => exact Or.inl ⟨rfl, rfl⟩
  | some s =>
    simp only [send_eq, queue?_updateSession, channels_updateSession]
    cases hqueue : c.queue? s.connectionId with
    | some queue => exact Or.inr (Or.inl ⟨s, queue, rfl, hqueue, rfl⟩)
    | none => exact Or.inr (Or.inr ⟨s, rfl, hqueue, rfl⟩)

theorem link?_call_ok {uniqueId action : String} {payload : Json} {now : Timestamp}
    (h : (c.call cp uniqueId action payload now).1 = .ok ()) (cp' : String) :
    (c.call cp uniqueId action payload now).2.link? cp' =
      if cp' = cp then (c.link? cp).map (·.note uniqueId action now) else c.link? cp' := by
  rcases call_cases c cp uniqueId action payload now with
    ⟨-, heq⟩ | ⟨s, queue, -, -, heq⟩ | ⟨s, -, -, heq⟩
  · rw [heq] at h
    cases h
  · rw [heq]
    exact link?_updateSession c cp (fun _ => rfl) cp'
  · rw [heq] at h
    cases h

theorem link?_call_error {uniqueId action : String} {payload : Json} {now : Timestamp}
    (h : (c.call cp uniqueId action payload now).1 ≠ .ok ()) (cp' : String) :
    (c.call cp uniqueId action payload now).2.link? cp' =
      if cp' = cp then (c.link? cp).map fun l => (l.note uniqueId action now).strike uniqueId
      else c.link? cp' := by
  rcases call_cases c cp uniqueId action payload now with
    ⟨hnone, heq⟩ | ⟨s, queue, -, -, heq⟩ | ⟨s, -, -, heq⟩
  · rw [heq]
    split
    · next he =>
      have hnone' : c.link? cp = none := by rw [link?, hnone, Option.map_none]
      rw [he, hnone', Option.map_none]
    · rfl
  · rw [heq] at h
    exact absurd rfl h
  · rw [heq]
    show (Central.link? _ cp') = _
    rw [link?_updateSession (g := Link.strike uniqueId) _ _ (fun _ => rfl),
      link?_updateSession (g := Link.note uniqueId action now) _ _ (fun _ => rfl),
      link?_updateSession (g := Link.note uniqueId action now) _ _ (fun _ => rfl), if_pos rfl,
      Option.map_map]
    split <;> rfl

theorem command_iff {c : Central} {cp id : String} {command : Command} {now : Timestamp} :
    (c.command cp id command now).1 = true ↔
      (c.call cp id command.action command.payload now).1 = .ok () := by
  unfold Central.command
  split
  · next hcalled =>
    rw [hcalled]
    exact iff_of_true rfl rfl
  · next hcalled =>
    rw [hcalled]
    exact iff_of_false Bool.false_ne_true nofun

/-! ## What events do -/

/-- What an event that does not end the session makes of its link. -/
def relink (l : Link) : Event → Link
  | .text cp' _ text => if cp' = cp then l.take text else l
  | .call cp' id action payload now =>
    if cp' = cp then
      match (c.call cp id action payload now).1 with
      | .ok _ => l.note id action now
      | .error _ => (l.note id action now).strike id
    else l
  | _ => l

theorem origin_relink (l : Link) (e : Event) : (c.relink cp l e).origin = l.origin := by
  cases e with
  | text cp' now text =>
    unfold relink Link.take
    dsimp only
    split
    · split <;> rfl
    · rfl
  | call cp' id action payload now =>
    unfold relink
    dsimp only
    split
    · split <;> rfl
    · rfl
  | register _ _ | unregister _ _ | hangUp _ => rfl

theorem link?_after {l : Link} (hl : c.link? cp = some l) {e : Event}
    (hkept : ¬ e.Ends cp l.origin.connectionId) :
    (c.after e).link? cp = some (c.relink cp l e) := by
  cases e with
  | register cp' now =>
    have hne : cp ≠ cp' := fun he => hkept he.symm
    exact (link?_register c cp' now cp).trans ((if_neg hne).trans hl)
  | unregister cp' id =>
    refine (link?_unregister c cp' id cp).trans ?_
    split
    · next he =>
      have hother : l.origin.connectionId ≠ id := fun hid => hkept ⟨he.symm, hid.symm⟩
      rw [← he, hl]
      exact Option.filter_some_pos (decide_eq_true hother)
    · exact hl
  | hangUp id => exact (link?_hangUp c id cp).trans hl
  | text cp' now text =>
    refine (link?_receive c cp' now text cp).trans ?_
    unfold relink
    dsimp only
    by_cases he : cp' = cp
    · subst he
      rw [if_pos rfl, if_pos rfl, hl, Option.map_some]
    · rw [if_neg (Ne.symm he), if_neg he, hl]
  | call cp' id action payload now =>
    unfold relink
    dsimp only
    by_cases he : cp' = cp
    · subst he
      rw [if_pos rfl]
      split
      · next hok =>
        refine (link?_call_ok c cp' hok cp').trans ?_
        rw [if_pos rfl, hl, Option.map_some]
      · next hfault =>
        refine (link?_call_error c cp' (by rw [hfault]; exact nofun) cp').trans ?_
        rw [if_pos rfl, hl, Option.map_some]
    · rw [if_neg he]
      refine Eq.trans ?_ hl
      by_cases hok : (c.call cp' id action payload now).1 = .ok ()
      · exact (link?_call_ok c cp' hok cp).trans (if_neg (Ne.symm he))
      · exact (link?_call_error c cp' hok cp).trans (if_neg (Ne.symm he))

theorem session?_after_of_kept {s : Session} (hs : c.session? cp = some s) {e : Event}
    (hkept : ¬ e.Ends cp s.connectionId) :
    ∃ s', (c.after e).session? cp = some s' ∧ s'.link = c.relink cp s.link e :=
  link?_eq_some_iff.1 (c.link?_after cp (link?_eq_some_iff.2 ⟨s, hs, rfl⟩) hkept)

theorem former_of_ends {s : Session} (hs : c.session? cp = some s) {e : Event}
    (hends : e.Ends cp s.connectionId) : s ∈ (c.after e).former := by
  cases e with
  | register cp' now =>
    refine List.mem_append_left _ (Option.mem_toList.2 ?_)
    exact (show cp' = cp from hends) ▸ hs
  | unregister cp' id =>
    obtain ⟨rfl, rfl⟩ := hends
    rcases unregister_cases c cp' s.connectionId with ⟨s', hs', -, heq⟩ | ⟨hother, -⟩
    · rw [show c.after (.unregister cp' s.connectionId) = _ from congrArg Prod.snd heq]
      rw [hs] at hs'
      cases hs'
      exact List.mem_cons_self
    · exact absurd rfl (hother s hs)
  | hangUp _ | text _ _ _ | call _ _ _ _ _ => exact hends.elim

end Central

end HomeEnergy.Charging
