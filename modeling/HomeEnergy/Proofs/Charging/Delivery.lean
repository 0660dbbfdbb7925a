import HomeEnergy.Charging.Gateway
import HomeEnergy.Proofs.Charging.Registry

/-!
What goes out on which connection. A text is answered on the connection that it was read on, and a
command goes out on the connection that its charge point has opened last, in the order in which
these things happen, each once, and nothing else goes out (`Gateway.output_run`,
`Gateway.bound?_play_iff`). Something can go out on a connection as long as it has neither lost its
channel nor ended (`Gateway.queue?_play_iff`).

A reply is put into the queue of a connection, a command into that of a session. The two go by
different keys, and agree because a session is bound to a connection for as long as it lasts.
-/

namespace HomeEnergy.Charging

open Ocpp (Command Frame)

/-! ## Queues -/

namespace Central

variable (c : Central) (cp : String)

theorem queue?_hangUp (connectionId connectionId' : UInt64) :
    (c.hangUp connectionId).queue? connectionId' =
      if connectionId' = connectionId then none else c.queue? connectionId' := by
  unfold hangUp
  by_cases hthere : c.channels.contains connectionId
  · rw [if_pos hthere]
    refine (queue?_of_put rfl connectionId').trans ?_
    rfl
  · have hnone : c.queue? connectionId = none := by
      unfold queue?
      rw [Option.not_isSome_iff_eq_none.1 hthere, Option.bind_none]
    rw [if_neg hthere]
    split
    · next he => rw [he, hnone]
    · rfl

theorem queue?_unregister (connectionId connectionId' : UInt64) :
    (c.unregister cp connectionId).2.queue? connectionId' = c.queue? connectionId' := by
  rcases unregister_cases c cp connectionId with ⟨s, -, -, heq⟩ | ⟨-, heq⟩
  · rw [heq]
    rfl
  · rw [heq]

theorem queue?_takeQueue (connectionId connectionId' : UInt64) :
    (c.takeQueue connectionId).2.queue? connectionId' =
      if connectionId' = connectionId then (c.queue? connectionId).map fun _ => []
      else c.queue? connectionId' := by
  unfold takeQueue
  cases hchannel : c.channels.get? connectionId with
  | none =>
    have hnone : c.queue? connectionId = none := by rw [queue?, hchannel, Option.bind_none]
    dsimp only
    split
    · next he => rw [he, hnone, Option.map_none]
    · rfl
  | some channel =>
    obtain ⟨isOpen, queue⟩ := channel
    have hqueue : c.queue? connectionId = Channel.waiting? ⟨isOpen, queue⟩ := by
      rw [queue?, hchannel, Option.bind_some]
    refine (queue?_of_put rfl connectionId').trans ?_
    rw [hqueue]
    cases isOpen <;> rfl

theorem takeQueue_of_open {connectionId : UInt64} {queue : List String}
    (h : c.queue? connectionId = some queue) : (c.takeQueue connectionId).1 = queue := by
  obtain ⟨⟨isOpen, queue'⟩, hchannel, hwaiting⟩ := Option.bind_eq_some_iff.1 h
  unfold takeQueue
  rw [hchannel]
  cases isOpen with
  | true =>
    cases hwaiting
    rfl
  | false => cases hwaiting

theorem session?_takeQueue (connectionId : UInt64) :
    (c.takeQueue connectionId).2.session? cp = c.session? cp := by
  unfold takeQueue
  split <;> rfl

end Central

/-! ## Acts -/

/-- Something that happens to the gateway. A connection loses its channel when it cannot be written
to any more, and ends a little later. -/
inductive Act where
  | connect (chargePointId : String) (now : Timestamp)
  | read (connectionId : UInt64) (now : Timestamp) (text : String)
  | command (chargePointId uniqueId : String) (command : Command) (now : Timestamp)
  | lose (connectionId : UInt64)
  | disconnect (connectionId : UInt64)
  | flush (connectionId : UInt64)

namespace Gateway

variable {σ : Type} (store : RecordStore σ) (g : Gateway σ)

/-- The gateway after an act. -/
def perform : Act → Gateway σ
  | .connect cp now => (g.connect cp now).2
  | .read k now text => g.read store k now text
  | .command cp id command now => (g.command cp id command now).2
  | .lose k => g.withCentral (g.recorder.central.hangUp k)
  | .disconnect k => g.disconnect k
  | .flush k => (g.flush k).2

/-- The gateway after some acts. -/
def play (acts : List Act) : Gateway σ := acts.foldl (perform store) g

/-- What the acts bring forth, one after another. -/
def gathered (f : Gateway σ → Act → List String) (g : Gateway σ) : List Act → List String
  | [] => []
  | act :: rest => f g act ++ gathered f (g.perform store act) rest

/-- What waits to be written on a connection whose channel is open. -/
def queue? (k : UInt64) : Option (List String) := g.recorder.central.queue? k

/-- The connection that commands for a charge point go out on. -/
def bound? (cp : String) : Option UInt64 :=
  (g.recorder.central.session? cp).map Session.connectionId

/-- What an act writes on a connection. -/
def written (k : UInt64) (g : Gateway σ) : Act → List String
  | .flush k' => if k' = k then (g.flush k).1 else []
  | _ => []

/-- What an act has to say on a connection of a charge point: the reply to a text that is read on
it, or a command that is accepted, if its charge point is bound to this connection. -/
def said (cp : String) (k : UInt64) (g : Gateway σ) : Act → List String
  | .read k' now text =>
    if k' = k then (g.recorder.receive store cp now text).1.toList else []
  | .command cp' id command now =>
    if (g.command cp' id command now).1 ∧ g.bound? cp' = some k then
      [(Frame.call id command.action command.payload).serialize]
    else []
  | _ => []

/-- The act ends the connection of a charge point, or opens a newer one. -/
def Ends (cp : String) (k : UInt64) (act : Act) : Prop :=
  (∃ now, act = .connect cp now) ∨
  (g.connections.get? k = some cp ∧ (g.perform store act).connections.get? k = none)

/-- The connection that a charge point has opened last, if it has not ended. -/
def LastConnection (start : Gateway σ) (acts : List Act) (cp : String) (k : UInt64) : Prop :=
  ∃ before now since, acts = before ++ .connect cp now :: since ∧
    k = ((start.play store before).connect cp now).1 ∧
    ∀ since₁ act since₂, since = since₁ ++ act :: since₂ →
      ¬ (start.play store (before ++ .connect cp now :: since₁)).Ends store cp k act

/-- The connection was opened, and since then its channel was not lost and it did not end. -/
def Usable (start : Gateway σ) (acts : List Act) (k : UInt64) : Prop :=
  ∃ before cp now since, acts = before ++ .connect cp now :: since ∧
    k = ((start.play store before).connect cp now).1 ∧
    ∀ act ∈ since, act ≠ .lose k ∧ act ≠ .disconnect k

theorem play_concat (acts : List Act) (act : Act) :
    g.play store (acts ++ [act]) = (g.play store acts).perform store act := by
  simp only [play, List.foldl_append, List.foldl_cons, List.foldl_nil]

theorem play_append (earlier later : List Act) :
    g.play store (earlier ++ later) = (g.play store earlier).play store later :=
  List.foldl_append

theorem gathered_concat (f : Gateway σ → Act → List String) (acts : List Act) (act : Act) :
    gathered store f g (acts ++ [act]) =
      gathered store f g acts ++ f (g.play store acts) act := by
  induction acts generalizing g with
  | nil => exact List.append_nil _
  | cons a rest ih =>
    rw [List.cons_append, gathered, gathered, ih, List.append_assoc]
    rfl

variable {store g}
variable {cp : String} {k : UInt64} {act : Act}

/-! ## What acts do -/

theorem bound?_eq (g : Gateway σ) (cp : String) :
    g.bound? cp = (g.recorder.central.origin? cp).map Origin.connectionId := by
  unfold bound? Central.origin?
  rw [Option.map_map]
  rfl

theorem bound?_of_origin {g' : Gateway σ}
    (h : g'.recorder.central.origin? cp = g.recorder.central.origin? cp) :
    g'.bound? cp = g.bound? cp := by
  rw [bound?_eq, bound?_eq, h]

theorem disconnect_of_none (h : g.connections.get? k = none) : g.disconnect k = g := by
  unfold disconnect
  rw [h]

/-- A connection that ends has no channel any more, and takes its own session with it. -/
theorem disconnect_spec {cp' : String} (h : g.connections.get? k = some cp') :
    (g.disconnect k).connections = g.connections.erase k ∧
    (∀ cp, (g.disconnect k).bound? cp =
      if cp = cp' then (g.bound? cp).filter (· ≠ k) else g.bound? cp) ∧
    ∀ k', (g.disconnect k).queue? k' = if k' = k then none else g.queue? k' := by
  let c := ((g.recorder.central.hangUp k).unregister cp' k).2
  have heq : g.disconnect k =
      { g.withCentral c with connections := g.connections.erase k } := by
    unfold disconnect
    rw [h]
  rw [heq]
  refine ⟨rfl, fun cp => ?_, fun k' => ?_⟩
  · rw [bound?_eq, bound?_eq]
    show (c.origin? cp).map _ = _
    have hend : c.origin? cp = if cp = cp' then
        ((g.recorder.central.hangUp k).origin? cp').filter (·.connectionId ≠ k)
        else (g.recorder.central.hangUp k).origin? cp :=
      (g.recorder.central.hangUp k).origin?_after (.unregister cp' k) cp
    have hlost (cp : String) : (g.recorder.central.hangUp k).origin? cp =
        g.recorder.central.origin? cp := g.recorder.central.origin?_after (.hangUp k) cp
    rw [hend, hlost, hlost]
    split
    · next he => rw [he, Option.filter_map]; rfl
    · rfl
  · exact (Central.queue?_unregister _ cp' k k').trans (Central.queue?_hangUp _ k k')

/-- The gateway after a text of a charge point was taken in, but for the reply. -/
def take (store : RecordStore σ) (g : Gateway σ) (cp : String) (now : Timestamp) (text : String) :
    Gateway σ :=
  { g with recorder := (g.recorder.receive store cp now text).2 }

theorem bound?_take (store : RecordStore σ) (g : Gateway σ) (cp : String) (now : Timestamp)
    (text cp' : String) : (g.take store cp now text).bound? cp' = g.bound? cp' :=
  bound?_of_origin (g.recorder.central.origin?_after (.text cp now text) cp')

theorem queue?_take (store : RecordStore σ) (g : Gateway σ) (cp : String) (now : Timestamp)
    (text : String) (k : UInt64) : (g.take store cp now text).queue? k = g.queue? k :=
  Central.queue?_of_channels (Central.channels_receive _ _ now text) k

/-- A text is read on a connection that is open. It is taken in, and the reply, if there is one, is
queued on the same connection; where the channel is closed already, the connection ends. -/
theorem read_cases (store : RecordStore σ) (g : Gateway σ) (k : UInt64) (now : Timestamp)
    (text : String) :
    (g.connections.get? k = none ∧ g.read store k now text = g) ∨
    ∃ cp, g.connections.get? k = some cp ∧
      let reply := (g.recorder.receive store cp now text).1
      let taken := g.take store cp now text
      ((reply = none ∧ g.read store k now text = taken) ∨
      (∃ message queue, reply = some message ∧ g.queue? k = some queue ∧
        (g.read store k now text).connections = g.connections ∧
        (∀ cp', (g.read store k now text).bound? cp' = g.bound? cp') ∧
        ∀ k', (g.read store k now text).queue? k' =
          if k' = k then some (queue ++ [message]) else g.queue? k') ∨
      (g.queue? k = none ∧ g.read store k now text = taken.disconnect k)) := by
  unfold read
  cases hconn : g.connections.get? k with
  | none => exact Or.inl ⟨rfl, rfl⟩
  | some cp =>
    refine Or.inr ⟨cp, rfl, ?_⟩
    dsimp only
    cases hreply : (g.recorder.receive store cp now text).1 with
    | none => exact Or.inl ⟨rfl, rfl⟩
    | some message =>
      refine Or.inr ?_
      have hsame : (g.recorder.receive store cp now text).2.central.queue? k = g.queue? k :=
        g.queue?_take store cp now text k
      dsimp only
      rw [Central.send_eq, hsame]
      cases hqueue : g.queue? k with
      | some queue =>
        refine Or.inl ⟨message, queue, rfl, rfl, rfl, g.bound?_take store cp now text, fun k' => ?_⟩
        rw [← g.queue?_take store cp now text k']
        exact (Central.queue?_of_put rfl k').trans rfl
      | none => exact Or.inr ⟨rfl, rfl⟩

theorem bound?_command (g : Gateway σ) (cp id : String) (command : Command) (now : Timestamp)
    (cp' : String) : (g.command cp id command now).2.bound? cp' = g.bound? cp' := by
  refine bound?_of_origin ?_
  show ((g.recorder.central.command cp id command now).2.origin? cp') = _
  rw [Central.command_eq_call]
  exact Central.origin?_after _ _ cp'

/-- A command is queued on the connection that its charge point is bound to, or no queue changes. -/
theorem command_cases (g : Gateway σ) (cp id : String) (command : Command) (now : Timestamp) :
    ((g.command cp id command now).1 = false ∧
      (∀ k, g.bound? cp = some k → g.queue? k = none) ∧
      (g.command cp id command now).2.recorder.central.channels =
        g.recorder.central.channels) ∨
    ∃ k queue, (g.command cp id command now).1 = true ∧ g.bound? cp = some k ∧
      g.queue? k = some queue ∧
      (g.command cp id command now).2.recorder.central.channels =
        g.recorder.central.channels.put k
          ⟨true, queue ++ [(Frame.call id command.action command.payload).serialize]⟩ := by
  let c := g.recorder.central
  have hcentral : (g.command cp id command now).2.recorder.central =
      (c.call cp id command.action command.payload now).2 := c.command_eq_call cp id command now
  have haccepted : (g.command cp id command now).1 = true ↔
      (c.call cp id command.action command.payload now).1 = .ok () := Central.command_iff
  rw [hcentral, ← Bool.not_eq_true, haccepted]
  rcases Central.call_cases c cp id command.action command.payload now with
    ⟨hnone, heq⟩ | ⟨s, queue, hs, hopen, heq⟩ | ⟨s, hs, hclosed, heq⟩
  · have hbound : g.bound? cp = none := congrArg (Option.map Session.connectionId) hnone
    rw [heq, hbound]
    exact Or.inl ⟨nofun, nofun, rfl⟩
  · have hbound : g.bound? cp = some s.connectionId :=
      congrArg (Option.map Session.connectionId) hs
    rw [heq]
    exact Or.inr ⟨s.connectionId, queue, rfl, hbound, hopen, rfl⟩
  · have hbound : g.bound? cp = some s.connectionId :=
      congrArg (Option.map Session.connectionId) hs
    rw [heq, hbound]
    refine Or.inl ⟨nofun, ?_, ?_⟩
    · rintro k ⟨⟩
      exact hclosed
    · exact (Central.channels_updateSession _ cp _).trans (Central.channels_updateSession c cp _)

/-- Charge points stay bound to their connections, unless these end. -/
def KeepsBound (g g' : Gateway σ) : Prop :=
  ∀ cp k, g'.bound? cp = some k ↔
    g.bound? cp = some k ∧ ¬ (g.connections.get? k = some cp ∧ g'.connections.get? k = none)

theorem keepsBound_of_same {g' : Gateway σ} (hconnections : g'.connections = g.connections)
    (hbound : ∀ cp, g'.bound? cp = g.bound? cp) : g.KeepsBound g' := by
  intro cp k
  rw [hbound, hconnections]
  refine (and_iff_left ?_).symm
  rintro ⟨hopen, hended⟩
  rw [hopen] at hended
  cases hended

theorem keepsBound_disconnect (g : Gateway σ) (k' : UInt64) :
    g.KeepsBound (g.disconnect k') := by
  cases hopen : g.connections.get? k' with
  | none =>
    rw [disconnect_of_none hopen]
    exact keepsBound_of_same rfl fun _ => rfl
  | some cp' =>
    obtain ⟨hconnections, hbound, -⟩ := disconnect_spec hopen
    intro cp k
    have hended : (g.connections.get? k = some cp ∧ (g.connections.erase k').get? k = none) ↔
        cp = cp' ∧ k = k' := by
      rw [Table.get?_erase]
      constructor
      · rintro ⟨hk, hgone⟩
        split at hgone
        · next he =>
          rw [he, hopen] at hk
          exact ⟨(Option.some.inj hk).symm, he⟩
        · rw [hk] at hgone
          cases hgone
      · rintro ⟨rfl, rfl⟩
        exact ⟨hopen, if_pos rfl⟩
    rw [hconnections, hbound, hended]
    split
    · next he => simp [he, Option.filter_eq_some_iff]
    · next hne => simp [hne]

theorem KeepsBound.congr {g₁ g' : Gateway σ} (h : g₁.KeepsBound g')
    (hconnections : g₁.connections = g.connections) (hbound : ∀ cp, g₁.bound? cp = g.bound? cp) :
    g.KeepsBound g' := by
  intro cp k
  rw [h cp k, hconnections, hbound]

theorem keepsBound_perform (hconnect : ∀ cp now, act ≠ .connect cp now) :
    g.KeepsBound (g.perform store act) := by
  cases act with
  | connect cp now => exact absurd rfl (hconnect cp now)
  | read k now text =>
    show g.KeepsBound (g.read store k now text)
    rcases g.read_cases store k now text with
      ⟨-, heq⟩ | ⟨cp, -, ⟨-, heq⟩ | ⟨message, queue, -, -, hconnections, hbound, -⟩ | ⟨-, heq⟩⟩
    · rw [heq]
      exact keepsBound_of_same rfl fun _ => rfl
    · rw [heq]
      exact keepsBound_of_same rfl (g.bound?_take store cp now text)
    · exact keepsBound_of_same hconnections hbound
    · rw [heq]
      exact (keepsBound_disconnect _ k).congr rfl (g.bound?_take store cp now text)
  | command cp id command now =>
    exact keepsBound_of_same rfl (g.bound?_command cp id command now)
  | lose k =>
    exact keepsBound_of_same rfl fun cp => bound?_of_origin (Central.origin?_after _ (.hangUp k) cp)
  | disconnect k => exact keepsBound_disconnect g k
  | flush k =>
    refine keepsBound_of_same rfl fun cp => ?_
    exact congrArg (Option.map Session.connectionId) (Central.session?_takeQueue _ cp k)

theorem bound?_connect (g : Gateway σ) (cp : String) (now : Timestamp) (cp' : String) :
    (g.connect cp now).2.bound? cp' =
      if cp' = cp then some (g.connect cp now).1 else g.bound? cp' := by
  unfold bound?
  show ((g.recorder.central.register cp now).2.session? cp').map _ = _
  rw [Central.session?_register, apply_ite (Option.map _)]
  rfl

/-- A charge point is bound to a connection after an act if the act opened it, or if it was bound to
it before and the act neither ends it nor opens a newer one. -/
theorem bound?_perform_iff :
    (g.perform store act).bound? cp = some k ↔
      (∃ now, act = .connect cp now ∧ k = (g.connect cp now).1) ∨
      (g.bound? cp = some k ∧ ¬ g.Ends store cp k act) := by
  unfold Ends
  by_cases hconnect : ∃ cp' now, act = .connect cp' now
  · obtain ⟨cp', now, rfl⟩ := hconnect
    have hkept : ¬ (g.connections.get? k = some cp ∧
        (g.perform store (.connect cp' now)).connections.get? k = none) := by
      rintro ⟨hopen, hended⟩
      rw [show (g.perform store (.connect cp' now)).connections.get? k = _ from
        Table.get?_put _ _ _ _] at hended
      split at hended
      · cases hended
      · rw [hopen] at hended
        cases hended
    rw [show (g.perform store (.connect cp' now)).bound? cp = _ from g.bound?_connect cp' now cp]
    by_cases he : cp = cp'
    · subst he
      simp [eq_comm]
    · simp [he, Ne.symm he, hkept]
  · have hother (now : Timestamp) : act ≠ .connect cp now := fun hact => hconnect ⟨cp, now, hact⟩
    rw [keepsBound_perform (fun cp now hact => hconnect ⟨cp, now, hact⟩) cp k, not_or]
    constructor
    · rintro ⟨hbound, hkept⟩
      exact Or.inr ⟨hbound, fun hact => hact.elim hother, hkept⟩
    · rintro (⟨now, hact, -⟩ | ⟨hbound, -, hkept⟩)
      · exact absurd hact (hother now)
      · exact ⟨hbound, hkept⟩

/-- Commands go to the connection that a charge point has opened last, as long as it has not
ended. -/
theorem bound?_play_iff {start : Gateway σ} {acts : List Act}
    (hfresh : ∀ cp, start.bound? cp = none) :
    (start.play store acts).bound? cp = some k ↔ start.LastConnection store acts cp k := by
  induction acts using List.reverseRecOn with
  | nil =>
    have hnone : (start.play store []).bound? cp = none := hfresh cp
    rw [hnone]
    refine iff_of_false nofun ?_
    rintro ⟨before, now, since, heq, -⟩
    exact List.cons_ne_nil _ _ (List.append_eq_nil_iff.1 heq.symm).2
  | append_singleton acts act ih =>
    rw [play_concat, bound?_perform_iff, ih]
    unfold LastConnection
    rw [exists_split_concat_iff (f := fun now => Act.connect cp now)]
    simp only [forall_split_concat_iff]
    refine or_congr ?_ ?_
    · constructor
      · rintro ⟨now, hact, hk⟩
        exact ⟨now, hact, hk, fun _ _ _ h => by cases (List.append_eq_nil_iff.1 h.symm).2⟩
      · rintro ⟨now, hact, hk, -⟩
        exact ⟨now, hact, hk⟩
    · constructor
      · rintro ⟨⟨before, now, since, rfl, hk, hkept⟩, hlast⟩
        exact ⟨before, now, since, rfl, hk, hkept, hlast⟩
      · rintro ⟨before, now, since, rfl, hk, hkept, hlast⟩
        exact ⟨⟨before, now, since, rfl, hk, hkept⟩, hlast⟩

/-! ## Output -/

/-- From one state to the next, a connection on which something can still go out stays with its
charge point, and what was written on it and what waits now is what has waited before and what was
said. -/
def Delivers (g g' : Gateway σ) (k : UInt64) (written : List String) (said : String → List String) :
    Prop :=
  ∀ queue', g'.queue? k = some queue' → ∃ queue, g.queue? k = some queue ∧
    ∀ cp, g.connections.get? k = some cp →
      g'.connections.get? k = some cp ∧ written ++ queue' = queue ++ said cp

theorem delivers_of_same {g' : Gateway σ} {said : String → List String}
    (hqueue : g'.queue? k = g.queue? k)
    (hconnections : g'.connections.get? k = g.connections.get? k)
    (hsaid : ∀ cp, g.connections.get? k = some cp → said cp = []) : g.Delivers g' k [] said := by
  intro queue' h
  refine ⟨queue', hqueue ▸ h, fun cp hopen => ⟨hconnections.trans hopen, ?_⟩⟩
  rw [hsaid cp hopen, List.append_nil, List.nil_append]

theorem Delivers.congr {g₁ g' : Gateway σ} {written : List String}
    {said : String → List String} (h : g₁.Delivers g' k written said)
    (hqueue : g₁.queue? k = g.queue? k) (hconnections : g₁.connections = g.connections) :
    g.Delivers g' k written said := by
  intro queue' hqueue'
  obtain ⟨queue, hopen, hsaid⟩ := h queue' hqueue'
  exact ⟨queue, hqueue ▸ hopen, fun cp hconnected => hsaid cp (hconnections ▸ hconnected)⟩

/-- What is queued on a connection has been said on it. -/
theorem delivers_put {g' : Gateway σ} {k' : UInt64} {queue : List String}
    {said : String → List String} (messages : List String) (hopen : g.queue? k' = some queue)
    (hput : g'.queue? k = if k = k' then some (queue ++ messages) else g.queue? k)
    (hconnections : g'.connections = g.connections)
    (hsaid : ∀ cp, g.connections.get? k = some cp →
      said cp = if k = k' then messages else []) : g.Delivers g' k [] said := by
  by_cases he : k = k'
  · subst he
    intro queue' hqueue'
    rw [hput, if_pos rfl] at hqueue'
    cases hqueue'
    refine ⟨queue, hopen, fun cp hconnected => ⟨hconnections ▸ hconnected, ?_⟩⟩
    rw [hsaid cp hconnected, if_pos rfl, List.nil_append]
  · refine delivers_of_same (hput.trans (if_neg he)) (by rw [hconnections]) ?_
    exact fun cp hconnected => (hsaid cp hconnected).trans (if_neg he)

/-- On a connection that ends nothing can go out any more. -/
theorem delivers_disconnect {k' : UInt64} {said : String → List String}
    (hsaid : k' ≠ k → ∀ cp, said cp = []) : g.Delivers (g.disconnect k') k [] said := by
  cases hopen' : g.connections.get? k' with
  | none =>
    rw [disconnect_of_none hopen']
    refine delivers_of_same rfl rfl fun cp hopen => hsaid ?_ cp
    rintro rfl
    rw [hopen] at hopen'
    cases hopen'
  | some cp' =>
    obtain ⟨hconnections, -, hqueue⟩ := disconnect_spec hopen'
    intro queue' hqueue'
    have hne : k ≠ k' := by
      rintro rfl
      rw [hqueue, if_pos rfl] at hqueue'
      cases hqueue'
    refine delivers_of_same ((hqueue k).trans (if_neg hne)) ?_
      (fun cp _ => hsaid hne.symm cp) queue' hqueue'
    rw [hconnections, Table.get?_erase, if_neg hne]

/-- A text is taken in for the charge point of its connection. -/
theorem said_read {k' : UInt64} {cp' : String} {now : Timestamp} {text : String}
    (hopen' : g.connections.get? k' = some cp') (hopen : g.connections.get? k = some cp) :
    g.said store cp k (.read k' now text) =
      if k = k' then (g.recorder.receive store cp' now text).1.toList else [] := by
  show (if k' = k then _ else _) = _
  by_cases he : k = k'
  · subst he
    rw [hopen] at hopen'
    cases hopen'
    rfl
  · rw [if_neg he, if_neg (Ne.symm he)]

theorem delivers_read (k' : UInt64) (now : Timestamp) (text : String) :
    g.Delivers (g.read store k' now text) k []
      (g.said store · k (.read k' now text)) := by
  rcases g.read_cases store k' now text with
    ⟨hclosed, heq⟩ | ⟨cp', hopen', ⟨hreply, heq⟩ |
      ⟨message, queue, hreply, hopen, hconnections, -, hqueue⟩ | ⟨-, heq⟩⟩
  · rw [heq]
    refine delivers_of_same rfl rfl fun cp hopen => if_neg ?_
    rintro rfl
    rw [hopen] at hclosed
    cases hclosed
  · rw [heq]
    refine delivers_of_same (g.queue?_take store cp' now text k) rfl fun cp hopen => ?_
    rw [said_read hopen' hopen, hreply]
    split <;> rfl
  · refine delivers_put [message] hopen (hqueue k) hconnections fun cp hconnected => ?_
    rw [said_read hopen' hconnected, hreply]
    rfl
  · rw [heq]
    refine Delivers.congr (delivers_disconnect ?_) (g.queue?_take store cp' now text k) rfl
    exact fun hne cp => if_neg hne

theorem delivers_command (cp' id : String) (command : Command) (now : Timestamp) :
    g.Delivers (g.command cp' id command now).2 k []
      (g.said store · k (.command cp' id command now)) := by
  rcases g.command_cases cp' id command now with
    ⟨hrefused, -, hchannels⟩ | ⟨k', queue, haccepted, hbound, hopen, hchannels⟩
  · refine delivers_of_same (Central.queue?_of_channels hchannels k) rfl fun cp _ => if_neg ?_
    rw [hrefused]
    exact fun hboth => Bool.false_ne_true hboth.1
  · refine delivers_put _ hopen (Central.queue?_of_put hchannels k) rfl fun cp _ => ?_
    unfold said
    dsimp only
    rw [haccepted, hbound]
    simp [eq_comm]

theorem delivers_flush (k' : UInt64) :
    g.Delivers (g.flush k').2 k (g.written k (.flush k')) fun _ => [] := by
  have hqueue : (g.flush k').2.queue? k =
      if k = k' then (g.queue? k').map fun _ => [] else g.queue? k :=
    Central.queue?_takeQueue _ k' k
  by_cases he : k = k'
  · subst he
    intro queue' hqueue'
    rw [hqueue, if_pos rfl, Option.map_eq_some_iff] at hqueue'
    obtain ⟨queue, hopen, rfl⟩ := hqueue'
    have hwritten : g.written k (.flush k) = queue :=
      (if_pos rfl).trans (Central.takeQueue_of_open _ hopen)
    exact ⟨queue, hopen, fun cp hconnected => ⟨hconnected, congrArg (· ++ []) hwritten⟩⟩
  · have hwritten : g.written k (.flush k') = [] := if_neg (Ne.symm he)
    rw [hwritten]
    exact delivers_of_same (hqueue.trans (if_neg he)) rfl fun _ _ => rfl

/-- What an act says on a connection is queued there or written, and nothing else is, unless the act
opens the connection. -/
theorem delivers_perform (hconnect : ∀ cp now, act = .connect cp now → k ≠ (g.connect cp now).1) :
    g.Delivers (g.perform store act) k (g.written k act) (g.said store · k act) := by
  cases act with
  | connect cp now =>
    have hne : k ≠ g.recorder.central.nextConnectionId := hconnect cp now rfl
    refine delivers_of_same ?_ (Table.get?_put_of_ne _ hne _) fun _ _ => rfl
    exact (Central.queue?_of_put rfl k).trans (if_neg hne)
  | read k' now text => exact delivers_read k' now text
  | command cp' id command now => exact delivers_command cp' id command now
  | lose k' =>
    have hqueue : (g.perform store (.lose k')).queue? k = if k = k' then none else g.queue? k :=
      Central.queue?_hangUp _ k' k
    intro queue' hqueue'
    have hne : k ≠ k' := by
      rintro rfl
      rw [hqueue, if_pos rfl] at hqueue'
      cases hqueue'
    exact delivers_of_same (hqueue.trans (if_neg hne)) rfl (fun _ _ => rfl) queue' hqueue'
  | disconnect k' => exact delivers_disconnect fun _ _ => rfl
  | flush k' => exact delivers_flush k'

/-- A channel stays open until it is lost or its connection ends. -/
theorem queue?_perform_ne_none (hopen : g.queue? k ≠ none) (hlose : act ≠ .lose k)
    (hend : act ≠ .disconnect k) : (g.perform store act).queue? k ≠ none := by
  have hput {g' : Gateway σ} {k' : UInt64} {queue : List String}
      (h : g'.queue? k = if k = k' then some queue else g.queue? k) : g'.queue? k ≠ none := by
    rw [h]
    split
    · exact nofun
    · exact hopen
  have hdisconnect {g₁ : Gateway σ} {k' : UInt64} (hqueue : g₁.queue? k = g.queue? k)
      (hne : k ≠ k') : (g₁.disconnect k').queue? k ≠ none := by
    cases hconnected : g₁.connections.get? k' with
    | none => rwa [disconnect_of_none hconnected, hqueue]
    | some cp' =>
      obtain ⟨-, -, hafter⟩ := disconnect_spec hconnected
      rwa [hafter, if_neg hne, hqueue]
  cases act with
  | connect cp now =>
    exact hput ((Central.queue?_of_put rfl k).trans rfl)
  | read k' now text =>
    show (g.read store k' now text).queue? k ≠ none
    rcases g.read_cases store k' now text with
      ⟨-, heq⟩ | ⟨cp, -, ⟨-, heq⟩ | ⟨message, queue, -, -, -, -, hqueue⟩ | ⟨hclosed, heq⟩⟩
    · rwa [heq]
    · rwa [heq, queue?_take]
    · exact hput (hqueue k)
    · rw [heq]
      refine hdisconnect (g.queue?_take store cp now text k) ?_
      rintro rfl
      exact hopen hclosed
  | command cp id command now =>
    rcases g.command_cases cp id command now with
      ⟨-, -, hchannels⟩ | ⟨k', queue, -, -, -, hchannels⟩
    · exact ne_of_eq_of_ne (Central.queue?_of_channels hchannels k) hopen
    · exact hput (Central.queue?_of_put hchannels k)
  | lose k' =>
    have hne : k ≠ k' := fun he => hlose (he ▸ rfl)
    exact ne_of_eq_of_ne ((Central.queue?_hangUp _ k' k).trans (if_neg hne)) hopen
  | disconnect k' => exact hdisconnect rfl fun he => hend (he ▸ rfl)
  | flush k' =>
    refine ne_of_eq_of_ne (Central.queue?_takeQueue _ k' k) ?_
    split
    · next he =>
      rw [← he, Ne, Option.map_eq_none_iff]
      exact hopen
    · exact hopen

/-- What was written on a connection, followed by what waits in its queue, is what was said on it
since it was opened. -/
theorem output_run {start : Gateway σ} {acts : List Act} (hfresh : ∀ k, start.queue? k = none)
    {queue : List String} (h : (start.play store acts).queue? k = some queue) :
    ∃ before cp now since, acts = before ++ .connect cp now :: since ∧
      k = ((start.play store before).connect cp now).1 ∧
      (start.play store acts).connections.get? k = some cp ∧
      let opened := ((start.play store before).connect cp now).2
      opened.gathered store (written k) since ++ queue =
        opened.gathered store (said store cp k) since := by
  induction acts using List.reverseRecOn generalizing queue with
  | nil =>
    have hnone : (start.play store []).queue? k = none := hfresh k
    rw [hnone] at h
    cases h
  | append_singleton acts act ih =>
    rw [play_concat] at h ⊢
    by_cases hopens : ∃ cp now, act = .connect cp now ∧
        k = ((start.play store acts).connect cp now).1
    · -- the connection is opened
      obtain ⟨cp, now, rfl, hk⟩ := hopens
      refine ⟨acts, cp, now, [], rfl, hk, ?_, ?_⟩
      · rw [hk]
        exact Table.get?_put_self _ _ _
      · have hempty : ((start.play store acts).connect cp now).2.queue? k = some [] :=
          (Central.queue?_of_put rfl k).trans (if_pos hk)
        exact Option.some.inj (h.symm.trans hempty)
    · have hconnect (cp : String) (now : Timestamp) (hact : act = .connect cp now) :
          k ≠ ((start.play store acts).connect cp now).1 := fun hk => hopens ⟨cp, now, hact, hk⟩
      obtain ⟨queue₀, hqueue₀, hkept⟩ := delivers_perform hconnect queue h
      obtain ⟨before, cp, now, since, heq, hk, hconnected, houtput⟩ := ih hqueue₀
      obtain ⟨hconnected', hstep⟩ := hkept cp hconnected
      have hplay : ((start.play store before).connect cp now).2.play store since =
          start.play store acts := by
        rw [heq, play_append]
        rfl
      refine ⟨before, cp, now, since ++ [act], ?_, hk, hconnected', ?_⟩
      · rw [heq, List.append_assoc, List.cons_append]
      · dsimp only at houtput ⊢
        rw [gathered_concat, gathered_concat, hplay, List.append_assoc, hstep,
          ← List.append_assoc, houtput]

theorem usable_concat {start : Gateway σ} {acts : List Act} :
    start.Usable store (acts ++ [act]) k ↔
      (∃ cp now, act = .connect cp now ∧ k = ((start.play store acts).connect cp now).1) ∨
      (start.Usable store acts k ∧ act ≠ .lose k ∧ act ≠ .disconnect k) := by
  have hpair (l : List Act) : start.Usable store l k ↔
      ∃ (before : List Act) (opening : String × Timestamp) (since : List Act),
        l = before ++ .connect opening.1 opening.2 :: since ∧
        k = ((start.play store before).connect opening.1 opening.2).1 ∧
        ∀ act ∈ since, act ≠ .lose k ∧ act ≠ .disconnect k := by
    simp only [Usable, Prod.exists]
  let opens (opening : String × Timestamp) : Act := .connect opening.1 opening.2
  rw [hpair, exists_since_concat_iff (f := opens), hpair]
  simp only [opens, Prod.exists]

/-- Something can go out on a connection exactly as long as it has neither lost its channel nor
ended. -/
theorem queue?_play_iff {start : Gateway σ} {acts : List Act}
    (hfresh : ∀ k, start.queue? k = none) :
    (start.play store acts).queue? k ≠ none ↔ start.Usable store acts k := by
  induction acts using List.reverseRecOn with
  | nil =>
    refine iff_of_false (not_not_intro (hfresh k)) ?_
    rintro ⟨before, cp, now, since, heq, -⟩
    exact List.cons_ne_nil _ _ (List.append_eq_nil_iff.1 heq.symm).2
  | append_singleton acts act ih =>
    rw [play_concat, usable_concat, ← ih]
    constructor
    · intro hopen
      by_cases hopens : ∃ cp now, act = .connect cp now ∧
          k = ((start.play store acts).connect cp now).1
      · exact Or.inl hopens
      · have hconnect (cp : String) (now : Timestamp) (hact : act = .connect cp now) :
            k ≠ ((start.play store acts).connect cp now).1 := fun hk => hopens ⟨cp, now, hact, hk⟩
        obtain ⟨queue', hqueue'⟩ := Option.ne_none_iff_exists'.1 hopen
        obtain ⟨queue, hqueue, -⟩ := delivers_perform hconnect queue' hqueue'
        obtain ⟨-, cp, -, -, -, -, hconnected, -⟩ := output_run hfresh hqueue
        refine Or.inr ⟨Option.ne_none_iff_exists'.2 ⟨queue, hqueue⟩, ?_, ?_⟩
        · rintro rfl
          exact hopen ((Central.queue?_hangUp _ k k).trans (if_pos rfl))
        · rintro rfl
          exact hopen (((disconnect_spec hconnected).2.2 k).trans (if_pos rfl))
    · rintro (⟨cp, now, rfl, hk⟩ | ⟨hopen, hlose, hend⟩)
      · exact ne_of_eq_of_ne ((Central.queue?_of_put rfl k).trans (if_pos hk)) nofun
      · exact queue?_perform_ne_none hopen hlose hend

end Gateway

/-! ## The main result -/

/-- Whatever happens, in any order: something can go out on every connection that has neither lost
its channel nor ended. What was written on it and what waits are the replies to the texts read on it
and the commands that were accepted for it, in their order, each once and nothing else. An accepted
command is queued on the connection that its charge point has opened last and that has not ended,
and on no other; and it is accepted exactly if there is such a connection, with a channel that is
open. -/
theorem output_delivered {σ : Type} (store : RecordStore σ) (heartbeatInterval : UInt32)
    (records : σ) (acts : List Act) :
    let start := Gateway.fresh heartbeatInterval records
    let g := start.play store acts
    (∀ k, g.queue? k ≠ none ↔ start.Usable store acts k) ∧
    (∀ k queue, g.queue? k = some queue →
      ∃ before cp now since, acts = before ++ .connect cp now :: since ∧
        k = ((start.play store before).connect cp now).1 ∧ g.connections.get? k = some cp ∧
        let opened := ((start.play store before).connect cp now).2
        opened.gathered store (Gateway.written k) since ++ queue =
          opened.gathered store (Gateway.said store cp k) since) ∧
    ∀ cp id (command : Command) now,
      let sent := g.command cp id command now
      (sent.1 = true ↔ ∃ k, start.LastConnection store acts cp k ∧ g.queue? k ≠ none) ∧
      (sent.1 = false → sent.2.recorder.central.channels = g.recorder.central.channels) ∧
      (sent.1 = true → ∃ k queue, start.LastConnection store acts cp k ∧
        g.queue? k = some queue ∧
        sent.2.recorder.central.channels = g.recorder.central.channels.put k
          ⟨true, queue ++ [(Frame.call id command.action command.payload).serialize]⟩) := by
  intro start g
  have hlast (cp : String) (k : UInt64) :
      g.bound? cp = some k ↔ start.LastConnection store acts cp k :=
    Gateway.bound?_play_iff fun _ => rfl
  have hempty (k : UInt64) : start.queue? k = none := rfl
  refine ⟨fun k => Gateway.queue?_play_iff hempty,
    fun k queue h => Gateway.output_run hempty h, ?_⟩
  intro cp id command now sent
  rcases g.command_cases cp id command now with
    ⟨hrefused, hclosed, hchannels⟩ | ⟨k, queue, haccepted, hbound, hopen, hchannels⟩
  · have hnot : ¬ sent.1 = true := hrefused ▸ Bool.false_ne_true
    refine ⟨iff_of_false hnot ?_, fun _ => hchannels, fun haccepted => absurd haccepted hnot⟩
    rintro ⟨k, hk, hopen⟩
    exact hopen (hclosed k ((hlast cp k).2 hk))
  · refine ⟨iff_of_true haccepted ⟨k, (hlast cp k).1 hbound, by rw [hopen]; exact nofun⟩, ?_, ?_⟩
    · intro hrefused
      rw [show sent.1 = true from haccepted] at hrefused
      cases hrefused
    · exact fun _ => ⟨k, queue, (hlast cp k).1 hbound, hopen, hchannels⟩

/-- A charge point connects twice, and talks on the first connection although it is superseded. -/
def talkingOn : List Act :=
  [.connect "CP1" ⟨0, 0, 0⟩, .read 1 ⟨0, 0, 0⟩ "[2,\"a\",\"Heartbeat\",\x7b\x7d]",
    .connect "CP1" ⟨0, 0, 0⟩, .flush 1, .command "CP1" "b" (.reset .soft) ⟨0, 0, 0⟩,
    .read 1 ⟨0, 0, 0⟩ "[2,\"c\",\"Heartbeat\",\x7b\x7d]"]

theorem output_delivered_talkingOn :
    let start : Gateway Unit := .fresh 300 ()
    let g := start.play .discarding talkingOn
    let reply := "[3,\"c\",\x7b\"currentTime\":\"1970-01-01T00:00:00Z\"\x7d]"
    let command : Command := .reset .hard
    let sent := g.command "CP1" "d" command ⟨0, 0, 0⟩
    start.Usable .discarding talkingOn 1 ∧ g.queue? 1 = some [reply] ∧
    (∃ before cp now since, talkingOn = before ++ .connect cp now :: since ∧
      1 = ((start.play .discarding before).connect cp now).1 ∧ g.connections.get? 1 = some cp ∧
      let opened := ((start.play .discarding before).connect cp now).2
      opened.gathered .discarding (Gateway.written 1) since ++ [reply] =
        opened.gathered .discarding (Gateway.said .discarding cp 1) since) ∧
    sent.1 = true ∧
    ∃ k queue, start.LastConnection .discarding talkingOn "CP1" k ∧ g.queue? k = some queue ∧
      sent.2.recorder.central.channels = g.recorder.central.channels.put k
        ⟨true, queue ++ [(Frame.call "d" command.action command.payload).serialize]⟩ := by
  intro start g reply command sent
  obtain ⟨husable, houtput, hcommands⟩ := output_delivered .discarding 300 () talkingOn
  obtain ⟨-, -, hqueued⟩ := hcommands "CP1" "d" command ⟨0, 0, 0⟩
  have hqueue : g.queue? 1 = some [reply] := by decide +kernel
  have haccepted : sent.1 = true := by decide +kernel
  refine ⟨(husable 1).1 ?_, hqueue, houtput 1 [reply] hqueue, haccepted, ?_⟩
  · rw [hqueue]
    exact nofun
  · -- the two sides differ in names only, so nothing is to be evaluated
    with_reducible exact hqueued haccepted

end HomeEnergy.Charging
