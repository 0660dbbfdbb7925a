import HomeEnergy.Proofs.Charging.Links

/-!
Who is connected. A charge point has a session exactly if it has connected and this connection, the
last one it has opened, has not ended (`Central.origin?_run_iff`): an end that comes late, for a
connection that has been replaced, or that names a connection of another charge point, takes nothing
away.

The ids of connections come from a counter of 64 bits. What is said about ids supposes that it has
not come round (`Central.enrolled_run`); what is said about charge points does not.
-/

namespace HomeEnergy.Charging

def Event.isRegister : Event → Bool
  | .register _ _ => true
  | _ => false

/-- Whether the event does nothing but open or end a connection. -/
def Event.isMembership : Event → Bool
  | .register _ _ | .unregister _ _ => true
  | _ => false

namespace Central

/-- How the session of a charge point began. -/
def origin? (c : Central) (cp : String) : Option Origin := (c.session? cp).map Session.origin

/-- The id that an event gives to a new connection. -/
def opened? (c : Central) : Event → Option UInt64
  | .register cp now => some (c.register cp now).1
  | _ => none

/-- The id of the connection whose session an event takes away. -/
def removed? (c : Central) : Event → Option UInt64
  | .unregister cp id => if (c.unregister cp id).1 then some id else none
  | _ => none

/-- The last connection of a charge point in a run began like this, and its end has not been
reported since. The end of another connection does not count. -/
def RegisteredLast (start : Central) (events : List Event) (cp : String) (o : Origin) : Prop :=
  ∃ before now after, events = before ++ .register cp now :: after ∧
    o = ⟨((start.run before).register cp now).1, cp, now⟩ ∧
    ∀ e ∈ after, ¬ e.Ends cp o.connectionId

variable {start c : Central} {events : List Event} {cp : String} {o : Origin}

/-! ## Sessions -/

theorem registeredLast_concat {e : Event} :
    start.RegisteredLast (events ++ [e]) cp o ↔
      (∃ now, e = .register cp now ∧ o = ⟨(start.run events).nextConnectionId, cp, now⟩) ∨
      (start.RegisteredLast events cp o ∧ ¬ e.Ends cp o.connectionId) :=
  exists_since_concat_iff

theorem origin?_eq (c : Central) (cp : String) :
    c.origin? cp = (c.link? cp).map Link.origin := by
  unfold origin? link?
  rw [Option.map_map]
  rfl

/-- What changes links only in what waits for an answer leaves their origins. -/
theorem origin?_of_link?_eq {c' : Central} {cp' : String} {f : Link → Link}
    (hf : ∀ l, (f l).origin = l.origin)
    (h : c'.link? cp' = if cp' = cp then (c.link? cp).map f else c.link? cp') :
    c'.origin? cp' = c.origin? cp' := by
  rw [origin?_eq, origin?_eq, h]
  split
  · next he =>
    rw [he, Option.map_map]
    exact congrArg (Option.map · (c.link? cp)) (funext hf)
  · rfl

theorem origin?_after (c : Central) (e : Event) (cp' : String) :
    (c.after e).origin? cp' =
      match e with
      | .register cp now =>
        if cp' = cp then some ⟨c.nextConnectionId, cp, now⟩ else c.origin? cp'
      | .unregister cp id =>
        if cp' = cp then (c.origin? cp).filter (·.connectionId ≠ id) else c.origin? cp'
      | _ => c.origin? cp' := by
  cases e with
  | register cp now =>
    rw [origin?_eq]
    show ((c.register cp now).2.link? cp').map _ = _
    rw [link?_register, apply_ite (Option.map _), ← origin?_eq]
    rfl
  | unregister cp id =>
    rw [origin?_eq]
    show ((c.unregister cp id).2.link? cp').map _ = _
    rw [link?_unregister, apply_ite (Option.map _), ← origin?_eq]
    simp only [origin?_eq c cp, Option.filter_map]
    rfl
  | hangUp id =>
    rw [origin?_eq, origin?_eq]
    exact congrArg _ (link?_hangUp c id cp')
  | text cp now text =>
    refine origin?_of_link?_eq ?_ (link?_receive c cp now text cp')
    intro l
    unfold Link.take
    split <;> rfl
  | call cp id action payload now =>
    by_cases hok : (c.call cp id action payload now).1 = .ok ()
    · refine origin?_of_link?_eq ?_ (link?_call_ok c cp hok cp')
      exact fun _ => rfl
    · refine origin?_of_link?_eq ?_ (link?_call_error c cp hok cp')
      exact fun _ => rfl

/-- The session that a charge point has after an event began with the event, or it was there before
and the event does not end it. -/
theorem origin?_after_iff {e : Event} :
    (c.after e).origin? cp = some o ↔
      (∃ now, e = .register cp now ∧ o = ⟨c.nextConnectionId, cp, now⟩) ∨
      (c.origin? cp = some o ∧ ¬ e.Ends cp o.connectionId) := by
  rw [origin?_after]
  cases e with
  | register cp' now =>
    by_cases he : cp = cp'
    · subst he
      simp [Event.Ends, eq_comm]
    · simp [Event.Ends, he, Ne.symm he]
  | unregister cp' id =>
    by_cases he : cp = cp'
    · subst he
      simp [Event.Ends, Option.filter_eq_some_iff, @eq_comm _ id]
    · simp [Event.Ends, he, Ne.symm he]
  | hangUp id => simp [Event.Ends]
  | text cp' now text => simp [Event.Ends]
  | call cp' id action payload now => simp [Event.Ends]

/-- A charge point has a session exactly if its last connection has not ended, and this one. -/
theorem origin?_run_iff (hfresh : ∀ cp, start.session? cp = none) :
    (start.run events).origin? cp = some o ↔ start.RegisteredLast events cp o := by
  induction events using List.reverseRecOn with
  | nil =>
    have hnone : start.origin? cp = none := by rw [origin?, hfresh, Option.map_none]
    refine iff_of_false ?_ ?_
    · show start.origin? cp ≠ some o
      rw [hnone]
      exact nofun
    · rintro ⟨before, now, after, heq, -⟩
      exact List.cons_ne_nil _ _ (List.append_eq_nil_iff.1 heq.symm).2
  | append_singleton events e ih => rw [run_concat, origin?_after_iff, registeredLast_concat, ih]

/-- Where nothing has happened but that connections were opened and ended, the sessions are as they
began. -/
theorem session_pristine (hfresh : ∀ cp, start.session? cp = none)
    (hevents : ∀ e ∈ events, e.isMembership) {s : Session}
    (hs : (start.run events).session? cp = some s) :
    s = .fresh s.connectionId s.chargePointId s.connectedAt := by
  induction events using List.reverseRecOn with
  | nil =>
    have hnone : (start.run []).session? cp = none := hfresh cp
    rw [hnone] at hs
    cases hs
  | append_singleton events e ih =>
    have hbefore := ih fun e' he' => hevents e' (List.mem_append_left _ he')
    have he := hevents e (List.mem_append_right _ (List.mem_singleton_self e))
    rw [run_concat] at hs
    cases e with
    | register cp' now =>
      have hget := session?_register (start.run events) cp' now cp
      rw [show ((start.run events).after (.register cp' now)).session? cp = _ from hget] at hs
      split at hs
      · cases hs
        rfl
      · exact hbefore hs
    | unregister cp' id =>
      have hget := session?_unregister (start.run events) cp' id cp
      rw [show ((start.run events).after (.unregister cp' id)).session? cp = _ from hget] at hs
      split at hs
      · next he =>
        rw [← he] at hs
        exact hbefore (Option.filter_eq_some_iff.1 hs).1
      · exact hbefore hs
    | hangUp _ | text _ _ _ | call _ _ _ _ _ => cases he

/-- A connection that ends takes the session away exactly if the session is its own. -/
theorem unregister_iff {id : UInt64} :
    (c.unregister cp id).1 = true ↔ ∃ o, c.origin? cp = some o ∧ o.connectionId = id := by
  unfold origin?
  rcases unregister_cases c cp id with ⟨s, hs, hid, heq⟩ | ⟨hother, heq⟩
  · rw [heq, hs]
    exact iff_of_true rfl ⟨s.origin, rfl, hid⟩
  · rw [heq]
    refine iff_of_false Bool.false_ne_true ?_
    rintro ⟨o, ho, hid⟩
    obtain ⟨s, hs, rfl⟩ := Option.map_eq_some_iff.1 ho
    exact hother s hs hid

theorem unregister_true {id : UInt64} (h : (c.unregister cp id).1 = true) :
    (∃ s, c.session? cp = some s ∧ s.connectionId = id) ∧
      (c.unregister cp id).2.session? cp = none ∧
      ∀ cp', cp' ≠ cp → (c.unregister cp id).2.session? cp' = c.session? cp' := by
  obtain ⟨o, ho, hid⟩ := unregister_iff.1 h
  obtain ⟨s, hs, rfl⟩ := Option.map_eq_some_iff.1 ho
  refine ⟨⟨s, hs, hid⟩, ?_, ?_⟩
  · rw [session?_unregister, if_pos rfl, hs]
    exact Option.filter_some_neg (decide_eq_false (not_not_intro hid))
  · intro cp' hne
    rw [session?_unregister, if_neg hne]

theorem unregister_false {id : UInt64} (h : (c.unregister cp id).1 = false) :
    (c.unregister cp id).2 = c := by
  rcases unregister_cases c cp id with ⟨s, -, -, heq⟩ | ⟨-, heq⟩
  · rw [heq] at h
    cases h
  · rw [heq]

end Central

/-! ## Ids -/

/-- The first ids of the counter of connections. -/
def firstConnectionIds (n : Nat) : List UInt64 :=
  (List.range n).map fun k => UInt64.ofNat (k + 1)

theorem firstConnectionIds_succ (n : Nat) :
    firstConnectionIds (n + 1) = firstConnectionIds n ++ [UInt64.ofNat (n + 1)] := by
  unfold firstConnectionIds
  rw [List.range_succ, List.map_append]
  rfl

theorem firstConnectionIds_increasing {n : Nat} (few : n < 2 ^ 64) :
    (firstConnectionIds n).Pairwise (· < ·) := by
  refine List.pairwise_map.2 (List.Pairwise.imp_of_mem ?_ List.pairwise_lt_range)
  intro j k hj hk hlt
  rw [List.mem_range] at hj hk
  have hsize : UInt64.size = 2 ^ 64 := rfl
  rw [UInt64.lt_iff_toNat_lt, UInt64.toNat_ofNat_of_lt' (by omega),
    UInt64.toNat_ofNat_of_lt' (by omega)]
  omega

/-- The ids of the connections there are: given out, and neither taken twice nor taken back. -/
structure Enrolled (c : Central) (opened removed : List UInt64) : Prop where
  opened_of_live : ∀ cp o, c.origin? cp = some o → o.connectionId ∈ opened
  kept_of_live : ∀ cp o, c.origin? cp = some o → o.connectionId ∉ removed
  apart : ∀ cp cp' o o', c.origin? cp = some o → c.origin? cp' = some o' →
    o.connectionId = o'.connectionId → cp = cp'
  opened_of_removed : ∀ id ∈ removed, id ∈ opened
  removed_once : removed.Nodup

namespace Enrolled

variable {c c' : Central} {opened removed : List UInt64}

theorem congr (h : Enrolled c opened removed) (hsame : ∀ cp, c'.origin? cp = c.origin? cp) :
    Enrolled c' opened removed where
  opened_of_live cp o ho := h.opened_of_live cp o (hsame cp ▸ ho)
  kept_of_live cp o ho := h.kept_of_live cp o (hsame cp ▸ ho)
  apart cp cp' o o' ho ho' := h.apart cp cp' o o' (hsame cp ▸ ho) (hsame cp' ▸ ho')
  opened_of_removed := h.opened_of_removed
  removed_once := h.removed_once

theorem register (h : Enrolled c opened removed) (hnew : c.nextConnectionId ∉ opened)
    (cp : String) (now : Timestamp) :
    Enrolled (c.register cp now).2 (opened ++ [c.nextConnectionId]) removed := by
  have hget (cp' : String) : (c.register cp now).2.origin? cp' =
      if cp' = cp then some ⟨c.nextConnectionId, cp, now⟩ else c.origin? cp' :=
    c.origin?_after (.register cp now) cp'
  have hcases {cp' : String} {o : Origin} (ho : (c.register cp now).2.origin? cp' = some o) :
      (cp' = cp ∧ o.connectionId = c.nextConnectionId) ∨ c.origin? cp' = some o := by
    rw [hget] at ho
    split at ho
    · next he =>
      cases ho
      exact Or.inl ⟨he, rfl⟩
    · exact Or.inr ho
  refine ⟨?_, ?_, ?_, ?_, h.removed_once⟩
  · intro cp' o ho
    rcases hcases ho with ⟨-, hid⟩ | ho
    · rw [hid]
      exact List.mem_append_right _ (List.mem_singleton_self _)
    · exact List.mem_append_left _ (h.opened_of_live cp' o ho)
  · intro cp' o ho
    rcases hcases ho with ⟨-, hid⟩ | ho
    · rw [hid]
      exact fun hremoved => hnew (h.opened_of_removed _ hremoved)
    · exact h.kept_of_live cp' o ho
  · intro cp₁ cp₂ o₁ o₂ ho₁ ho₂ hid
    rcases hcases ho₁ with ⟨he₁, hid₁⟩ | ho₁ <;> rcases hcases ho₂ with ⟨he₂, hid₂⟩ | ho₂
    · rw [he₁, he₂]
    · exact absurd (h.opened_of_live cp₂ o₂ ho₂) (hid ▸ hid₁ ▸ hnew)
    · exact absurd (h.opened_of_live cp₁ o₁ ho₁) (hid ▸ hid₂ ▸ hnew)
    · exact h.apart cp₁ cp₂ o₁ o₂ ho₁ ho₂ hid
  · exact fun id hid => List.mem_append_left _ (h.opened_of_removed id hid)

theorem unregister (h : Enrolled c opened removed) {cp : String} {id : UInt64}
    (hown : (c.unregister cp id).1 = true) :
    Enrolled (c.unregister cp id).2 opened (removed ++ [id]) := by
  obtain ⟨o, ho, rfl⟩ := Central.unregister_iff.1 hown
  have hget (cp' : String) : (c.unregister cp o.connectionId).2.origin? cp' = if cp' = cp then
      (c.origin? cp).filter (·.connectionId ≠ o.connectionId) else c.origin? cp' :=
    c.origin?_after (.unregister cp o.connectionId) cp'
  have hlive {cp' : String} {o' : Origin}
      (ho' : (c.unregister cp o.connectionId).2.origin? cp' = some o') :
      cp' ≠ cp ∧ c.origin? cp' = some o' := by
    have hgone : (some o).filter (·.connectionId ≠ o.connectionId) = none :=
      Option.filter_some_neg (decide_eq_false (not_not_intro rfl))
    rw [hget, ho, hgone] at ho'
    split at ho'
    · cases ho'
    · next hne => exact ⟨hne, ho'⟩
  refine ⟨?_, ?_, ?_, ?_, ?_⟩
  · exact fun cp' o' ho' => h.opened_of_live cp' o' (hlive ho').2
  · intro cp' o' ho' hremoved
    rcases List.mem_append.1 hremoved with hremoved | hid
    · exact h.kept_of_live cp' o' (hlive ho').2 hremoved
    · exact (hlive ho').1 (h.apart cp' cp o' o (hlive ho').2 ho (List.mem_singleton.1 hid))
  · exact fun cp₁ cp₂ o₁ o₂ ho₁ ho₂ => h.apart cp₁ cp₂ o₁ o₂ (hlive ho₁).2 (hlive ho₂).2
  · intro id hid
    rcases List.mem_append.1 hid with hid | hid
    · exact h.opened_of_removed id hid
    · rw [List.mem_singleton.1 hid]
      exact h.opened_of_live cp o ho
  · rw [← List.concat_eq_append]
    exact h.removed_once.concat (h.kept_of_live cp o ho)

end Enrolled

namespace Central

theorem nextConnectionId_after (c : Central) (e : Event) : (c.after e).nextConnectionId =
    if e.isRegister then c.nextConnectionId + 1 else c.nextConnectionId := by
  cases e with
  | register cp now => rfl
  | unregister cp id =>
    show (c.unregister cp id).2.nextConnectionId = _
    rcases unregister_cases c cp id with ⟨s, -, -, heq⟩ | ⟨-, heq⟩
    · rw [heq]
      rfl
    · rw [heq]
      rfl
  | hangUp id =>
    show (c.hangUp id).nextConnectionId = _
    unfold hangUp
    split <;> rfl
  | text cp now text => exact nextConnectionId_receive c cp now text
  | call cp id action payload now =>
    show (c.call cp id action payload now).2.nextConnectionId = _
    rcases call_cases c cp id action payload now with
      ⟨-, heq⟩ | ⟨s, queue, -, -, heq⟩ | ⟨s, -, -, heq⟩
    · rw [heq]
      rfl
    · rw [heq]
      exact nextConnectionId_updateSession c cp _
    · rw [heq]
      exact (nextConnectionId_updateSession _ cp _).trans (nextConnectionId_updateSession c cp _)

/-- The ids of a run are the first ids of the counter. -/
theorem enrolled_run (heartbeatInterval : UInt32) (events : List Event)
    (few : events.countP Event.isRegister < 2 ^ 64) :
    let start := fresh heartbeatInterval
    start.gathered opened? events = firstConnectionIds (events.countP Event.isRegister) ∧
    (start.run events).nextConnectionId =
      UInt64.ofNat (events.countP Event.isRegister + 1) ∧
    Enrolled (start.run events) (start.gathered opened? events)
      (start.gathered removed? events) := by
  intro start
  induction events using List.reverseRecOn with
  | nil => exact ⟨rfl, rfl, nofun, nofun, nofun, nofun, List.nodup_nil⟩
  | append_singleton events e ih =>
    have hcount : (events ++ [e]).countP Event.isRegister =
        events.countP Event.isRegister + if e.isRegister then 1 else 0 := by
      rw [List.countP_append, List.countP_singleton]
    rw [hcount] at few ⊢
    obtain ⟨hopened, hnext, henrolled⟩ := ih (by omega)
    rw [run_concat, nextConnectionId_after]
    cases e with
    | register cp now =>
      have hregister : (Event.register cp now).isRegister = true := rfl
      rw [if_pos hregister] at few ⊢
      rw [if_pos hregister]
      have hnew : (start.run events).nextConnectionId ∉ start.gathered opened? events := by
        have hincreasing := firstConnectionIds_increasing few
        rw [firstConnectionIds_succ, List.pairwise_append, ← hnext, ← hopened] at hincreasing
        intro hmem
        exact UInt64.lt_irrefl _ (hincreasing.2.2 _ hmem _ (List.mem_singleton_self _))
      have hgiven : start.gathered opened? (events ++ [.register cp now]) =
          start.gathered opened? events ++ [(start.run events).nextConnectionId] :=
        gathered_concat _ _ _ _
      rw [gathered_concat_of_none (f := removed?) rfl, hgiven]
      refine ⟨?_, ?_, henrolled.register hnew cp now⟩
      · rw [hopened, hnext, ← firstConnectionIds_succ]
      · rw [hnext]
        exact (UInt64.ofNat_add (_ + 1) 1).symm
    | unregister cp id =>
      rw [gathered_concat_of_none (f := opened?) rfl]
      refine ⟨hopened, hnext, ?_⟩
      show Enrolled ((start.run events).unregister cp id).2 _ _
      cases hown : ((start.run events).unregister cp id).1 with
      | true =>
        have hremoved : (start.run events).removed? (.unregister cp id) = some id := if_pos hown
        rw [gathered_concat, hremoved]
        exact henrolled.unregister hown
      | false =>
        have hremoved : (start.run events).removed? (.unregister cp id) = none :=
          if_neg (hown ▸ Bool.false_ne_true)
        rw [gathered_concat_of_none hremoved, unregister_false hown]
        exact henrolled
    | hangUp _ | text _ _ _ | call _ _ _ _ _ =>
      rw [gathered_concat_of_none (f := opened?) rfl, gathered_concat_of_none (f := removed?) rfl]
      exact ⟨hopened, hnext, henrolled.congr (origin?_after _ _)⟩

end Central

/-! ## The main result -/

/-- After any run with fewer than `2 ^ 64` connections, whatever else has happened in it: a charge
point has a session exactly if its last connection has not been ended since, and then it is the one
that this connection began; an end takes a session away exactly if it names the connection of the
session, and else does nothing; ids of connections increase, and none takes a session away twice;
and those who are connected are those who have a session, each counted once. -/
theorem registry_follows_history (heartbeatInterval : UInt32) (events : List Event)
    (few : events.countP Event.isRegister < 2 ^ 64) :
    let start := Central.fresh heartbeatInterval
    let c := start.run events
    ((∀ cp o, (c.session? cp).map Session.origin = some o ↔ start.RegisteredLast events cp o) ∧
      ∀ cp s, c.session? cp = some s → (∀ e ∈ events, e.isMembership) →
        s = .fresh s.connectionId cp s.connectedAt) ∧
    (∀ cp id,
      ((c.unregister cp id).1 = true ↔
        ∃ o, start.RegisteredLast events cp o ∧ o.connectionId = id) ∧
      ((c.unregister cp id).1 = true →
        (∃ s, c.session? cp = some s ∧ s.connectionId = id) ∧
        (c.unregister cp id).2.session? cp = none ∧
        ∀ cp', cp' ≠ cp → (c.unregister cp id).2.session? cp' = c.session? cp') ∧
      ((c.unregister cp id).1 = false → (c.unregister cp id).2 = c)) ∧
    (start.gathered Central.opened? events).Pairwise (· < ·) ∧
    (start.gathered Central.removed? events).Nodup ∧
    ((∀ cp, c.isConnected cp ↔ (c.session? cp).isSome) ∧
      (∀ cp, cp ∈ c.connectedIds ↔ (c.session? cp).isSome) ∧
      c.connectedIds.Nodup ∧ c.count = c.connectedIds.length) := by
  intro start c
  have hfresh (cp : String) : start.session? cp = none := rfl
  obtain ⟨hopened, -, henrolled⟩ := Central.enrolled_run heartbeatInterval events few
  have hlast (cp : String) (o : Origin) :
      c.origin? cp = some o ↔ start.RegisteredLast events cp o := Central.origin?_run_iff hfresh
  refine ⟨⟨hlast, ?_⟩, ?_, ?_, henrolled.removed_once, ?_⟩
  · intro cp s hs hevents
    obtain ⟨before, now, after, -, ho, -⟩ := (hlast cp s.origin).1 (congrArg _ hs)
    have hcp : s.chargePointId = cp := congrArg Origin.chargePointId ho
    rw [← hcp]
    exact Central.session_pristine hfresh hevents hs
  · refine fun cp id => ⟨?_, Central.unregister_true, Central.unregister_false⟩
    rw [Central.unregister_iff]
    exact exists_congr fun o => and_congr_left' (hlast cp o)
  · rw [hopened]
    exact firstConnectionIds_increasing few
  · refine ⟨fun cp => Iff.rfl, c.sessions.mem_keys_iff, c.sessions.nodup_keys, ?_⟩
    exact (List.length_map Prod.fst).symm

/-- A charge point connects twice, the end of its first connection comes late, another one that
connects reports the end of the second connection as its own, and in the end the second connection
does end, which is reported twice, and a last one is opened. -/
def rejoining : List Event :=
  [.register "CP1" ⟨0, 1, 0⟩, .register "CP1" ⟨0, 2, 0⟩, .unregister "CP1" 1,
    .register "CP2" ⟨0, 3, 0⟩, .unregister "CP2" 2, .unregister "CP1" 2, .unregister "CP1" 2,
    .register "CP1" ⟨0, 4, 0⟩]

theorem registry_follows_history_rejoining :
    let start := Central.fresh 300
    let c := start.run rejoining
    rejoining.countP Event.isRegister < 2 ^ 64 ∧
    start.gathered Central.opened? rejoining = [1, 2, 3, 4] ∧
    start.gathered Central.removed? rejoining = [2] ∧
    start.RegisteredLast rejoining "CP1" ⟨4, "CP1", ⟨0, 4, 0⟩⟩ ∧
    c.session? "CP1" = some (.fresh 4 "CP1" ⟨0, 4, 0⟩) ∧
    (c.unregister "CP1" 2).2 = c ∧ (c.unregister "CP1" 4).2.session? "CP1" = none ∧
    c.connectedIds.Nodup ∧ c.connectedIds.length = 2 := by
  intro start c
  have few : rejoining.countP Event.isRegister < 2 ^ 64 := by decide
  obtain ⟨⟨hlast, -⟩, hends, -, -, -, -, hnodup, -⟩ := registry_follows_history 300 rejoining few
  have horigin : (c.session? "CP1").map Session.origin = some ⟨4, "CP1", ⟨0, 4, 0⟩⟩ := by cbv
  exact ⟨few, by cbv, by cbv, (hlast "CP1" _).1 horigin, by cbv, (hends "CP1" 2).2.2 (by cbv),
    ((hends "CP1" 4).2.1 (by cbv)).2.1, hnodup, by cbv⟩

end HomeEnergy.Charging
