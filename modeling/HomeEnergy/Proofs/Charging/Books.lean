import HomeEnergy.Proofs.Charging.Conservation

/-!
What the events of a run do to the books, that is to the sessions as far as they do not depend on
what the central system itself has asked, and to the counter of transaction ids. Only connecting,
disconnecting and the requests of charge points change them (`Central.after_cases`).
-/

namespace HomeEnergy.Charging

open Ocpp (Request)

/-- The session with nothing waiting for an answer. -/
def Session.settled (s : Session) : Session := { s with pending := .empty }

namespace Central

variable {c c' c'' : Central} {cp : String} {s s' : Session}

/-- The same sessions but for what waits for an answer, and the same counter of transaction ids. -/
structure SameBooks (c c' : Central) : Prop where
  sessions : ∀ cp, (c'.session? cp).map Session.settled = (c.session? cp).map Session.settled
  next_eq : c'.nextTransactionId = c.nextTransactionId

theorem SameBooks.refl (c : Central) : SameBooks c c := ⟨fun _ => rfl, rfl⟩

theorem SameBooks.trans (h : SameBooks c c') (h' : SameBooks c' c'') : SameBooks c c'' :=
  ⟨fun cp => (h'.sessions cp).trans (h.sessions cp), h'.next_eq.trans h.next_eq⟩

/-- Whoever is connected afterwards has been so before, with the same connectors and
transactions. -/
theorem SameBooks.exists_session (h : SameBooks c c') (hs' : c'.session? cp = some s') :
    ∃ s, c.session? cp = some s ∧ s'.connectors = s.connectors ∧
      s'.transactions = s.transactions := by
  have hsame := h.sessions cp
  rw [hs', Option.map_some] at hsame
  obtain ⟨s, hs, hsettled⟩ := Option.map_eq_some_iff.1 hsame.symm
  have hconnectors : s.settled.connectors = s'.settled.connectors := by rw [hsettled]
  have htransactions : s.settled.transactions = s'.settled.transactions := by rw [hsettled]
  exact ⟨s, hs, hconnectors.symm, htransactions.symm⟩

theorem sameBooks_updateSession (c : Central) (cp : String) {f : Session → Session}
    (hf : ∀ s, (f s).settled = s.settled) : SameBooks c (c.updateSession cp f) := by
  refine ⟨fun cp' => ?_, nextTransactionId_updateSession c cp f⟩
  rw [session?_updateSession]
  split
  · next he =>
    rw [he, Option.map_map]
    exact congrArg (Option.map · (c.session? cp)) (funext hf)
  · rfl

/-- Channels are not in the books. -/
theorem sameBooks_channels (c : Central) (channels : Table UInt64 Channel) :
    SameBooks c { c with channels := channels } := ⟨fun _ => rfl, rfl⟩

theorem sameBooks_hangUp (c : Central) (id : UInt64) : SameBooks c (c.hangUp id) := by
  unfold hangUp
  split
  · exact sameBooks_channels c _
  · exact .refl c

theorem sameBooks_send {id : UInt64} {message : String} (h : c.send id message = .ok c') :
    SameBooks c c' := by
  unfold send at h
  split at h
  · cases h
    exact sameBooks_channels c _
  · cases h

theorem sameBooks_call (c : Central) (cp uniqueId action : String) (payload : Json)
    (now : Timestamp) : SameBooks c (c.call cp uniqueId action payload now).2 := by
  unfold call
  cases c.session? cp with
  | none => exact .refl c
  | some s =>
    have hnoted : SameBooks c (c.updateSession cp (·.addPending uniqueId action now)) :=
      sameBooks_updateSession c cp fun _ => rfl
    dsimp only
    split
    · next hsent => exact hnoted.trans (sameBooks_send hsent)
    · exact hnoted.trans (sameBooks_updateSession _ cp fun _ => rfl)

theorem sameBooks_settle (c : Central) (cp uniqueId : String) :
    SameBooks c (c.settle cp uniqueId) := sameBooks_updateSession c cp fun _ => rfl

/-- What happens is that a charge point connects, that one disconnects, that one makes a request, or
nothing that would be noted in the books. -/
theorem after_cases (c : Central) (e : Event) :
    (∃ cp now, e = .register cp now) ∨ (∃ cp id, e = .unregister cp id) ∨
    (∃ cp now text req, e = .text cp now text ∧ requestOf? text = some req) ∨
    (SameBooks c (c.after e) ∧ ∀ cp now text, e = .text cp now text → requestOf? text = none) := by
  cases e with
  | register cp now => exact Or.inl ⟨cp, now, rfl⟩
  | unregister cp id => exact Or.inr (Or.inl ⟨cp, id, rfl⟩)
  | hangUp id => exact Or.inr (Or.inr (Or.inr ⟨sameBooks_hangUp c id, fun _ _ _ h => by cases h⟩))
  | call cp uniqueId action payload now =>
    refine Or.inr (Or.inr (Or.inr ⟨?_, fun _ _ _ h => by cases h⟩))
    exact sameBooks_call c cp uniqueId action payload now
  | text cp now text =>
    cases hreq : requestOf? text with
    | some req => exact Or.inr (Or.inr (Or.inl ⟨cp, now, text, req, rfl, hreq⟩))
    | none =>
      refine Or.inr (Or.inr (Or.inr ⟨?_, ?_⟩))
      · show SameBooks c (c.receive cp now text).central
        cases hset : settledId? text with
        | some id =>
          rw [receive_of_settled c cp now hset]
          exact sameBooks_settle c cp id
        | none =>
          rw [(receive_of_neither c cp now hreq hset).1]
          exact .refl c
      · intro _ _ _ h
        cases h
        exact hreq

end Central

end HomeEnergy.Charging
