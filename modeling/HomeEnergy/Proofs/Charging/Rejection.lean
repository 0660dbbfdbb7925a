import HomeEnergy.Proofs.Charging.Conservation
import HomeEnergy.Proofs.Charging.Replies

/-!
Messages without effect. A text that is refused leaves everything as it was, whatever is wrong with
it: nothing is done for a charge point before its request has been decoded in full
(`rejection_changes_nothing`). A text that is not answered is itself an answer or an error report,
and all it can do is to strike one request off in the session of its charge point
(`Central.OnlyStrikes`).
-/

namespace HomeEnergy.Charging

open Ocpp (Frame Request)

theorem settledId?_eq_some_iff {text id : String} :
    settledId? text = some id ↔ ∃ f, Frame.parse text = .ok f ∧ ¬ f.isCall ∧ f.uniqueId = id := by
  unfold settledId?
  cases htext : Frame.parse text with
  | error fault => exact iff_of_false nofun nofun
  | ok f =>
    cases f with
    | call id' action payload =>
      refine iff_of_false nofun ?_
      rintro ⟨f, hf, hcall, -⟩
      cases hf
      exact hcall rfl
    | callResult id' payload => simp [Frame.isCall, Frame.uniqueId]
    | callError id' code description details => simp [Frame.isCall, Frame.uniqueId]

namespace Central

variable {c : Central} {cp : String} {now : Timestamp} {text : String}

/-- A request that can be carried out is answered with a result. -/
theorem isResult_of_request {req : Request} (hreq : requestOf? text = some req) {f : Frame}
    (hf : (c.receive cp now text).reply = some f) : f.isResult := by
  rw [reply_receive] at hf
  unfold requestOf? at hreq
  cases htext : Frame.parse text with
  | error fault =>
    rw [htext] at hreq
    cases hreq
  | ok g =>
    rw [htext] at hreq hf
    cases g with
    | call id action payload =>
      simp only at hreq hf
      split at hf
      · cases hf
        rfl
      · next refusal hrefused =>
        rw [hrefused] at hreq
        cases hreq
    | callResult id payload => cases hreq
    | callError id code description details => cases hreq

/-- What is answered, but not with a result, has no effect. -/
theorem receive_of_refused {f : Frame} (hf : (c.receive cp now text).reply = some f)
    (hresult : ¬ f.isResult) :
    (c.receive cp now text).central = c ∧ (c.receive cp now text).record = none := by
  refine receive_of_neither c cp now ?_ ?_
  · cases hreq : requestOf? text with
    | none => rfl
    | some req => exact absurd (isResult_of_request hreq hf) hresult
  · cases hset : settledId? text with
    | none => rfl
    | some id =>
      rw [receive_of_settled c cp now hset] at hf
      cases hf

end Central

namespace Central

/-- The one difference is that a request is struck off in the session of a charge point, if it is
connected: it and no other is not waited for any more. -/
structure OnlyStrikes (cp id : String) (c c' : Central) : Prop where
  rest_eq : { c' with sessions := c.sessions } = c
  others_eq : ∀ cp', cp' ≠ cp → c'.session? cp' = c.session? cp'
  unconnected : c.session? cp = none → c' = c
  connected : ∀ s, c.session? cp = some s → ∃ s', c'.session? cp = some s' ∧
    { s' with pending := s.pending } = s ∧
    ∀ id', s'.pending.get? id' = if id' = id then none else s.pending.get? id'

theorem onlyStrikes_settle (c : Central) (cp id : String) :
    OnlyStrikes cp id c (c.settle cp id) where
  rest_eq := by
    unfold settle updateSession
    split <;> rfl
  others_eq cp' hne := (c.session?_updateSession cp _ cp').trans (if_neg hne)
  unconnected hnone := updateSession_of_none hnone _
  connected s hs := by
    refine ⟨s.removePending id, ?_, rfl, fun id' => Table.get?_erase _ _ _⟩
    rw [settle, session?_updateSession, if_pos rfl, hs, Option.map_some]

end Central

/-- A text that is answered with an error report has no effect at all, on no session, on the counter
of transaction ids, or on what is kept. A text that is not answered is an answer or an error report,
and its one effect is that the request that it bears the id of is not waited for any more. -/
theorem rejection_changes_nothing {σ : Type} (store : RecordStore σ) (r : Recorder σ) (cp : String)
    (now : Timestamp) (text : String) :
    let reply := (r.receive store cp now text).1
    let after := (r.receive store cp now text).2
    (∀ out id code description details, reply = some out →
      Frame.parse out = .ok (.callError id code description details) → after = r) ∧
    (reply = none →
      ∃ f, Frame.parse text = .ok f ∧ ¬ f.isCall ∧ after.records = r.records ∧
        Central.OnlyStrikes cp f.uniqueId r.central after.central) := by
  intro reply after
  have hreply : reply = (r.central.receive cp now text).reply.map Frame.serialize := rfl
  constructor
  · intro out id code description details hout hparse
    obtain ⟨f, hf, rfl⟩ := Option.map_eq_some_iff.1 (hreply ▸ hout)
    rw [(Central.parse_reply hf).1] at hparse
    cases hparse
    obtain ⟨hcentral, hrecord⟩ := Central.receive_of_refused hf nofun
    show (⟨(r.central.receive cp now text).central, _⟩ : Recorder σ) = r
    rw [hcentral, hrecord]
  · intro hnone
    obtain ⟨f, hparse, hcall⟩ :=
      Central.not_isCall_of_reply (Option.map_eq_none_iff.1 (hreply ▸ hnone))
    have hset : settledId? text = some f.uniqueId :=
      settledId?_eq_some_iff.2 ⟨f, hparse, hcall, rfl⟩
    have hafter : after = ⟨r.central.settle cp f.uniqueId, r.records⟩ := by
      show (r.receive store cp now text).2 = _
      unfold Recorder.receive
      rw [Central.receive_of_settled r.central cp now hset]
    rw [hafter]
    exact ⟨f, hparse, hcall, rfl, r.central.onlyStrikes_settle cp f.uniqueId⟩

/-- A charge point that is connected asks to start a transaction without saying where, and answers
what nobody has asked. -/
theorem rejection_changes_nothing_undecodable :
    let r : Recorder History := ⟨(Central.fresh 300).after (.register "CP1" ⟨0, 0, 0⟩), .empty⟩
    let undecodable := "[2,\"5\",\"StartTransaction\",\x7b\x7d]"
    let unasked := "[3,\"6\",\x7b\x7d]"
    (∃ out description, (r.receive .memory "CP1" ⟨0, 1, 0⟩ undecodable).1 = some out ∧
      Frame.parse out = .ok (.callError "5" "InternalError" description (.object [])) ∧
      (r.receive .memory "CP1" ⟨0, 1, 0⟩ undecodable).2 = r) ∧
    (r.receive .memory "CP1" ⟨0, 1, 0⟩ unasked).1 = none ∧
    ∃ f, Frame.parse unasked = .ok f ∧
      Central.OnlyStrikes "CP1" f.uniqueId r.central
        (r.receive .memory "CP1" ⟨0, 1, 0⟩ unasked).2.central := by
  intro r undecodable unasked
  let refusal := Refusal.undecodable "StartTransaction" "missing field `connectorId`"
  have htext : Frame.parse undecodable = .ok (.call "5" "StartTransaction" (.object [])) := by cbv
  have hrefused : decodeRequest "StartTransaction" (.object []) = .error refusal := rfl
  have hreply : (r.central.receive "CP1" ⟨0, 1, 0⟩ undecodable).reply =
      some (refusal.frame "5") := by
    rw [Central.reply_receive, htext]
    simp only [hrefused]
  have hout : (r.receive .memory "CP1" ⟨0, 1, 0⟩ undecodable).1 =
      some (refusal.frame "5").serialize := congrArg (Option.map Frame.serialize) hreply
  have hparse := (Central.parse_reply hreply).1
  have hnone : (r.receive .memory "CP1" ⟨0, 1, 0⟩ unasked).1 = none := by cbv
  obtain ⟨hrejected, -⟩ := rejection_changes_nothing .memory r "CP1" ⟨0, 1, 0⟩ undecodable
  obtain ⟨-, hunanswered⟩ := rejection_changes_nothing .memory r "CP1" ⟨0, 1, 0⟩ unasked
  obtain ⟨f, hf, -, -, hstrikes⟩ := hunanswered hnone
  exact ⟨⟨_, refusal.message, hout, hparse, hrejected _ _ _ _ _ hout hparse⟩, hnone, f, hf,
    hstrikes⟩

end HomeEnergy.Charging
