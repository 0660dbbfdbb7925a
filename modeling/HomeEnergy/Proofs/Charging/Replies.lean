import HomeEnergy.Charging.Routing
import HomeEnergy.Proofs.Ocpp.RoundTrip

/-!
Replies to charge points. Every text is answered as it deserves, once or not at all
(`receive_answered`): requests with a result or an error, texts that are no frames with an error,
and answers with nothing. A reply is a frame that bears the right id and is itself not answered.

Each kind of text leads to one form of reply (`Central.reply_receive`). That the reply can be read
is the round trip of frames, since the payloads of all answers are plain enough for it.
-/

namespace HomeEnergy

namespace Ocpp

/-! ## Answers -/

/-- The actions that are carried out for charge points. -/
def supportedActions : List String :=
  ["BootNotification", "Heartbeat", "Authorize", "StartTransaction", "StopTransaction",
    "StatusNotification", "MeterValues", "DataTransfer"]

theorem Action.ofName?_eq_some_iff {name : String} {a : Action} :
    Action.ofName? name = some a ↔ a.name = name := by
  unfold Action.ofName?
  constructor
  · intro h
    simpa using List.find?_some h
  · rintro rfl
    cases a <;> decide

theorem Action.ofName?_eq_none_iff {name : String} :
    Action.ofName? name = none ↔ name ∉ supportedActions := by
  have hnames : supportedActions = Action.all.map Action.name := rfl
  rw [hnames, List.mem_map, Option.eq_none_iff_forall_ne_some]
  constructor
  · rintro h ⟨a, -, ha⟩
    exact h a (Action.ofName?_eq_some_iff.2 ha)
  · intro h a ha
    refine h ⟨a, ?_, Action.ofName?_eq_some_iff.1 ha⟩
    cases a <;> decide

/-- A value that is read back from its text, also within a few others. -/
def Plain (j : Json) : Prop := Json.Proper 125 j ∧ j.unreserved

theorem plain_string (s : String) : Plain (.string s) := ⟨⟨trivial, Nat.zero_le _⟩, rfl⟩

theorem plain_ofNat (n : Nat) : Plain (.ofNat n) :=
  ⟨⟨Json.Number.ofNat_wellFormed n, Nat.zero_le _⟩, rfl⟩

theorem plain_ofInt (i : Int) : Plain (.ofInt i) :=
  ⟨⟨Json.Number.ofInt_wellFormed i, Nat.zero_le _⟩, rfl⟩

theorem plain_tagInfo (status : TagStatus) :
    (tagInfo status).1 ≠ Json.numberKey ∧ Plain (tagInfo status).2 := by
  refine ⟨show "idTagInfo" ≠ Json.numberKey by decide, ?_, ?_⟩
  · refine Json.proper_object.2 ⟨List.pairwise_singleton _ _, ?_⟩
    intro m hm
    rw [List.mem_singleton.1 hm]
    exact ⟨trivial, Nat.zero_le _⟩
  · cases status
    · decide
    · decide

/-- The payload of an answer is made of plain values under ordinary keys. -/
theorem Response.payload_eq (r : Response) : ∃ members, r.payload = .ofMembers members ∧
    ∀ m ∈ members, m.1 ≠ Json.numberKey ∧ Plain m.2 := by
  cases r with
  | bootNotification currentTime interval =>
    refine ⟨_, rfl, ?_⟩
    simp only [List.forall_mem_cons]
    exact ⟨⟨by decide, plain_string _⟩, ⟨by decide, plain_ofNat _⟩, ⟨by decide, plain_string _⟩,
      nofun⟩
  | heartbeat currentTime =>
    refine ⟨_, rfl, ?_⟩
    simp only [List.forall_mem_cons]
    exact ⟨⟨by decide, plain_string _⟩, nofun⟩
  | authorize status =>
    refine ⟨_, rfl, ?_⟩
    simp only [List.forall_mem_cons]
    exact ⟨plain_tagInfo _, nofun⟩
  | startTransaction transactionId status =>
    refine ⟨_, rfl, ?_⟩
    simp only [List.forall_mem_cons]
    exact ⟨⟨by decide, plain_ofInt _⟩, plain_tagInfo _, nofun⟩
  | stopTransaction status =>
    refine ⟨_, rfl, ?_⟩
    simp only [List.forall_mem_cons]
    exact ⟨plain_tagInfo _, nofun⟩
  | statusNotification => exact ⟨[], rfl, nofun⟩
  | meterValues => exact ⟨[], rfl, nofun⟩
  | dataTransfer =>
    refine ⟨_, rfl, ?_⟩
    simp only [List.forall_mem_cons]
    exact ⟨⟨by decide, plain_string _⟩, nofun⟩

theorem Response.payload_plain (r : Response) :
    Json.Proper 126 r.payload ∧ r.payload.unreserved := by
  obtain ⟨members, heq, hmembers⟩ := r.payload_eq
  rw [heq]
  exact ⟨Json.proper_ofMembers fun m hm => (hmembers m hm).2.1,
    Json.unreserved_ofMembers fun m hm => ⟨(hmembers m hm).1, (hmembers m hm).2.2⟩⟩

namespace Frame

/-- Whether the frame is an answer to a request. -/
def isResult : Frame → Bool
  | .callResult _ _ => true
  | _ => false

/-- The code of an error report. -/
def errorCode? : Frame → Option String
  | .callError _ code _ _ => some code
  | _ => none

end Frame

end Ocpp

namespace Charging

open Ocpp (Action Frame Request Response)

/-! ## Replies -/

/-- Whether the payload of a request can be decoded as the action asks for. -/
def Decodes (action : String) (payload : Json) : Prop :=
  ∃ a req, Action.name a = action ∧ Request.decode a payload = .ok req

theorem decodeRequest_unsupported {action : String} (h : action ∉ Ocpp.supportedActions)
    (payload : Json) : decodeRequest action payload = .error (.unsupported action) := by
  unfold decodeRequest
  rw [Action.ofName?_eq_none_iff.2 h]

theorem decodeRequest_supported {action : String} (h : action ∈ Ocpp.supportedActions)
    (payload : Json) :
    (Decodes action payload ∧ ∃ req, decodeRequest action payload = .ok req) ∨
    (¬ Decodes action payload ∧
      ∃ reason, decodeRequest action payload = .error (.undecodable action reason)) := by
  unfold decodeRequest
  cases ha : Action.ofName? action with
  | none => exact absurd h (Action.ofName?_eq_none_iff.1 ha)
  | some a =>
    have hname := Action.ofName?_eq_some_iff.1 ha
    cases hdecode : Request.decode a payload with
    | ok req => exact .inl ⟨⟨a, req, hname, hdecode⟩, req, by simp [hdecode]⟩
    | error mismatch =>
      refine .inr ⟨?_, mismatch.message, by simp [hdecode]⟩
      rintro ⟨a', req, hname', hdecode'⟩
      have : a' = a := by
        rw [← Action.ofName?_eq_some_iff, ha] at hname'
        exact (Option.some.inj hname').symm
      rw [this, hdecode] at hdecode'
      cases hdecode'

namespace Central

/-- The reply to a text, by what the text is. -/
theorem reply_receive (c : Central) (cp : String) (now : Timestamp) (text : String) :
    (c.receive cp now text).reply =
      match Frame.parse text with
      | .ok (.call id action payload) =>
        match decodeRequest action payload with
        | .ok req => some (.callResult id (c.answer cp now req).response.payload)
        | .error refusal => some (refusal.frame id)
      | .ok _ => none
      | .error fault =>
        some ((Refusal.malformed fault.message).frame (Frame.recoverUniqueId text)) := by
  unfold receive
  cases Frame.parse text with
  | error fault => rfl
  | ok frame =>
    cases frame with
    | call id action payload =>
      simp only [receiveFrame]
      cases decodeRequest action payload with
      | ok req => rfl
      | error refusal => rfl
    | callResult id payload => rfl
    | callError id code description details => rfl

/-- The reply to a request, by its action and by whether its payload can be decoded. -/
theorem reply_call {c : Central} {cp : String} {now : Timestamp} {text id action : String}
    {payload : Json} {f : Frame} (htext : Frame.parse text = .ok (.call id action payload))
    (h : (c.receive cp now text).reply = some f) :
    f.uniqueId = id ∧
    (f.isResult ↔ action ∈ Ocpp.supportedActions ∧ Decodes action payload) ∧
    (f.errorCode? = some "NotSupported" ↔ action ∉ Ocpp.supportedActions) ∧
    (f.isResult ∨ f.errorCode? = some "NotSupported" ∨ f.errorCode? = some "InternalError") := by
  rw [reply_receive, htext] at h
  by_cases haction : action ∈ Ocpp.supportedActions
  · rcases decodeRequest_supported haction payload with
      ⟨hdecodes, req, hreq⟩ | ⟨hdecodes, reason, hreq⟩
    · simp only [hreq] at h
      cases h
      refine ⟨rfl, iff_of_true rfl ⟨haction, hdecodes⟩, iff_of_false nofun ?_, .inl rfl⟩
      exact not_not_intro haction
    · simp only [hreq] at h
      cases h
      refine ⟨rfl, iff_of_false nofun fun hboth => hdecodes hboth.2, iff_of_false ?_ ?_,
        .inr (.inr rfl)⟩
      · exact show ¬ some "InternalError" = some "NotSupported" by decide
      · exact not_not_intro haction
  · simp only [decodeRequest_unsupported haction] at h
    cases h
    exact ⟨rfl, iff_of_false nofun fun hboth => haction hboth.1, iff_of_true rfl haction,
      .inr (.inl rfl)⟩

/-- What a charge point is told can be read, and asks for nothing. -/
theorem parse_reply {c : Central} {cp : String} {now : Timestamp} {text : String} {f : Frame}
    (h : (c.receive cp now text).reply = some f) :
    Frame.parse f.serialize = .ok f ∧ ¬ f.isCall := by
  have hrefusal (refusal : Refusal) (id : String) :
      Frame.parse (refusal.frame id).serialize = .ok (refusal.frame id) ∧
        ¬ (refusal.frame id).isCall := by
    refine ⟨(Frame.parse_serialize_iff ?_ ?_).2 rfl, nofun⟩
    · exact Frame.proper_emptyObject 125
    · exact nofun
  rw [reply_receive] at h
  split at h
  · split at h
    · cases h
      refine ⟨(Frame.parse_serialize_iff ?_ ?_).2 ?_, nofun⟩
      · exact (Response.payload_plain _).1
      · exact nofun
      · exact (Response.payload_plain _).2
    · cases h
      exact hrefusal _ _
  · cases h
  · cases h
    exact hrefusal _ _

/-- A text that is an answer or an error report is not answered. -/
theorem reply_of_not_isCall (c : Central) (cp : String) (now : Timestamp) {text : String}
    {f : Frame} (h : Frame.parse text = .ok f) (hcall : ¬ f.isCall) :
    (c.receive cp now text).reply = none := by
  rw [reply_receive, h]
  cases f with
  | call id action payload => exact absurd rfl hcall
  | callResult id payload => rfl
  | callError id code description details => rfl

theorem not_isCall_of_reply {c : Central} {cp : String} {now : Timestamp} {text : String}
    (h : (c.receive cp now text).reply = none) : ∃ f, Frame.parse text = .ok f ∧ ¬ f.isCall := by
  rw [reply_receive] at h
  cases htext : Frame.parse text with
  | error fault =>
    rw [htext] at h
    cases h
  | ok f =>
    rw [htext] at h
    refine ⟨f, rfl, ?_⟩
    cases f with
    | call id action payload =>
      simp only at h
      split at h
      · cases h
      · cases h
    | callResult id payload => exact nofun
    | callError id code description details => exact nofun

end Central

/-- Every text is answered as it deserves. An answer or error report gets no reply, and every other
text gets one that can be read: a result if it is a request for a supported action whose payload can
be decoded, the code `NotSupported` if it is a request for another action, and `InternalError` for
the rest. The reply bears the id of the text, as far as it can be made out, and is not answered in
its turn. -/
theorem receive_answered {σ : Type} (store : RecordStore σ) (r : Recorder σ) (cp : String)
    (now : Timestamp) (text : String) :
    let reply := (r.receive store cp now text).1
    (reply = none ↔ ∃ f, Frame.parse text = .ok f ∧ ¬ f.isCall) ∧
    ∀ out, reply = some out → ∃ f, Frame.parse out = .ok f ∧
      (f.uniqueId = match Frame.parse text with
        | .ok g => g.uniqueId
        | .error _ => Frame.recoverUniqueId text) ∧
      (f.isResult ↔ ∃ id action payload, Frame.parse text = .ok (.call id action payload) ∧
        action ∈ Ocpp.supportedActions ∧ Decodes action payload) ∧
      (f.errorCode? = some "NotSupported" ↔
        ∃ id action payload, Frame.parse text = .ok (.call id action payload) ∧
          action ∉ Ocpp.supportedActions) ∧
      (f.isResult ∨ f.errorCode? = some "NotSupported" ∨ f.errorCode? = some "InternalError") ∧
      ∀ {ρ : Type} (store' : RecordStore ρ) (r' : Recorder ρ) (cp' : String) (now' : Timestamp),
        (r'.receive store' cp' now' out).1 = none := by
  intro reply
  have hreply : reply = (r.central.receive cp now text).reply.map Frame.serialize := rfl
  constructor
  · rw [hreply, Option.map_eq_none_iff]
    refine ⟨Central.not_isCall_of_reply, ?_⟩
    rintro ⟨f, hf, hcall⟩
    exact Central.reply_of_not_isCall _ _ _ hf hcall
  · intro out hout
    rw [hreply] at hout
    obtain ⟨f, hf, rfl⟩ := Option.map_eq_some_iff.1 hout
    obtain ⟨hparse, hcall⟩ := Central.parse_reply hf
    have hquiet {ρ : Type} (store' : RecordStore ρ) (r' : Recorder ρ) (cp' : String)
        (now' : Timestamp) : (r'.receive store' cp' now' f.serialize).1 = none :=
      Option.map_eq_none_iff.2 (Central.reply_of_not_isCall _ _ _ hparse hcall)
    refine ⟨f, hparse, ?_⟩
    -- what is left to show depends on the kind of the text
    cases htext : Frame.parse text with
    | error fault =>
      have hcode : ¬ some "InternalError" = some "NotSupported" := by decide
      rw [Central.reply_receive, htext] at hf
      cases hf
      exact ⟨rfl, iff_of_false nofun nofun, iff_of_false hcode nofun, .inr (.inr rfl), hquiet⟩
    | ok g =>
      cases g with
      | call id action payload =>
        obtain ⟨hid, hresult, hunsupported, hkind⟩ := Central.reply_call htext hf
        refine ⟨hid, hresult.trans ?_, hunsupported.trans ?_, hkind, hquiet⟩
        · constructor
          · rintro ⟨haction, hdecodes⟩
            exact ⟨id, action, payload, rfl, haction, hdecodes⟩
          · rintro ⟨_, _, _, ⟨⟩, haction, hdecodes⟩
            exact ⟨haction, hdecodes⟩
        · constructor
          · intro haction
            exact ⟨id, action, payload, rfl, haction⟩
          · rintro ⟨_, _, _, ⟨⟩, haction⟩
            exact haction
      | callResult id payload =>
        rw [Central.reply_receive, htext] at hf
        cases hf
      | callError id code description details =>
        rw [Central.reply_receive, htext] at hf
        cases hf

/-- A heartbeat is answered with the time. -/
theorem receive_answered_heartbeat :
    let text := "[2,\"7\",\"Heartbeat\",\x7b\x7d]"
    let reply := "[3,\"7\",\x7b\"currentTime\":\"1970-01-01T00:00:00Z\"\x7d]"
    let r : Recorder Unit := ⟨.fresh 300, ()⟩
    (r.receive .discarding "CP1" default text).1 = some reply ∧
    ∃ f, Frame.parse reply = .ok f ∧ f.uniqueId = "7" ∧ f.isResult := by
  intro text reply r
  have hreply : (r.receive .discarding "CP1" default text).1 = some reply := by cbv
  have htext : Frame.parse text = .ok (.call "7" "Heartbeat" (.object [])) := by cbv
  obtain ⟨f, hparse, hid, hresult, -⟩ :=
    (receive_answered .discarding r "CP1" default text).2 reply hreply
  rw [htext] at hid
  refine ⟨hreply, f, hparse, hid, hresult.2 ?_⟩
  exact ⟨"7", "Heartbeat", .object [], htext, by decide, .heartbeat, .heartbeat, rfl, rfl⟩

end Charging

end HomeEnergy
