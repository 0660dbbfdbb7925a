import HomeEnergy.Charging.Routing
import Mathlib

/-!
Runs of the central system: the things that can happen to it, in any order and for any charge
points, and what comes out of it on the way.

What a text does depends on one of two things that can be read off it: the request that it makes
(`requestOf?`), or the request that it answers (`settledId?`). `Central.receive_of_request`,
`receive_of_settled` and `receive_of_neither` say so, and the proofs about runs go by them.
-/

namespace HomeEnergy

/-- The transaction id that an answer hands out. -/
def Ocpp.Response.transactionId? : Ocpp.Response → Option Int32
  | .startTransaction id _ => some id
  | _ => none

namespace Charging

open Ocpp (Command Frame Request Response)

/-! ## Texts -/

/-- The request that a text makes, if it is one that can be carried out. -/
def requestOf? (text : String) : Option Request :=
  match Frame.parse text with
  | .ok (.call _ action payload) => (decodeRequest action payload).toOption
  | _ => none

/-- The unique id of the request that a text answers or refuses. -/
def settledId? (text : String) : Option String :=
  match Frame.parse text with
  | .ok (.callResult id _) => some id
  | .ok (.callError id _ _ _) => some id
  | _ => none

namespace Central

variable (c : Central) (cp : String) (now : Timestamp) {text : String}

theorem receive_of_request {req : Request} (h : requestOf? text = some req) :
    (c.receive cp now text).central = (c.answer cp now req).central ∧
    (c.receive cp now text).record = (c.answer cp now req).record := by
  unfold requestOf? at h
  split at h
  · next id action payload hparse =>
    unfold receive
    rw [hparse]
    simp only [receiveFrame]
    cases hreq : decodeRequest action payload with
    | ok req' =>
      rw [hreq] at h
      cases h
      exact ⟨rfl, rfl⟩
    | error refusal =>
      rw [hreq] at h
      cases h
  · cases h

theorem receive_of_settled {id : String} (h : settledId? text = some id) :
    c.receive cp now text = ⟨none, c.settle cp id, none⟩ := by
  unfold settledId? at h
  split at h
  · next hparse =>
    cases h
    simp only [receive, hparse, receiveFrame]
  · next hparse =>
    cases h
    simp only [receive, hparse, receiveFrame]
  · cases h

theorem receive_of_neither (hreq : requestOf? text = none) (hset : settledId? text = none) :
    (c.receive cp now text).central = c ∧ (c.receive cp now text).record = none := by
  unfold requestOf? at hreq
  unfold settledId? at hset
  unfold receive
  cases hparse : Frame.parse text with
  | error fault => exact ⟨rfl, rfl⟩
  | ok frame =>
    rw [hparse] at hreq hset
    cases frame with
    | call id action payload =>
      simp only [receiveFrame]
      cases hdec : decodeRequest action payload with
      | error refusal => exact ⟨rfl, rfl⟩
      | ok req =>
        simp only [hdec] at hreq
        cases hreq
    | callResult id payload => cases hset
    | callError id code description details => cases hset

end Central

/-! ## Events -/

/-- Something that happens to the central system. A text is taken in for the charge point whose
connection it was read on; a command is a call of its action. -/
inductive Event where
  | register (chargePointId : String) (now : Timestamp)
  | unregister (chargePointId : String) (connectionId : UInt64)
  | hangUp (connectionId : UInt64)
  | text (chargePointId : String) (now : Timestamp) (text : String)
  | call (chargePointId uniqueId action : String) (payload : Json) (now : Timestamp)

/-- What is found somewhere in a list that has grown by one element is that element, or it has been
there before. -/
theorem exists_split_concat_iff {α β : Type} {l : List α} {a : α} {f : β → α}
    {P : List α → β → List α → Prop} :
    (∃ before b after, l ++ [a] = before ++ f b :: after ∧ P before b after) ↔
      (∃ b, a = f b ∧ P l b []) ∨
      ∃ before b after, l = before ++ f b :: after ∧ P before b (after ++ [a]) := by
  constructor
  · rintro ⟨before, b, after, heq, h⟩
    rcases List.eq_nil_or_concat after with rfl | ⟨after, y, rfl⟩
    · obtain ⟨rfl, hb⟩ := List.append_inj' heq rfl
      exact Or.inl ⟨b, List.head_eq_of_cons_eq hb, h⟩
    · rw [List.concat_eq_append] at heq h
      rw [← List.cons_append, ← List.append_assoc] at heq
      obtain ⟨rfl, hy⟩ := List.append_inj' heq rfl
      rw [← List.head_eq_of_cons_eq hy] at h
      exact Or.inr ⟨before, b, after, rfl, h⟩
  · rintro (⟨b, rfl, h⟩ | ⟨before, b, after, rfl, h⟩)
    · exact ⟨l, b, [], rfl, h⟩
    · exact ⟨before, b, after ++ [a], by rw [List.append_assoc, List.cons_append], h⟩

theorem forall_split_concat_iff {α : Type} {l : List α} {a : α} {P : List α → α → Prop} :
    (∀ before x after, l ++ [a] = before ++ x :: after → P before x) ↔
      (∀ before x after, l = before ++ x :: after → P before x) ∧ P l a := by
  constructor
  · refine fun h => ⟨fun before x after heq => h before x (after ++ [a]) ?_, h l a [] rfl⟩
    rw [heq, List.append_assoc, List.cons_append]
  · rintro ⟨h, ha⟩ before x after heq
    have hsplit := (exists_split_concat_iff (f := id) (P := fun b y _ => b = before ∧ y = x)).1
      ⟨before, x, after, heq, rfl, rfl⟩
    rcases hsplit with ⟨y, rfl, rfl, rfl⟩ | ⟨_, _, after', hl, rfl, rfl⟩
    · exact ha
    · exact h _ _ after' hl

theorem exists_since_concat_iff {α β : Type} {l : List α} {a : α} {f : β → α}
    {P : List α → β → Prop} {Q : α → Prop} :
    (∃ before b after, l ++ [a] = before ++ f b :: after ∧ P before b ∧ ∀ x ∈ after, Q x) ↔
      (∃ b, a = f b ∧ P l b) ∨
      ((∃ before b after, l = before ++ f b :: after ∧ P before b ∧ ∀ x ∈ after, Q x) ∧ Q a) := by
  rw [exists_split_concat_iff]
  simp only [List.forall_mem_append, List.forall_mem_singleton]
  constructor
  · rintro (⟨b, ha, hP, -⟩ | ⟨before, b, after, heq, hP, hafter, hlast⟩)
    · exact Or.inl ⟨b, ha, hP⟩
    · exact Or.inr ⟨⟨before, b, after, heq, hP, hafter⟩, hlast⟩
  · rintro (⟨b, ha, hP⟩ | ⟨⟨before, b, after, heq, hP, hafter⟩, hlast⟩)
    · exact Or.inl ⟨b, ha, hP, nofun⟩
    · exact Or.inr ⟨before, b, after, heq, hP, hafter, hlast⟩

namespace Central

/-- The central system after an event. -/
def after (c : Central) : Event → Central
  | .register cp now => (c.register cp now).2
  | .unregister cp id => (c.unregister cp id).2
  | .hangUp id => c.hangUp id
  | .text cp now text => (c.receive cp now text).central
  | .call cp uniqueId action payload now => (c.call cp uniqueId action payload now).2

theorem command_eq_call (c : Central) (cp uniqueId : String) (command : Command)
    (now : Timestamp) :
    (c.command cp uniqueId command now).2 =
      c.after (.call cp uniqueId command.action command.payload now) := by
  show _ = (c.call cp uniqueId command.action command.payload now).2
  unfold Central.command
  split <;> next h => rw [h]

/-- The central system after a run. -/
def run (c : Central) (events : List Event) : Central := events.foldl after c

theorem run_concat (c : Central) (events : List Event) (e : Event) :
    c.run (events ++ [e]) = (c.run events).after e := by
  simp only [run, List.foldl_append, List.foldl_cons, List.foldl_nil]

theorem run_append (c : Central) (earlier later : List Event) :
    c.run (earlier ++ later) = (c.run earlier).run later := List.foldl_append

/-- What the events of a run bring forth, one after another. -/
def gathered {β : Type} (f : Central → Event → Option β) (c : Central) : List Event → List β
  | [] => []
  | e :: rest => (f c e).toList ++ gathered f (c.after e) rest

theorem gathered_append {β : Type} (f : Central → Event → Option β) (c : Central)
    (earlier later : List Event) :
    gathered f c (earlier ++ later) = gathered f c earlier ++ gathered f (c.run earlier) later := by
  induction earlier generalizing c with
  | nil => rfl
  | cons e rest ih =>
    rw [List.cons_append, gathered, gathered, ih, List.append_assoc]
    rfl

theorem gathered_concat {β : Type} (f : Central → Event → Option β) (c : Central)
    (events : List Event) (e : Event) :
    gathered f c (events ++ [e]) = gathered f c events ++ (f (c.run events) e).toList := by
  rw [gathered_append, gathered, gathered, List.append_nil]

theorem gathered_concat_of_none {β : Type} {f : Central → Event → Option β} {c : Central}
    {events : List Event} {e : Event} (h : f (c.run events) e = none) :
    gathered f c (events ++ [e]) = gathered f c events := by
  rw [gathered_concat, h, Option.toList_none, List.append_nil]

theorem mem_gathered_iff {β : Type} {f : Central → Event → Option β} {c : Central}
    {events : List Event} {b : β} :
    b ∈ c.gathered f events ↔
      ∃ before e after, events = before ++ e :: after ∧ f (c.run before) e = some b := by
  induction events using List.reverseRecOn with
  | nil =>
    refine iff_of_false List.not_mem_nil ?_
    rintro ⟨before, e, after, heq, -⟩
    exact List.cons_ne_nil _ _ (List.append_eq_nil_iff.1 heq.symm).2
  | append_singleton events e ih =>
    rw [gathered_concat, List.mem_append, Option.mem_toList, ih]
    refine Iff.trans ?_ (exists_split_concat_iff (f := id)
      (P := fun before e _ => f (c.run before) e = some b)).symm
    rw [or_comm]
    exact or_congr_left ⟨fun h => ⟨e, rfl, h⟩, fun ⟨_, he, h⟩ => he ▸ h⟩

theorem length_gathered_le {β : Type} (c : Central) (f : Central → Event → Option β)
    (events : List Event) : (c.gathered f events).length ≤ events.length := by
  induction events generalizing c with
  | nil => exact Nat.le_refl 0
  | cons e rest ih =>
    rw [gathered, List.length_append, List.length_cons, Nat.add_comm]
    exact Nat.add_le_add (ih _) (Option.length_toList_le)

theorem filterMap_gathered {β γ : Type} (f : Central → Event → Option β) (p : β → Option γ)
    (c : Central) (events : List Event) :
    (c.gathered f events).filterMap p = c.gathered (fun c e => (f c e).bind p) events := by
  induction events generalizing c with
  | nil => rfl
  | cons e rest ih =>
    rw [gathered, gathered, List.filterMap_append, ih]
    cases f c e with
    | none => rfl
    | some b =>
      refine congrArg (· ++ _) ?_
      show [b].filterMap p = (p b).toList
      cases hb : p b with
      | none => exact List.filterMap_cons_none hb
      | some d => exact List.filterMap_cons_some hb

theorem forall₂_gathered {β γ : Type} {f : Central → Event → Option β}
    {g : Central → Event → Option γ} {R : β → γ → Prop}
    (h : ∀ c e, Option.Rel R (f c e) (g c e)) (c : Central) (events : List Event) :
    List.Forall₂ R (c.gathered f events) (c.gathered g events) := by
  induction events generalizing c with
  | nil => exact .nil
  | cons e rest ih =>
    have hrel := h c e
    rw [gathered, gathered]
    generalize f c e = x, g c e = y at hrel
    cases hrel with
    | none => exact ih _
    | some hR => exact .cons hR (ih _)

/-! ## What comes out -/

/-- The record that an event gives the store to keep. -/
def handsOver? (c : Central) : Event → Option Record
  | .text cp now text => (c.receive cp now text).record
  | _ => none

/-- The transaction id that an event hands out. -/
def handsOut? (c : Central) : Event → Option Int32
  | .text cp now text =>
    (requestOf? text).bind fun req => (c.answer cp now req).response.transactionId?
  | _ => none

theorem handsOut?_of_request (c : Central) (cp : String) (now : Timestamp) {text : String}
    {req : Request} (h : requestOf? text = some req) :
    c.handsOut? (.text cp now text) = (c.answer cp now req).response.transactionId? := by
  show (requestOf? text).bind _ = _
  rw [h, Option.bind_some]

theorem handsOut?_of_no_request (c : Central) (cp : String) (now : Timestamp) {text : String}
    (h : requestOf? text = none) : c.handsOut? (.text cp now text) = none := by
  show (requestOf? text).bind _ = _
  rw [h, Option.bind_none]

end Central

/-! ## Runs with a store -/

namespace Recorder

variable {σ : Type}

/-- The recorder after an event. -/
def after (store : RecordStore σ) (r : Recorder σ) : Event → Recorder σ
  | .text cp now text => (r.receive store cp now text).2
  | e => { r with central := r.central.after e }

/-- The recorder after a run. -/
def run (store : RecordStore σ) (r : Recorder σ) (events : List Event) : Recorder σ :=
  events.foldl (after store) r

theorem run_append (store : RecordStore σ) (r : Recorder σ) (earlier later : List Event) :
    r.run store (earlier ++ later) = (r.run store earlier).run store later := List.foldl_append

theorem central_after (store : RecordStore σ) (r : Recorder σ) (e : Event) :
    (r.after store e).central = r.central.after e := by
  cases e <;> rfl

theorem central_run (store : RecordStore σ) (r : Recorder σ) (events : List Event) :
    (r.run store events).central = r.central.run events := by
  induction events generalizing r with
  | nil => rfl
  | cons e rest ih =>
    show ((r.after store e).run store rest).central = (r.central.after e).run rest
    rw [ih, central_after]

end Recorder

/-- The store that besides writes down every record that it is given. -/
def RecordStore.logged {σ : Type} (store : RecordStore σ) : RecordStore (σ × List Record) where
  save record s := ((store.save record s.1).1, (store.save record s.1).2, s.2 ++ [record])

/-- What a logged store has written down is what the events of the run handed over, in order. -/
theorem RecordStore.logged_run {σ : Type} (store : RecordStore σ) (r : Recorder (σ × List Record))
    (events : List Event) :
    (r.run store.logged events).records.2 =
      r.records.2 ++ r.central.gathered Central.handsOver? events := by
  induction events generalizing r with
  | nil => rw [Central.gathered, List.append_nil]; rfl
  | cons e rest ih =>
    -- only texts lead to records
    have hstep : (r.after store.logged e).records.2 =
        r.records.2 ++ (r.central.handsOver? e).toList := by
      cases e with
      | text cp now text =>
        simp only [Recorder.after, Recorder.receive, Central.handsOver?]
        cases (r.central.receive cp now text).record with
        | none => exact (List.append_nil _).symm
        | some record => rfl
      | _ => exact (List.append_nil _).symm
    show ((r.after store.logged e).run store.logged rest).records.2 = _
    rw [ih, hstep, Recorder.central_after, Central.gathered, List.append_assoc]

end Charging

end HomeEnergy
