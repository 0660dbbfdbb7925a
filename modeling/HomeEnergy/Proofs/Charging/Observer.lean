import HomeEnergy.Proofs.Charging.Delivery

/-!
The store only looks on. Whatever becomes of the records, the central system is the same after every
step, what comes back from every operation is the same, and so are the records that are handed over
(`records_unread`).

Two stores are compared by way of a map between what they hold. If one of them does with the image
what the other does with the contents (`RecordStore.Follows`), then so does the whole system: only
its records are mapped (`Recorder.run_mapRecords`, `Gateway.play_mapRecords`). A store that writes
down what it is given is followed by the store underneath and by a plain list.
-/

namespace HomeEnergy.Charging

open Ocpp (Command)

variable {σ τ : Type} {store : RecordStore σ} {store' : RecordStore τ} {f : σ → τ}

/-! ## Stores that follow one another -/

namespace RecordStore

/-- With each record the one store does to the image what the other does to the contents, whether or
not they can keep it. -/
def Follows (store' : RecordStore τ) (store : RecordStore σ) (f : σ → τ) : Prop :=
  ∀ record s, f (store.save record s).2 = (store'.save record (f s)).2

/-- Writes down every record that it is given. -/
def listing : RecordStore (List Record) := ⟨fun record list => (.ok (), list ++ [record])⟩

/-- Any two stores are followed by the one that holds nothing. -/
theorem follows_discarding (store : RecordStore σ) :
    (discarding : RecordStore Unit).Follows store fun _ => () := fun _ _ => rfl

theorem follows_logged (store : RecordStore σ) : store.Follows store.logged Prod.fst :=
  fun _ _ => rfl

theorem listing_follows_logged (store : RecordStore σ) : listing.Follows store.logged Prod.snd :=
  fun _ _ => rfl

end RecordStore

/-- What comes back from an operation. -/
inductive Return where
  | connection (id : UInt64)
  | removed (isRemoved : Bool)
  | reply (text : Option String)
  | called (result : Except CallFault Unit)
  | sent (isAccepted : Bool)
  | written (messages : List String)
  | nothing

/-! ## The central system -/

namespace Recorder

/-- The recorder with other records. -/
def mapRecords (f : σ → τ) (r : Recorder σ) : Recorder τ := ⟨r.central, f r.records⟩

/-- What comes back from an event. -/
def returns (store : RecordStore σ) (r : Recorder σ) : Event → Return
  | .register cp now => .connection (r.central.register cp now).1
  | .unregister cp id => .removed (r.central.unregister cp id).1
  | .hangUp _ => .nothing
  | .text cp now text => .reply (r.receive store cp now text).1
  | .call cp uniqueId action payload now =>
    .called (r.central.call cp uniqueId action payload now).1

theorem receive_mapRecords (h : store'.Follows store f) (r : Recorder σ) (cp : String)
    (now : Timestamp) (text : String) :
    (r.mapRecords f).receive store' cp now text =
      ((r.receive store cp now text).1, (r.receive store cp now text).2.mapRecords f) := by
  simp only [receive, mapRecords]
  cases (r.central.receive cp now text).record with
  | none => rfl
  | some record => rw [h]

theorem returns_mapRecords (h : store'.Follows store f) (r : Recorder σ) (e : Event) :
    (r.mapRecords f).returns store' e = r.returns store e := by
  cases e with
  | text cp now text =>
    unfold returns
    dsimp only
    rw [receive_mapRecords h]
  | _ => rfl

theorem after_mapRecords (h : store'.Follows store f) (r : Recorder σ) (e : Event) :
    (r.mapRecords f).after store' e = (r.after store e).mapRecords f := by
  cases e with
  | text cp now text =>
    unfold after
    dsimp only
    rw [receive_mapRecords h]
  | _ => rfl

theorem run_mapRecords (h : store'.Follows store f) (r : Recorder σ) (events : List Event) :
    (r.mapRecords f).run store' events = (r.run store events).mapRecords f := by
  induction events generalizing r with
  | nil => rfl
  | cons e rest ih =>
    show ((r.mapRecords f).after store' e).run store' rest =
      ((r.after store e).run store rest).mapRecords f
    rw [after_mapRecords h, ih]

end Recorder

/-! ## The gateway -/

namespace Gateway

/-- The gateway with other records. -/
def mapRecords (f : σ → τ) (g : Gateway σ) : Gateway τ := ⟨g.recorder.mapRecords f, g.connections⟩

/-- What comes back from an act; a text is replied to if its connection is open. -/
def returns (store : RecordStore σ) (g : Gateway σ) : Act → Return
  | .connect cp now => .connection (g.connect cp now).1
  | .read k now text =>
    .reply ((g.connections.get? k).bind fun cp => (g.recorder.receive store cp now text).1)
  | .command cp id command now => .sent (g.command cp id command now).1
  | .lose _ => .nothing
  | .disconnect _ => .nothing
  | .flush k => .written (g.flush k).1

theorem disconnect_mapRecords (g : Gateway σ) (k : UInt64) :
    (g.mapRecords f).disconnect k = (g.disconnect k).mapRecords f := by
  simp only [disconnect, mapRecords]
  cases g.connections.get? k <;> rfl

theorem read_mapRecords (h : store'.Follows store f) (g : Gateway σ) (k : UInt64)
    (now : Timestamp) (text : String) :
    (g.mapRecords f).read store' k now text = (g.read store k now text).mapRecords f := by
  have hreceive (cp : String) := Recorder.receive_mapRecords h g.recorder cp now text
  unfold read
  simp only [mapRecords, hreceive]
  cases g.connections.get? k with
  | none => rfl
  | some cp =>
    dsimp only
    cases (g.recorder.receive store cp now text).1 with
    | none => rfl
    | some message =>
      simp only [Recorder.mapRecords]
      cases (g.recorder.receive store cp now text).2.central.send k message with
      | ok c => rfl
      | error fault => exact disconnect_mapRecords ⟨_, g.connections⟩ k

theorem returns_mapRecords (h : store'.Follows store f) (g : Gateway σ) (act : Act) :
    (g.mapRecords f).returns store' act = g.returns store act := by
  cases act with
  | read k now text =>
    refine congrArg Return.reply ?_
    show ((g.connections.get? k).bind fun cp =>
      ((g.recorder.mapRecords f).receive store' cp now text).1) = _
    simp only [Recorder.receive_mapRecords h]
  | _ => rfl

theorem perform_mapRecords (h : store'.Follows store f) (g : Gateway σ) (act : Act) :
    (g.mapRecords f).perform store' act = (g.perform store act).mapRecords f := by
  cases act with
  | read k now text => exact read_mapRecords h g k now text
  | disconnect k => exact disconnect_mapRecords g k
  | _ => rfl

theorem play_mapRecords (h : store'.Follows store f) (g : Gateway σ) (acts : List Act) :
    (g.mapRecords f).play store' acts = (g.play store acts).mapRecords f := by
  induction acts generalizing g with
  | nil => rfl
  | cons act rest ih =>
    show ((g.mapRecords f).perform store' act).play store' rest =
      ((g.perform store act).play store rest).mapRecords f
    rw [perform_mapRecords h, ih]

end Gateway

/-! ## The main result -/

/-- Two systems that differ in nothing but their stores. -/
structure Recorder.Alike (store : RecordStore σ) (store' : RecordStore τ) (r : Recorder σ)
    (r' : Recorder τ) : Prop where
  central : r.central = r'.central
  returns : ∀ e, r.returns store e = r'.returns store' e

/-- Two gateways that differ in nothing but their stores. -/
structure Gateway.Alike (store : RecordStore σ) (store' : RecordStore τ) (g : Gateway σ)
    (g' : Gateway τ) : Prop where
  central : g.recorder.central = g'.recorder.central
  connections : g.connections = g'.connections
  returns : ∀ act, g.returns store act = g'.returns store' act

theorem Recorder.alike_of_mapRecords {r : Recorder σ} {r' : Recorder τ}
    (h : r.mapRecords (fun _ => ()) = r'.mapRecords fun _ => ()) : r.Alike store store' r' where
  central := congrArg Recorder.central h
  returns e := by
    rw [← returns_mapRecords store.follows_discarding, h,
      returns_mapRecords store'.follows_discarding]

theorem Gateway.alike_of_mapRecords {g : Gateway σ} {g' : Gateway τ}
    (h : g.mapRecords (fun _ => ()) = g'.mapRecords fun _ => ()) : g.Alike store store' g' where
  central := congrArg (fun g => g.recorder.central) h
  connections := congrArg Gateway.connections h
  returns act := by
    rw [← returns_mapRecords store.follows_discarding, h,
      returns_mapRecords store'.follows_discarding]

/-- Systems that begin alike are alike after every run. -/
theorem Recorder.run_alike (c : Central) (records : σ) (records' : τ) (events : List Event) :
    (run store ⟨c, records⟩ events).Alike store store' (run store' ⟨c, records'⟩ events) := by
  refine alike_of_mapRecords ?_
  rw [← run_mapRecords store.follows_discarding, ← run_mapRecords store'.follows_discarding]
  rfl

theorem Gateway.play_alike (c : Central) (connections : Table UInt64 String) (records : σ)
    (records' : τ) (acts : List Act) :
    (play store ⟨⟨c, records⟩, connections⟩ acts).Alike store store'
      (play store' ⟨⟨c, records'⟩, connections⟩ acts) := by
  refine alike_of_mapRecords ?_
  rw [← play_mapRecords store.follows_discarding, ← play_mapRecords store'.follows_discarding]
  rfl

/-- Whatever two stores do with the records that they are given, and whether or not they can keep
them: after every run the central system and the open connections are the same, whatever is done
next brings back the same, and the records that were given to the stores are the same, in the same
order. Writing these down changes nothing, so they are the records of the run itself. -/
theorem records_unread (store : RecordStore σ) (store' : RecordStore τ) (records : σ)
    (records' : τ) (c : Central) (connections : Table UInt64 String) :
    (∀ events : List Event,
      let r := Recorder.run store ⟨c, records⟩ events
      let r' := Recorder.run store' ⟨c, records'⟩ events
      let logged := Recorder.run store.logged ⟨c, records, []⟩ events
      let logged' := Recorder.run store'.logged ⟨c, records', []⟩ events
      r.Alike store store' r' ∧
      logged.mapRecords Prod.fst = r ∧ logged'.mapRecords Prod.fst = r' ∧
      logged.records.2 = logged'.records.2) ∧
    ∀ acts : List Act,
      let g := Gateway.play store ⟨⟨c, records⟩, connections⟩ acts
      let g' := Gateway.play store' ⟨⟨c, records'⟩, connections⟩ acts
      let logged := Gateway.play store.logged ⟨⟨c, records, []⟩, connections⟩ acts
      let logged' := Gateway.play store'.logged ⟨⟨c, records', []⟩, connections⟩ acts
      g.Alike store store' g' ∧
      logged.mapRecords Prod.fst = g ∧ logged'.mapRecords Prod.fst = g' ∧
      logged.recorder.records.2 = logged'.recorder.records.2 := by
  constructor
  · intro events r r' logged logged'
    -- either log is what a plain list holds in the place of the store
    have hlog := (Recorder.run_mapRecords store.listing_follows_logged ⟨c, records, []⟩ events).symm
    have hlog' :=
      (Recorder.run_mapRecords store'.listing_follows_logged ⟨c, records', []⟩ events).symm
    exact ⟨Recorder.run_alike c records records' events,
      (Recorder.run_mapRecords store.follows_logged ⟨c, records, []⟩ events).symm,
      (Recorder.run_mapRecords store'.follows_logged ⟨c, records', []⟩ events).symm,
      congrArg Recorder.records (hlog.trans hlog'.symm)⟩
  · intro acts g g' logged logged'
    have hlog := (Gateway.play_mapRecords store.listing_follows_logged
      ⟨⟨c, records, []⟩, connections⟩ acts).symm
    have hlog' := (Gateway.play_mapRecords store'.listing_follows_logged
      ⟨⟨c, records', []⟩, connections⟩ acts).symm
    exact ⟨Gateway.play_alike c connections records records' acts,
      (Gateway.play_mapRecords store.follows_logged ⟨⟨c, records, []⟩, connections⟩ acts).symm,
      (Gateway.play_mapRecords store'.follows_logged ⟨⟨c, records', []⟩, connections⟩ acts).symm,
      congrArg (fun g => g.recorder.records) (hlog.trans hlog'.symm)⟩

end HomeEnergy.Charging
