import HomeEnergy.Control.KeepAlive
import HomeEnergy.Proofs.Control.Written
import HomeEnergy.Proofs.Shutdown.Waking

/-!
One charger for two users: whoever sets its current and reads its power, and the task that gives it
signs of life. Both go through the same client, which carries out one request after another, so a
session that breaks under one of them is missing to the other.

`Shared` is the charger together with the task and the signal that ends it, and each act is a single
step of one of them. What a request may write is said once and for all in
`Request.written_carryOut`, whatever the device does; the rest is a matter of who makes which
request (`Act.request?`). The task does not look at what its signs come to, so the device has no say
in how it goes on (`Shared.task_play`), and the signal alone ends it (`Shared.Sound`).
-/

namespace HomeEnergy.Control

open Bus (Fault Line Word)
open Device

variable {τ ω : Type}

/-! ## Requests -/

/-- What a user of the charger can ask for. -/
inductive Request where
  | update
  | setMaxCurrent (c : Current)
  | keepAlive
deriving DecidableEq

/-- What a device was asked to write. -/
def Attached.written {κ ρ : Type} (a : Attached κ (Nat × τ) (ω × Bus.Journal) ρ) :
    List (UInt16 × List Word) := a.world.2.writes

namespace Request

/-- Carries out a request. -/
def carryOut (line : Line τ ω) :
    Request → Attached ChargerRegisters τ ω Power →
      Except Fault Unit × Attached ChargerRegisters τ ω Power
  | .update => (Attached.source (Charger.power line)).update
  | .setMaxCurrent c => Attached.perform (Charger.setMaxCurrent line c)
  | .keepAlive => Attached.perform (Charger.keepAlive line)

/-- What a request writes, if it writes anything. -/
def write? (r : ChargerRegisters) : Request → Option (UInt16 × List Word)
  | .update => none
  | .setMaxCurrent c => some (r.maxCurrent, [Charger.wordOfCurrent c])
  | .keepAlive => some (r.keepAlive, [1])

section

variable (line : Line τ ω) (q : Request)

/-- The journal is not noticed. -/
theorem carryOut_plain (a : Attached ChargerRegisters (Nat × τ) (ω × Bus.Journal) Power) :
    q.carryOut line a.plain =
      ((q.carryOut line.journaled a).1, (q.carryOut line.journaled a).2.plain) := by
  cases q with
  | update => exact Attached.update_plain (Charger.mirrors_power line) a
  | setMaxCurrent c => exact Attached.perform_plain (Charger.mirrors_setMaxCurrent line c) a
  | keepAlive => exact Attached.perform_plain (Charger.mirrors_keepAlive line) a

theorem registers_carryOut (a : Attached ChargerRegisters τ ω Power) :
    (q.carryOut line a).2.adapter.registers = a.adapter.registers := by
  cases q with
  | update => exact (Attached.update_eq_perform (Charger.power line) a).2.2.1
  | setMaxCurrent c => rfl
  | keepAlive => rfl

/-- Only an update that goes well brings another reading. -/
theorem reading_carryOut (a : Attached ChargerRegisters τ ω Power) :
    (q.carryOut line a).2.adapter.reading = a.adapter.reading ∨
      q = .update ∧ (q.carryOut line a).1.isOk := by
  cases q with
  | update =>
    obtain ⟨-, -, -, hreading⟩ := Attached.update_eq_perform (Charger.power line) a
    exact hreading.imp_right fun hok => ⟨rfl, hok⟩
  | setMaxCurrent c => exact .inl rfl
  | keepAlive => exact .inl rfl

/-- Whatever the device does, it is asked for the write of the request and for no other one, and for
this at most twice. A request that goes well has asked for it. -/
theorem written_carryOut (a : Attached ChargerRegisters (Nat × τ) (ω × Bus.Journal) Power) :
    ∃ k ≤ 2, ((q.carryOut line.journaled a).1.isOk → 0 < k) ∧
      (q.carryOut line.journaled a).2.written =
        a.written ++ (q.write? a.adapter.registers).toList.flatMap (List.replicate k) := by
  unfold Attached.written
  cases q with
  | update =>
    obtain ⟨hok, hworld, -⟩ := Attached.update_eq_perform (Charger.power line.journaled) a
    obtain ⟨k, hk, hpos, hwrites⟩ := a.writes_perform (Charger.asks_power line _)
    rw [← hok] at hpos
    exact ⟨k, hk, hpos, (congrArg (·.2.writes) hworld).trans hwrites⟩
  | setMaxCurrent c => exact a.writes_perform (Charger.asks_setMaxCurrent line c _)
  | keepAlive => exact a.writes_perform (Charger.asks_keepAlive line _)

variable {line q} {a : Attached ChargerRegisters (Nat × τ) (ω × Bus.Journal) Power}
  {register : UInt16}

/-- A request that goes well leaves its word in the register it writes to. -/
theorem lastWord?_of_isOk {word : Word}
    (hwrite : q.write? a.adapter.registers = some (register, [word]))
    (hok : (q.carryOut line.journaled a).1.isOk) :
    (q.carryOut line.journaled a).2.world.2.lastWord? register = some word := by
  obtain ⟨k, -, hpos, hwritten⟩ := q.written_carryOut line a
  have hword : Bus.Journal.wordFor? register (register, [word]) = some word := by
    rw [Bus.Journal.wordFor?_single, if_pos rfl]
  rw [Bus.Journal.lastWord?_of_writes hwritten, hwrite, Option.toList_some,
    List.flatMap_singleton, List.filterMap_replicate_of_some hword, List.getLast?_replicate,
    if_neg (hpos hok).ne', Option.some_or]

/-- A request that does not write to a register leaves it alone. -/
theorem lastWord?_of_unwritten
    (hwrite : ∀ write ∈ q.write? a.adapter.registers, Bus.Journal.wordFor? register write = none) :
    (q.carryOut line.journaled a).2.world.2.lastWord? register =
      a.world.2.lastWord? register := by
  obtain ⟨k, -, -, hwritten⟩ := q.written_carryOut line a
  rw [Bus.Journal.lastWord?_of_writes hwritten]
  cases hw : q.write? a.adapter.registers with
  | none => rfl
  | some write =>
    rw [Option.toList_some, List.flatMap_singleton,
      List.filterMap_replicate_of_none (hwrite write hw)]
    rfl

end

end Request

/-! ## Shared chargers -/

/-- How far the task has come. It waits for the timer and for the signal at the same time. A tick
makes it forget the signal until it has given its sign; after that it begins to wait again. -/
inductive Phase where
  | waiting (v : Shutdown.Waiting)
  | due
  | ended
deriving DecidableEq

/-- The phase of a task that waits for the signal. When it is released it is at its end. -/
def Phase.ofWaiting : Shutdown.Waiting → Phase
  | .released => .ended
  | v => .waiting v

theorem Phase.ofWaiting_ne_due (v : Shutdown.Waiting) : Phase.ofWaiting v ≠ .due := by
  cases v <;> nofun

/-- A charger, the task that gives it signs of life, and all who have to do with the signal
besides the task. -/
structure Shared (τ ω : Type) where
  charger : Attached ChargerRegisters τ ω Power
  task : Phase
  signal : Shutdown.Scene

namespace Shared

/-- A single step: someone makes a request, the timer ticks, the task gives a sign of life or goes a
step further in its waiting for the signal, or something happens to the signal. -/
inductive Act where
  | ask (q : Request)
  | tick
  | sign
  | look
  | elsewhere (a : Shutdown.Act)

namespace Act

variable (task : Phase) (signal : Shutdown.Scene)

/-- The request that is made in an act. -/
def request? : Act → Option Request
  | .ask q => some q
  | .sign => if task = .due then some .keepAlive else none
  | .tick | .look | .elsewhere _ => none

/-- The phase of the task after an act. -/
def phase (a : Act) : Phase :=
  match task, a with
  | .waiting _, .tick => .due
  | .waiting v, .look => .ofWaiting (v.advance signal.signal signal.isHeld)
  | .due, .sign => .waiting .arrived
  | task, _ => task

/-- The signal after an act. The task has it, and does not let it go before its end. -/
def scene : Act → Shutdown.Scene
  | .elsewhere a => if a = .letGo ∧ task ≠ .ended then signal else signal.perform a
  | .ask _ | .tick | .sign | .look => signal

theorem request?_eq_some {task : Phase} {a : Act} {q : Request}
    (h : a.request? task = some q) : a = .ask q ∨ (a = .sign ∧ task = .due ∧ q = .keepAlive) := by
  cases a with
  | ask q' => exact .inl (congrArg Act.ask (Option.some.inj h))
  | sign =>
    by_cases hdue : task = .due
    · exact .inr ⟨rfl, hdue, (Option.some.inj ((if_pos hdue).symm.trans h)).symm⟩
    · cases (if_neg hdue).symm.trans h
  | tick | look | elsewhere _ => cases h

end Act

/-- A charger whose task has just been started. -/
def start (charger : Attached ChargerRegisters τ ω Power) : Shared τ ω :=
  ⟨charger, .waiting .arrived, .fresh⟩

/-- What is shared after an act. Nobody looks at what has come of a request. -/
def perform (line : Line τ ω) (s : Shared τ ω) (a : Act) : Shared τ ω where
  charger := match a.request? s.task with
    | some q => (q.carryOut line s.charger).2
    | none => s.charger
  task := a.phase s.task s.signal
  signal := a.scene s.task s.signal

def play (line : Line τ ω) (s : Shared τ ω) (acts : List Act) : Shared τ ω :=
  acts.foldl (perform line) s

section

variable (line : Line τ ω) (s : Shared τ ω)

theorem play_concat (acts : List Act) (a : Act) :
    s.play line (acts ++ [a]) = (s.play line acts).perform line a := by
  unfold play
  rw [List.foldl_append, List.foldl_cons, List.foldl_nil]

theorem play_append (acts later : List Act) :
    s.play line (acts ++ later) = (s.play line acts).play line later := List.foldl_append

/-! ## What becomes of the charger -/

theorem registers_perform (a : Act) :
    (s.perform line a).charger.adapter.registers = s.charger.adapter.registers := by
  unfold perform
  cases a.request? s.task with
  | none => rfl
  | some q => exact q.registers_carryOut line s.charger

theorem registers_play (acts : List Act) :
    (s.play line acts).charger.adapter.registers = s.charger.adapter.registers := by
  induction acts using List.reverseRecOn with
  | nil => rfl
  | append_singleton acts a ih => rw [play_concat, registers_perform, ih]

theorem reading_perform (a : Act) :
    (s.perform line a).charger.adapter.reading = s.charger.adapter.reading ∨
      a = .ask .update ∧ (Request.update.carryOut line s.charger).1.isOk := by
  unfold perform
  cases hq : a.request? s.task with
  | none => exact .inl rfl
  | some q =>
    refine (q.reading_carryOut line s.charger).imp_right ?_
    rintro ⟨rfl, hok⟩
    rcases Act.request?_eq_some hq with rfl | ⟨-, -, hkeepAlive⟩
    · exact ⟨rfl, hok⟩
    · cases hkeepAlive

end

/-! ## What is written -/

section

/-- The same without the journal. -/
def plain (s : Shared (Nat × τ) (ω × Bus.Journal)) : Shared τ ω :=
  ⟨s.charger.plain, s.task, s.signal⟩

/-- What the charger was asked to write. -/
def written (s : Shared (Nat × τ) (ω × Bus.Journal)) : List (UInt16 × List Word) :=
  s.charger.written

/-- The word that the charger was asked last to write to a register. -/
def lastWord? (s : Shared (Nat × τ) (ω × Bus.Journal)) (register : UInt16) : Option Word :=
  s.charger.world.2.lastWord? register

variable (line : Line τ ω) (s : Shared (Nat × τ) (ω × Bus.Journal))

theorem perform_plain (a : Act) :
    s.plain.perform line a = (s.perform line.journaled a).plain := by
  unfold perform plain
  cases a.request? s.task with
  | none => rfl
  | some q =>
    dsimp only
    rw [q.carryOut_plain line s.charger]

theorem play_plain (acts : List Act) :
    s.plain.play line acts = (s.play line.journaled acts).plain := by
  induction acts using List.reverseRecOn with
  | nil => rfl
  | append_singleton acts a ih => rw [play_concat, play_concat, ih, perform_plain]

/-- An act writes what its request does. -/
theorem written_perform (a : Act) :
    ∃ k ≤ 2, (s.perform line.journaled a).written = s.written ++
      ((a.request? s.task).bind (Request.write? s.charger.adapter.registers)).toList.flatMap
        (List.replicate k) := by
  unfold written perform
  cases a.request? s.task with
  | none => exact ⟨0, Nat.zero_le 2, (List.append_nil _).symm⟩
  | some q =>
    obtain ⟨k, hk, -, hwritten⟩ := q.written_carryOut line s.charger
    exact ⟨k, hk, hwritten⟩

variable {s} {r : ChargerRegisters}

/-- Without a request for another current the last word for it stays. -/
theorem lastWord?_perform (hr : s.charger.adapter.registers = r) (hne : r.maxCurrent ≠ r.keepAlive)
    {a : Act} (ha : ∀ c, a ≠ .ask (.setMaxCurrent c)) :
    (s.perform line.journaled a).lastWord? r.maxCurrent = s.lastWord? r.maxCurrent := by
  unfold lastWord? perform
  cases hq : a.request? s.task with
  | none => rfl
  | some q =>
    refine Request.lastWord?_of_unwritten ?_
    rw [hr]
    intro write hwrite
    cases q with
    | update => cases hwrite
    | setMaxCurrent c =>
      rcases Act.request?_eq_some hq with rfl | ⟨-, -, hkeepAlive⟩
      · exact absurd rfl (ha c)
      · cases hkeepAlive
    | keepAlive =>
      cases hwrite
      rw [Bus.Journal.wordFor?_single, if_neg hne]

theorem lastWord?_play (hr : s.charger.adapter.registers = r) (hne : r.maxCurrent ≠ r.keepAlive)
    {acts : List Act} (hacts : ∀ c, .ask (.setMaxCurrent c) ∉ acts) :
    (s.play line.journaled acts).lastWord? r.maxCurrent = s.lastWord? r.maxCurrent := by
  induction acts using List.reverseRecOn with
  | nil => rfl
  | append_singleton acts a ih =>
    have hlast : ∀ c, a ≠ .ask (.setMaxCurrent c) := by
      rintro c rfl
      exact hacts c (List.mem_append_right _ (List.mem_singleton_self _))
    rw [play_concat, lastWord?_perform line ((s.registers_play _ acts).trans hr) hne hlast,
      ih fun c hc => hacts c (List.mem_append_left _ hc)]

/-- A current that was set stays the last word for it until the next one is asked for. -/
theorem lastWord?_of_set (hr : s.charger.adapter.registers = r) (hne : r.maxCurrent ≠ r.keepAlive)
    {c : Current} (hok : ((Request.setMaxCurrent c).carryOut line.journaled s.charger).1.isOk)
    {later : List Act} (hlater : ∀ c', .ask (.setMaxCurrent c') ∉ later) :
    (s.play line.journaled (.ask (.setMaxCurrent c) :: later)).lastWord? r.maxCurrent =
      some (Charger.wordOfCurrent c) := by
  have hset : (s.perform line.journaled (.ask (.setMaxCurrent c))).lastWord? r.maxCurrent =
      some (Charger.wordOfCurrent c) := Request.lastWord?_of_isOk (by rw [hr]; rfl) hok
  exact (lastWord?_play line ((s.registers_perform _ _).trans hr) hne hlater).trans hset

variable (s)

/-- The `n`-th write is asked for in an act that makes the request `q`. -/
def WritesAt (acts : List Act) (n : Nat) (q : Request) : Prop :=
  ∃ earlier a later, acts = earlier ++ a :: later ∧
    a.request? (s.play line.journaled earlier).task = some q ∧
    (s.play line.journaled earlier).written.length ≤ n ∧
    n < (s.play line.journaled (earlier ++ [a])).written.length

variable {line s}

theorem WritesAt.append {acts : List Act} {n : Nat} {q : Request} (h : s.WritesAt line acts n q)
    (a : Act) : s.WritesAt line (acts ++ [a]) n q := by
  obtain ⟨earlier, b, later, rfl, hq, hleast, hmost⟩ := h
  exact ⟨earlier, b, later ++ [a], by simp, hq, hleast, hmost⟩

variable (line s)

/-- Every write of a run is made by a request, and it is the write of that request. -/
theorem exists_of_written {acts : List Act} {n : Nat} (hn : s.written.length ≤ n)
    {entry : UInt16 × List Word} (hentry : (s.play line.journaled acts).written[n]? = some entry) :
    ∃ q, s.WritesAt line acts n q ∧ q.write? s.charger.adapter.registers = some entry := by
  induction acts using List.reverseRecOn with
  | nil => exact absurd (List.getElem?_eq_some_iff.1 hentry).1 (Nat.not_lt.2 hn)
  | append_singleton acts a ih =>
    obtain ⟨k, -, hwritten⟩ := (s.play line.journaled acts).written_perform line a
    have hlast := (List.getElem?_eq_some_iff.1 hentry).1
    rw [play_concat, hwritten, List.getElem?_append] at hentry
    split at hentry
    · obtain ⟨q, hq, hwrite⟩ := ih hentry
      exact ⟨q, hq.append a, hwrite⟩
    · next hpast =>
      -- it was not there before the last act
      obtain ⟨write, hwrite, hmem⟩ := List.mem_flatMap.1 (List.mem_of_getElem? hentry)
      obtain ⟨q, hq, hwrite⟩ := Option.bind_eq_some_iff.1 (Option.mem_toList.1 hwrite)
      cases List.eq_of_mem_replicate hmem
      rw [registers_play] at hwrite
      exact ⟨q, ⟨acts, a, [], rfl, hq, Nat.le_of_not_lt hpast, hlast⟩, hwrite⟩

end

/-! ## How the task goes on -/

/-- What the device does has no part in how the task goes on. -/
theorem task_play {τ' ω' : Type} (line : Line τ ω) (line' : Line τ' ω') {s : Shared τ ω}
    {s' : Shared τ' ω'} (htask : s.task = s'.task) (hsignal : s.signal = s'.signal)
    (acts : List Act) :
    (s.play line acts).task = (s'.play line' acts).task ∧
      (s.play line acts).signal = (s'.play line' acts).signal := by
  induction acts using List.reverseRecOn with
  | nil => exact ⟨htask, hsignal⟩
  | append_singleton acts a ih =>
    obtain ⟨htask, hsignal⟩ := ih
    rw [play_concat, play_concat]
    unfold perform
    rw [htask, hsignal]
    exact ⟨rfl, rfl⟩

namespace Act

/-- Whether the task takes a tick in an act. It does not when it is busy or at its end. -/
def isTick (task : Phase) (a : Act) : Bool :=
  match task, a with
  | .waiting _, .tick => true
  | _, _ => false

/-- Whether the task itself makes a request in an act. -/
def isSign (task : Phase) : Act → Bool
  | .sign => (request? task .sign).isSome
  | .ask _ | .tick | .look | .elsewhere _ => false

/-- A tick makes a sign due, and a sign is given if one is due. -/
theorem isSign_add (task : Phase) (signal : Shutdown.Scene) (a : Act) :
    (if a.isSign task then 1 else 0) + (if a.phase task signal = .due then 1 else 0) =
      (if a.isTick task then 1 else 0) + if task = .due then 1 else 0 := by
  cases task with
  | waiting v =>
    cases a with
    | look =>
      have hnext : look.phase (.waiting v) signal ≠ .due := Phase.ofWaiting_ne_due _
      rw [if_neg hnext]
      rfl
    | ask q | tick | sign | elsewhere a => rfl
  | due => cases a <;> rfl
  | ended => cases a <;> rfl

end Act

/-- How many acts of a run are of a kind that depends on the phase of the task. -/
def countActs (line : Line τ ω) (kind : Phase → Act → Bool) : Shared τ ω → List Act → Nat
  | _, [] => 0
  | s, a :: acts =>
    (if kind s.task a then 1 else 0) + countActs line kind (s.perform line a) acts

/-- The task gives one sign of life for each tick, before it takes the next one. -/
theorem countActs_play (line : Line τ ω) (s : Shared τ ω) (acts : List Act) :
    countActs line Act.isSign s acts + (if (s.play line acts).task = .due then 1 else 0) =
      countActs line Act.isTick s acts + if s.task = .due then 1 else 0 := by
  induction acts generalizing s with
  | nil => rfl
  | cons a acts ih =>
    have hstep : _ + (if (s.perform line a).task = .due then 1 else 0) = _ :=
      a.isSign_add s.task s.signal
    have hrest := ih (s.perform line a)
    unfold countActs
    rw [play, List.foldl_cons, ← play]
    omega

end Shared

/-! ## The signal -/

namespace Phase

/-- What holds of the task: it has the signal until its end, which comes after the flag was
raised. -/
def Sound (signal : Shutdown.Scene) : Phase → Prop
  | .waiting v => Shutdown.Waiter.Sound signal ⟨true, v⟩ ∧ signal.isHeld
  | .due => signal.isHeld
  | .ended => signal.signal.isTriggered

variable {task : Phase} {signal : Shutdown.Scene}

/-- Waiting for the signal ends only after the flag was raised, since the task has the signal. -/
theorem Sound.ofWaiting {v : Shutdown.Waiting} (h : Shutdown.Waiter.Sound signal ⟨true, v⟩)
    (hheld : signal.isHeld) : (Phase.ofWaiting v).Sound signal := by
  cases v with
  | released =>
    rcases h with htriggered | ⟨hnever, -⟩
    · exact htriggered
    · cases hnever
  | arrived | listening l | blocked l => exact ⟨h, hheld⟩

theorem Sound.phase (hsignal : signal.Sound) (h : task.Sound signal) (a : Shared.Act) :
    (a.phase task signal).Sound signal := by
  cases task with
  | waiting v =>
    cases a with
    | tick => exact h.2
    | look => exact .ofWaiting (hsignal.advance_waiter h.1) h.2
    | ask q | sign | elsewhere a => exact h
  | due =>
    cases a with
    | sign => exact ⟨h, h⟩
    | ask q | tick | look | elsewhere a => exact h
  | ended => cases a <;> exact h

/-- What happens to the signal does not mislead the task. -/
theorem Sound.elsewhere (hsignal : signal.Sound) (h : task.Sound signal) (a : Shutdown.Act) :
    let next := (Shared.Act.elsewhere a).scene task signal
    next.Sound ∧ task.Sound next := by
  intro next
  obtain ⟨hheld, htriggered, hannouncements⟩ := signal.perform_later a
  by_cases hgo : a = .letGo ∧ task ≠ .ended
  · rw [show next = signal from if_pos hgo]
    exact ⟨hsignal, h⟩
  · rw [show next = signal.perform a from if_neg hgo]
    refine ⟨hsignal.perform a, ?_⟩
    cases task with
    | waiting v =>
      have hheld := hheld fun ha => hgo ⟨ha, nofun⟩
      exact ⟨h.1.later hheld htriggered hannouncements, hheld.trans h.2⟩
    | due => exact (hheld fun ha => hgo ⟨ha, nofun⟩).trans h
    | ended => exact htriggered h

end Phase

namespace Shared

/-- Nobody is misled about the signal. -/
structure Sound (s : Shared τ ω) : Prop where
  signal : s.signal.Sound
  task : s.task.Sound s.signal

variable {line : Line τ ω} {s : Shared τ ω}

theorem sound_start (charger : Attached ChargerRegisters τ ω Power) : (start charger).Sound :=
  ⟨Shutdown.Scene.sound_fresh, rfl, rfl⟩

theorem Sound.perform (h : s.Sound) (a : Act) : (s.perform line a).Sound := by
  cases a with
  | elsewhere a =>
    obtain ⟨hsignal, htask⟩ := Phase.Sound.elsewhere h.signal h.task a
    have hphase : (Act.elsewhere a).phase s.task s.signal = s.task := by
      cases s.task <;> rfl
    refine ⟨hsignal, ?_⟩
    unfold Shared.perform
    rw [hphase]
    exact htask
  | ask q | tick | sign | look => exact ⟨h.signal, .phase h.signal h.task _⟩

theorem sound_play (line : Line τ ω) (charger : Attached ChargerRegisters τ ω Power)
    (acts : List Act) :
    ((start charger).play line acts).Sound := by
  induction acts using List.reverseRecOn with
  | nil => exact sound_start charger
  | append_singleton acts a ih =>
    rw [play_concat]
    exact ih.perform a

/-! ## The task by itself -/

/-- Ticks with nothing but the signs of life between them. -/
def rounds : Nat → List Act
  | 0 => []
  | n + 1 => .tick :: .sign :: rounds n

theorem ticks_eq_play (line : Line τ ω) (n : Nat) (s : Shared τ ω) {v : Shutdown.Waiting}
    (h : s.task = .waiting v) :
    KeepAlive.ticks line n s.charger = (s.play line (rounds n)).charger := by
  induction n generalizing s v with
  | zero => rfl
  | succ n ih =>
    obtain ⟨charger, task, signal⟩ := s
    cases h
    exact ih ⟨(charger.perform (Charger.keepAlive line)).2, .waiting .arrived, signal⟩ rfl

/-- Time that passes for a running task is as many rounds as there are ticks in it. -/
theorem pass_eq_play (line : Line τ ω) (s : Shared τ ω) {v : Shutdown.Waiting}
    (h : s.task = .waiting v) {task : KeepAlive} (hrunning : task.isRunning) (milliseconds : Nat) :
    (KeepAlive.pass line milliseconds (task, s.charger)).2 =
      (s.play line (rounds (ticksBetween task.interval task.time
        (task.time + milliseconds)))).charger := by
  unfold KeepAlive.pass
  dsimp only
  rw [if_pos hrunning]
  exact ticks_eq_play line _ s h

end Shared

/-! ## The main result -/

/-- A charger on which anyone may read the power, set the current and give signs of life, in any
order and however the device behaves, while the task gives signs of life of its own. What is written
is 1 to the register for signs of life, in a request for a sign, or the current of a request for
one, as far as it fits, to the register for the current. A request makes its write twice at most,
and once at least if it goes well. A current that was set stays the last one written until the next
one is asked for, whatever the task does, and only an update that goes well brings another reading.
The task makes one request for each tick it takes, however its requests go, and it ends only after
the flag was raised. All this is read from a journal that makes no difference to anything else, and
time that passes for the task is such ticks and signs. -/
theorem charger_shared (line : Line τ ω)
    (charger : Attached ChargerRegisters (Nat × τ) (ω × Bus.Journal) Power)
    (h : charger.adapter.registers.maxCurrent ≠ charger.adapter.registers.keepAlive)
    (acts : List Shared.Act) :
    let registers := charger.adapter.registers
    let first := Shared.start charger
    let shared := first.play line.journaled acts
    first.plain.play line acts = shared.plain ∧
    (∀ n entry, charger.written.length ≤ n → shared.written[n]? = some entry →
      ∃ q, first.WritesAt line acts n q ∧
        ((q = .keepAlive ∧ entry = (registers.keepAlive, [1])) ∨
          ∃ c word, q = .setMaxCurrent c ∧ entry = (registers.maxCurrent, [word]) ∧
            word.toNat = min c.amps.toNat 65535)) ∧
    (∀ q : Request, ∃ k ≤ 2, ((q.carryOut line.journaled shared.charger).1.isOk → 0 < k) ∧
      (q.carryOut line.journaled shared.charger).2.written =
        shared.written ++ (q.write? registers).toList.flatMap (List.replicate k)) ∧
    (∀ earlier c later, acts = earlier ++ .ask (.setMaxCurrent c) :: later →
      ((Request.setMaxCurrent c).carryOut line.journaled
        (first.play line.journaled earlier).charger).1.isOk →
      (∀ c', .ask (.setMaxCurrent c') ∉ later) →
      ∃ word, shared.lastWord? registers.maxCurrent = some word ∧
        word.toNat = min c.amps.toNat 65535) ∧
    (∀ a, (shared.perform line.journaled a).charger.adapter.reading ≠
        shared.charger.adapter.reading →
      a = .ask .update ∧ (Request.update.carryOut line.journaled shared.charger).1.isOk) ∧
    Shared.countActs line.journaled Shared.Act.isSign first acts +
        (if shared.task = .due then 1 else 0) =
      Shared.countActs line.journaled Shared.Act.isTick first acts ∧
    (∀ {τ' ω' : Type} (line' : Line τ' ω') (charger' : Attached ChargerRegisters τ' ω' Power),
      ((Shared.start charger').play line' acts).task = shared.task ∧
        ((Shared.start charger').play line' acts).signal = shared.signal) ∧
    (shared.task = .ended → shared.signal.signal.isTriggered) ∧
    ∀ v (task : KeepAlive) milliseconds, shared.task = .waiting v → task.isRunning →
      (KeepAlive.pass line.journaled milliseconds (task, shared.charger)).2 =
        (shared.play line.journaled (Shared.rounds (ticksBetween task.interval task.time
          (task.time + milliseconds)))).charger := by
  intro registers first shared
  refine ⟨first.play_plain line acts, ?_, ?_, ?_, ?_, ?_, ?_, ?_, ?_⟩
  · intro n entry hn hentry
    obtain ⟨q, hq, hwrite⟩ := first.exists_of_written line hn hentry
    refine ⟨q, hq, ?_⟩
    cases q with
    | update => cases hwrite
    | setMaxCurrent c =>
      cases hwrite
      exact .inr ⟨c, _, rfl, rfl, toNat_wordOfCurrent c⟩
    | keepAlive =>
      cases hwrite
      exact .inl ⟨rfl, rfl⟩
  · intro q
    have hregisters : shared.charger.adapter.registers = registers :=
      first.registers_play line.journaled acts
    rw [← hregisters]
    exact q.written_carryOut line shared.charger
  · rintro earlier c later rfl hok hlater
    refine ⟨Charger.wordOfCurrent c, ?_, toNat_wordOfCurrent c⟩
    have hregisters := first.registers_play line.journaled earlier
    rw [show shared = _ from first.play_append line.journaled earlier _]
    exact Shared.lastWord?_of_set line hregisters h hok hlater
  · intro a hne
    exact (shared.reading_perform line.journaled a).resolve_left hne
  · exact Shared.countActs_play line.journaled first acts
  · intro τ' ω' line' charger'
    exact Shared.task_play line' line.journaled rfl rfl acts
  · intro hended
    have hsound : shared.task.Sound shared.signal :=
      (Shared.sound_play line.journaled charger acts).task
    rw [hended] at hsound
    exact hsound
  · intro v task milliseconds hwaiting hrunning
    exact shared.pass_eq_play line.journaled hwaiting hrunning milliseconds

/-- The first call of a session fails, between a tick and the sign that is due. The current that
does not fit is written twice, and stays in its register when the sign has been given. -/
theorem charger_shared_failingOnce :
    let charger : Attached ChargerRegisters (Nat × Unit) (Bus.Simulated × Bus.Journal) Power :=
      .fresh .default ({ misbehaviour := { fail := 1 } }, [])
    let line := Bus.Simulated.line "charger"
    let shared := (Shared.start charger).play line.journaled
      [.tick, .ask (.setMaxCurrent ⟨70000⟩), .sign, .ask .update]
    charger.adapter.registers.maxCurrent ≠ charger.adapter.registers.keepAlive ∧
    shared.written = [(5004, [65535]), (5004, [65535]), (6000, [1])] ∧
    ∃ word, shared.lastWord? 5004 = some word ∧ word.toNat = min 70000 65535 := by
  intro charger line shared
  have hne : charger.adapter.registers.maxCurrent ≠ charger.adapter.registers.keepAlive := by
    decide
  obtain ⟨-, -, -, hset, -⟩ := charger_shared line charger hne
    [.tick, .ask (.setMaxCurrent ⟨70000⟩), .sign, .ask .update]
  refine ⟨hne, by decide +kernel, ?_⟩
  exact hset [.tick] ⟨70000⟩ [.sign, .ask .update] rfl (by decide +kernel) (by simp)

end HomeEnergy.Control
