import HomeEnergy.Proofs.Control.Setpoints
import HomeEnergy.Proofs.Text.Numerals
import HomeEnergy.Server

/-!
Which settings are accepted. The four numbers of the section on energy management are what the
section gives under their keys, or what holds where it has no such key; settings are accepted if the
numbers can be used, and everything that is made of accepted settings is made without a fault.
-/

namespace HomeEnergy.Settings

open Control (CurrentLimits Panel)

/-! ## Numbers in values -/

/-- What number a value gives: a string that of the numeral in it, which may have white space
around it, and an integer itself. Other values give none. -/
inductive Gives : Toml.Value → Nat → Prop where
  | string {s : String} {before numeral after : List Char} {n : Nat}
      (hs : s.toList = before ++ (numeral ++ after)) (hbefore : ∀ c ∈ before, Text.isBlank c)
      (hafter : ∀ c ∈ after, Text.isBlank c) (hnumeral : Text.Numeral numeral n) :
      Gives (.string s) n
  | integer (n : Nat) : Gives (.integer n) n

/-- A float is written with a point, or in letters. -/
theorem exists_mem_float (x : Binary64.Value) : ∃ c ∈ x.text, c ≠ '+' ∧ ¬ c.isDigit := by
  cases x with
  | nan => exact ⟨_, List.mem_cons_self, by decide, by decide⟩
  | number negative magnitude =>
    cases magnitude with
    | infinite => exact ⟨'i', List.mem_append_right _ List.mem_cons_self, by decide, by decide⟩
    | finite s e =>
      refine ⟨'.', List.mem_append_right _ ?_, by decide, by decide⟩
      simp only [Binary64.Decimal.positional]
      split <;> simp

/-- The values that may give a number. -/
def mayGive : Toml.Value → Bool
  | .string _ | .integer _ => true
  | _ => false

theorem Gives.mayGive {v : Toml.Value} {n : Nat} (h : Gives v n) : mayGive v = true := by
  cases h with
  | string | integer => rfl

/-- The text of any other value has a character that no numeral has. -/
theorem exists_mem_text {v : Toml.Value} (h : mayGive v = false) :
    ∃ c ∈ v.text.toList, c ≠ '+' ∧ ¬ c.isDigit := by
  have htable (entries : List (String × List Char)) :
      '\x7b' ∈ Toml.Value.tableText entries := by
    unfold Toml.Value.tableText
    split <;> simp
  unfold Toml.Value.text
  rw [String.toList_ofList]
  cases v with
  | string | integer => cases h
  | float x =>
    simp only [Toml.Value.inline]
    exact exists_mem_float x
  | boolean b => cases b <;> exact ⟨_, List.mem_cons_self, by decide, by decide⟩
  | datetime | table =>
    simp only [Toml.Value.inline]
    exact ⟨_, htable _, by decide, by decide⟩
  | array items =>
    simp only [Toml.Value.inline]
    exact ⟨_, List.mem_cons_self, by decide, by decide⟩

theorem numeral_intText_iff {i : Int} {n : Nat} :
    Text.Numeral (Text.intText i).toList n ↔ i = n := by
  cases i with
  | ofNat m =>
    rw [Text.intText, Text.natText, String.toList_ofList, Text.numeral_digits_iff]
    exact Int.ofNat_inj.symm
  | negSucc m =>
    refine iff_of_false (fun h => ?_) (by omega)
    rw [Text.intText, String.toList_ofList] at h
    exact absurd (h.spelled '-' List.mem_cons_self) (by decide)

/-- The text of a value is a numeral if the value gives a number. -/
theorem numeral_textOf_iff {v : Toml.Value} {n : Nat} :
    Text.Numeral (Energy.textOf v).toList n ↔ Gives v n := by
  cases hgive : mayGive v with
  | false =>
    have htext : Energy.textOf v = v.text := by
      cases v with
      | string => cases hgive
      | integer | float | boolean | datetime | array | table => rfl
    obtain ⟨c, hc, hplus, hdigit⟩ := exists_mem_text hgive
    rw [htext]
    refine iff_of_false (fun h => (h.spelled c hc).elim hplus hdigit) fun h => ?_
    rw [h.mayGive] at hgive
    cases hgive
  | true =>
    cases v with
    | string s =>
      rw [Energy.textOf, Text.trimmed, String.toList_ofList, Text.numeral_trim_iff]
      constructor
      · rintro ⟨before, numeral, after, hs, hbefore, hafter, hnumeral⟩
        exact .string hs hbefore hafter hnumeral
      · rintro ⟨hs, hbefore, hafter, hnumeral⟩
        exact ⟨_, _, _, hs, hbefore, hafter, hnumeral⟩
    | integer i =>
      have htext : (Energy.textOf (.integer i)).toList = (Text.intText i).toList := by
        simp [Energy.textOf, Toml.Value.text, Toml.Value.inline]
      rw [htext, numeral_intText_iff]
      constructor
      · rintro rfl
        exact .integer n
      · rintro ⟨⟩
        rfl
    | float | boolean | datetime | array | table => cases hgive

/-! ## Numbers under keys -/

/-- The number under a key, below 2^64: what the value there gives, or another number where there
is no such key. -/
inductive Energy.GivesUnder (e : Energy) (key : String) (absent : Nat) : Nat → Prop where
  | absent (h : e.entries.get? key = none) : e.GivesUnder key absent absent
  | given {v : Toml.Value} {n : Nat} (h : e.entries.get? key = some v) (hv : Gives v n)
      (hn : n < 2 ^ 64) : e.GivesUnder key absent n

/-- The numbers of the section on energy management. -/
structure Numbers where
  least : Nat
  most : Nat
  interval : Nat
  keepAlive : Nat

/-- The section gives the numbers. -/
structure Energy.Holds (e : Energy) (n : Numbers) : Prop where
  most : e.GivesUnder "maxcurrent" 32 n.most
  least : e.GivesUnder "mincurrent" 6 n.least
  interval : e.GivesUnder "interval" 5 n.interval
  keepAlive : e.GivesUnder "keepalive" 10 n.keepAlive

/-- Currents in order that fit into 32 bits, and times that are not zero. -/
structure Numbers.Usable (n : Numbers) : Prop where
  ordered : n.least ≤ n.most
  bounded : n.most ≤ 2 ^ 32 - 1
  interval : 1 ≤ n.interval
  keepAlive : 1 ≤ n.keepAlive

theorem bind_eq_ok_iff {ε α β : Type} {x : Except ε α} {f : α → Except ε β} {b : β} :
    x >>= f = .ok b ↔ ∃ a, x = .ok a ∧ f a = .ok b :=
  ⟨bind_eq_ok, fun ⟨_, hx, hf⟩ => hx ▸ hf⟩

theorem refuse_eq_ok_iff {ε β : Type} {p : Prop} [Decidable p] {fault : ε} {x : Except ε β}
    {b : β} : (if p then .error fault else x) = .ok b ↔ ¬ p ∧ x = .ok b := by
  split <;> simp [*]

namespace Energy

theorem givesUnder_of_none {e : Energy} {key : String} {absent n : Nat}
    (h : e.entries.get? key = none) : e.GivesUnder key absent n ↔ absent = n := by
  constructor
  · intro hgives
    cases hgives with
    | absent => rfl
    | given hget => rw [h] at hget; cases hget
  · rintro rfl
    exact .absent h

theorem givesUnder_of_some {e : Energy} {key : String} {absent n : Nat} {v : Toml.Value}
    (h : e.entries.get? key = some v) :
    e.GivesUnder key absent n ↔ Gives v n ∧ n < 2 ^ 64 := by
  constructor
  · intro hgives
    cases hgives with
    | absent hget => rw [h] at hget; cases hget
    | given hget hv hn =>
      rw [h] at hget
      cases hget
      exact ⟨hv, hn⟩
  · rintro ⟨hv, hn⟩
    exact .given h hv hn

theorem boundedNat?_textOf {v : Toml.Value} {n : Nat} :
    Text.boundedNat? largestNumber (textOf v).toList = some n ↔ Gives v n ∧ n < 2 ^ 64 := by
  rw [Text.boundedNat?_eq_some_iff, numeral_textOf_iff, largestNumber, UInt64.size]
  exact and_congr_right fun _ => by omega

theorem number_eq_ok_iff {e : Energy} {key : String} {absent n : Nat} :
    e.number key absent = .ok n ↔ e.GivesUnder key absent n := by
  have htext : e.text? [key] = (e.entries.get? key).map textOf := by
    simp only [text?, List.findSome?]
    cases e.entries.get? key <;> rfl
  unfold number
  rw [htext]
  cases hget : e.entries.get? key with
  | none =>
    rw [givesUnder_of_none hget]
    simp
  | some v =>
    rw [givesUnder_of_some hget, ← boundedNat?_textOf]
    simp only [Option.map_some]
    cases Text.boundedNat? largestNumber (textOf v).toList with
    | none => simp
    | some read => simp

theorem currentOf_eq_ok_iff {amps : Nat} {c : Current} :
    currentOf amps = .ok c ↔ c.amps.toNat = amps := by
  refine ⟨currentOf_eq_ok, ?_⟩
  rintro rfl
  rw [currentOf, if_pos c.amps.toNat_lt, UInt32.ofNat_toNat]

theorem limits_eq_ok_iff {e : Energy} {l : CurrentLimits} :
    e.limits = .ok l ↔ e.GivesUnder "maxcurrent" 32 l.most.amps.toNat ∧
      e.GivesUnder "mincurrent" 6 l.least.amps.toNat ∧ l.Ordered := by
  unfold limits
  simp only [bind_eq_ok_iff, number_eq_ok_iff, refuse_eq_ok_iff, currentOf_eq_ok_iff]
  constructor
  · rintro ⟨_, hmost, _, hleast, hordered, least, rfl, most, rfl, h⟩
    cases h
    exact ⟨hmost, hleast, Nat.le_of_not_lt hordered⟩
  · rintro ⟨hmost, hleast, hordered⟩
    exact ⟨_, hmost, _, hleast, Nat.not_lt_of_le hordered, l.least, rfl, l.most, rfl, rfl⟩

theorem seconds_eq_ok_iff {e : Energy} {key : String} {absent n : Nat} :
    e.seconds key absent = .ok n ↔ e.GivesUnder key absent n ∧ 1 ≤ n := by
  unfold seconds
  simp only [bind_eq_ok_iff, number_eq_ok_iff, refuse_eq_ok_iff]
  constructor
  · rintro ⟨_, hgives, hzero, h⟩
    cases h
    exact ⟨hgives, Nat.one_le_iff_ne_zero.2 hzero⟩
  · rintro ⟨hgives, hone⟩
    exact ⟨n, hgives, Nat.one_le_iff_ne_zero.1 hone, rfl⟩

theorem loop_eq_ok_iff {e : Energy} {l : Loop} :
    e.loop = .ok l ↔ e.limits = .ok l.limits ∧ e.interval = .ok l.interval := by
  unfold loop
  simp only [bind_eq_ok_iff]
  constructor
  · rintro ⟨_, hlimits, _, hinterval, h⟩
    cases h
    exact ⟨hlimits, hinterval⟩
  · rintro ⟨hlimits, hinterval⟩
    exact ⟨_, hlimits, _, hinterval, rfl⟩

end Energy

/-! ## Checking -/

theorem validate_eq_ok_iff {s : Settings} :
    s.validate = .ok () ↔ (∃ loop, s.energy.loop = .ok loop) ∧
      (∃ seconds, s.energy.keepAlive = .ok seconds) ∧ s.chargePoints.heartbeatInterval ≠ 0 := by
  unfold validate
  simp only [bind_eq_ok_iff, refuse_eq_ok_iff]
  constructor
  · rintro ⟨loop, hloop, seconds, hseconds, hzero, -⟩
    exact ⟨⟨loop, hloop⟩, ⟨seconds, hseconds⟩, hzero⟩
  · rintro ⟨⟨loop, hloop⟩, ⟨seconds, hseconds⟩, hzero⟩
    exact ⟨loop, hloop, seconds, hseconds, hzero, rfl⟩

/-- The limits with the given numbers. -/
def Numbers.limits (n : Numbers) : CurrentLimits := ⟨⟨.ofNat n.least⟩, ⟨.ofNat n.most⟩⟩

theorem Numbers.Usable.toNat_limits {n : Numbers} (h : n.Usable) :
    n.limits.least.amps.toNat = n.least ∧ n.limits.most.amps.toNat = n.most := by
  have hordered := h.ordered
  have hbounded := h.bounded
  exact ⟨UInt32.toNat_ofNat_of_lt' (by rw [UInt32.size]; omega),
    UInt32.toNat_ofNat_of_lt' (by rw [UInt32.size]; omega)⟩

theorem Numbers.Usable.limits_ordered {n : Numbers} (h : n.Usable) : n.limits.Ordered := by
  obtain ⟨hleast, hmost⟩ := h.toNat_limits
  unfold CurrentLimits.Ordered
  rw [UInt32.le_iff_toNat_le, hleast, hmost]
  exact h.ordered

/-- The loop is run with the numbers that are given, if these are limits and an interval. -/
theorem loop_eq_ok_of_usable {e : Energy} {n : Numbers} (hholds : e.Holds n) (h : n.Usable) :
    e.loop = .ok ⟨n.limits, n.interval⟩ ∧ e.keepAlive = .ok n.keepAlive := by
  obtain ⟨hleast, hmost⟩ := h.toNat_limits
  refine ⟨Energy.loop_eq_ok_iff.2 ⟨Energy.limits_eq_ok_iff.2 ⟨?_, ?_, h.limits_ordered⟩, ?_⟩, ?_⟩
  · exact hmost.symm ▸ hholds.most
  · exact hleast.symm ▸ hholds.least
  · exact Energy.seconds_eq_ok_iff.2 ⟨hholds.interval, h.interval⟩
  · exact Energy.seconds_eq_ok_iff.2 ⟨hholds.keepAlive, h.keepAlive⟩

/-- A section that the loop and the signs of life are run with has usable numbers. -/
theorem exists_usable {e : Energy} {loop : Loop} {seconds : Nat} (hloop : e.loop = .ok loop)
    (hseconds : e.keepAlive = .ok seconds) : ∃ n, e.Holds n ∧ n.Usable := by
  obtain ⟨hlimits, hinterval⟩ := Energy.loop_eq_ok_iff.1 hloop
  obtain ⟨hmost, hleast, hordered⟩ := Energy.limits_eq_ok_iff.1 hlimits
  obtain ⟨hinterval, hone⟩ := Energy.seconds_eq_ok_iff.1 hinterval
  obtain ⟨hseconds, hone'⟩ := Energy.seconds_eq_ok_iff.1 hseconds
  have hbounded := loop.limits.most.amps.toNat_lt
  exact ⟨⟨loop.limits.least.amps.toNat, loop.limits.most.amps.toNat, loop.interval, seconds⟩,
    ⟨hmost, hleast, hinterval, hseconds⟩, ⟨hordered, Nat.le_pred_of_lt hbounded, hone, hone'⟩⟩

/-- The section does not give two numbers under one key. -/
theorem Energy.GivesUnder.unique {e : Energy} {key : String} {absent n n' : Nat}
    (h : e.GivesUnder key absent n) (h' : e.GivesUnder key absent n') : n = n' :=
  Except.ok.inj ((Energy.number_eq_ok_iff.2 h).symm.trans (Energy.number_eq_ok_iff.2 h'))

theorem Energy.Holds.unique {e : Energy} {n n' : Numbers} (h : e.Holds n) (h' : e.Holds n') :
    n = n' := by
  cases n
  cases n'
  congr
  · exact h.least.unique h'.least
  · exact h.most.unique h'.most
  · exact h.interval.unique h'.interval
  · exact h.keepAlive.unique h'.keepAlive

end HomeEnergy.Settings

namespace HomeEnergy

open Control (CurrentLimits Panel)

/-! ## Starting -/

namespace Server

variable {γ τ ω : Type}

/-- What may come of starting a server: one that runs with the given numbers, or a fault of the
network that it is to be reached by. -/
inductive Outcome (s : Settings) (n : Settings.Numbers) (manual : Option Current)
    (around : Surroundings γ τ ω) : Except StartFault (Server γ τ ω) → Prop where
  | running {server : Server γ τ ω}
      (hpanel : server.manager.panel =
        manual.elim (.fresh n.limits) fun c => ⟨.manual, n.limits.nearest c, n.limits⟩)
      (hkeepAlive : server.keepAlive = .start (1000 * n.keepAlive))
      (hperiod : 0 < server.keepAlive.interval)
      (hheartbeat : ∀ interval ∈ server.heartbeatInterval?, 0 < interval) :
      Outcome s n manual around (.ok server)
  | noSocketAddress (henabled : s.metrics.enabled)
      (hlisten : ¬ Network.isSocketAddress s.metrics.listen) :
      Outcome s n manual around (.error .noSocketAddress)
  | notListening {reason : String} (henabled : s.chargePoints.enabled)
      (hlisten : around.network.listen s.server.host = .error reason) :
      Outcome s n manual around (.error (.notListening reason))

/-- The panel of a server that starts: the operator's current can be held. -/
theorem panel_started {l : CurrentLimits} (h : l.Ordered) (manual : Option Current) :
    (manual.bind (Panel.fresh l).setManual?).getD (.fresh l) =
      manual.elim (.fresh l) fun c => ⟨.manual, l.nearest c, l⟩ := by
  cases manual with
  | none => rfl
  | some c =>
    have hheld : (Panel.fresh l).setManual? c = some ⟨.manual, l.nearest c, l⟩ := by
      rw [Panel.setManual?, show (Panel.fresh l).limits = l from rfl, CurrentLimits.held?_eq h]
      rfl
    rw [Option.bind_some, hheld]
    rfl

theorem start_outcome {s : Settings} {n : Settings.Numbers} (hvalid : s.validate = .ok ())
    (hholds : s.energy.Holds n) (husable : n.Usable) (manual : Option Current)
    (around : Surroundings γ τ ω) (now : Timestamp) :
    Outcome s n manual around (start s manual around now) := by
  obtain ⟨hloop, hkeepAlive⟩ := Settings.loop_eq_ok_of_usable hholds husable
  obtain ⟨-, -, hheartbeat⟩ := Settings.validate_eq_ok_iff.1 hvalid
  have hpanel := panel_started husable.limits_ordered manual
  have hperiod : 0 < second * n.keepAlive := Nat.mul_pos (by decide) husable.keepAlive
  unfold start
  rw [hvalid, hloop, hkeepAlive]
  simp only [Except.mapError]
  by_cases hmetrics : s.metrics.enabled ∧ !Network.isSocketAddress s.metrics.listen
  · rw [if_pos hmetrics]
    exact .noSocketAddress hmetrics.1 (by simpa using hmetrics.2)
  · rw [if_neg hmetrics]
    by_cases henabled : s.chargePoints.enabled
    · simp only [if_pos henabled]
      cases hlisten : around.network.listen s.server.host with
      | error reason => exact .notListening henabled hlisten
      | ok =>
        refine .running hpanel rfl hperiod fun interval hinterval => ?_
        cases hinterval
        exact UInt32.pos_iff_ne_zero.2 hheartbeat
    · simp only [if_neg henabled]
      exact .running hpanel rfl hperiod nofun

end Server

namespace Settings

/-- What settings with the numbers are good for: the loop and the signs of life are run with these
very numbers, every current can be brought within the limits, and a server starts unless the network
keeps it from that. -/
structure Serves (s : Settings) (n : Numbers) : Prop where
  least : n.limits.least.amps.toNat = n.least
  most : n.limits.most.amps.toNat = n.most
  loop : s.energy.loop = .ok ⟨n.limits, n.interval⟩
  keepAlive : s.energy.keepAlive = .ok n.keepAlive
  clamp : ∀ c : Current, (c.clamp? n.limits.least n.limits.most).isSome
  start : ∀ {γ τ ω : Type} (manual : Option Current) (around : Surroundings γ τ ω)
    (now : Timestamp), Server.Outcome s n manual around (Server.start s manual around now)

/-- Settings are accepted exactly if their numbers can be used, and then nothing that is made of the
numbers fails. -/
theorem validate_accepts_usable (s : Settings) :
    (s.validate = .ok () ↔
      ∃ n, s.energy.Holds n ∧ n.Usable ∧ 1 ≤ s.chargePoints.heartbeatInterval) ∧
    ∀ n, s.energy.Holds n → s.validate = .ok () → n.Usable ∧ s.Serves n := by
  have hone : 1 ≤ s.chargePoints.heartbeatInterval ↔ s.chargePoints.heartbeatInterval ≠ 0 := by
    rw [UInt32.le_iff_toNat_le, ne_eq, ← UInt32.toNat_inj]
    exact Nat.one_le_iff_ne_zero
  have hexists (hvalid : s.validate = .ok ()) : ∃ n, s.energy.Holds n ∧ n.Usable := by
    obtain ⟨⟨loop, hloop⟩, ⟨seconds, hseconds⟩, -⟩ := validate_eq_ok_iff.1 hvalid
    exact exists_usable hloop hseconds
  refine ⟨⟨fun hvalid => ?_, ?_⟩, fun n hholds hvalid => ?_⟩
  · obtain ⟨n, hholds, husable⟩ := hexists hvalid
    exact ⟨n, hholds, husable, hone.2 (validate_eq_ok_iff.1 hvalid).2.2⟩
  · rintro ⟨n, hholds, husable, hheartbeat⟩
    obtain ⟨hloop, hkeepAlive⟩ := loop_eq_ok_of_usable hholds husable
    exact validate_eq_ok_iff.2 ⟨⟨_, hloop⟩, ⟨_, hkeepAlive⟩, hone.1 hheartbeat⟩
  · obtain ⟨n', hholds', husable⟩ := hexists hvalid
    obtain rfl := hholds'.unique hholds
    obtain ⟨hleast, hmost⟩ := husable.toNat_limits
    obtain ⟨hloop, hkeepAlive⟩ := loop_eq_ok_of_usable hholds husable
    have hclamp (c : Current) : (c.clamp? n'.limits.least n'.limits.most).isSome := by
      have hordered : n'.limits.least.amps ≤ n'.limits.most.amps := husable.limits_ordered
      rw [Current.clamp?, if_pos hordered, Option.isSome_some]
    exact ⟨husable, hleast, hmost, hloop, hkeepAlive, hclamp,
      Server.start_outcome hvalid hholds husable⟩

/-- Settings with a number in a padded string, one as an integer, and the others left out. -/
def padded : Settings :=
  { default with energy := ⟨.ofList [("maxcurrent", .string " +16 "), ("interval", .integer 1)]⟩ }

theorem validate_accepts_usable_padded :
    padded.energy.Holds ⟨6, 16, 1, 10⟩ ∧ padded.validate = .ok () ∧
      padded.Serves ⟨6, 16, 1, 10⟩ := by
  have hholds : padded.energy.Holds ⟨6, 16, 1, 10⟩ := {
    most := Energy.number_eq_ok_iff.1 (by rfl)
    least := Energy.number_eq_ok_iff.1 (by rfl)
    interval := Energy.number_eq_ok_iff.1 (by rfl)
    keepAlive := Energy.number_eq_ok_iff.1 (by rfl) }
  have hvalid : padded.validate = .ok () := by rfl
  exact ⟨hholds, hvalid, ((validate_accepts_usable padded).2 _ hholds hvalid).2⟩

end Settings

end HomeEnergy
