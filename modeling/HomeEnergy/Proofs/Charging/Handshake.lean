import HomeEnergy.Charging.Gateway
import HomeEnergy.Proofs.Charging.Links
import HomeEnergy.Proofs.Text.Numerals

/-!
Asking to connect. Which paths name a charge point (`Endpoint.Names`) and when the protocol that is
spoken here has been offered (`Endpoint.Offers`) is said without reading a path or a list; what the
gateway does with a request to connect is then said of both (`handshake_unambiguous`).
-/

namespace HomeEnergy.Charging

namespace Endpoint

/-! ## Paths -/

/-- The texts that charge points may have as their ids. -/
structure IsId (id : List Char) : Prop where
  nonempty : id ≠ []
  notVersion : id ≠ "1.6".toList
  noSlash : '/' ∉ id

/-- A path names a charge point: its id stands at the end, with or without the version before it. -/
structure Names (path id : List Char) : Prop where
  isId : IsId id
  spelled : path = "/ocpp/".toList ++ id ∨ path = "/ocpp/1.6/".toList ++ id

/-- Paths that are the same but for the version. -/
inductive SameButVersion : List Char → List Char → Prop where
  | same {path : List Char} : SameButVersion path path
  | added {rest : List Char} :
      SameButVersion ("/ocpp/".toList ++ rest) ("/ocpp/1.6/".toList ++ rest)
  | dropped {rest : List Char} :
      SameButVersion ("/ocpp/1.6/".toList ++ rest) ("/ocpp/".toList ++ rest)

theorem isId_iff {id : List Char} : IsId id ↔ ¬ (id = [] ∨ id = version ∨ '/' ∈ id) := by
  rw [not_or, not_or]
  constructor
  · rintro ⟨hnonempty, hversion, hslash⟩
    exact ⟨hnonempty, hversion, hslash⟩
  · rintro ⟨hnonempty, hversion, hslash⟩
    exact ⟨hnonempty, hversion, hslash⟩

theorem ite_eq_some_iff_isId {id id' : List Char} :
    (if id = [] ∨ id = version ∨ '/' ∈ id then none else some id) = some id' ↔
      IsId id' ∧ id = id' := by
  rw [Option.ite_none_left_eq_some, ← isId_iff, Option.some_inj]
  exact and_congr_left fun h => by rw [h]

/-- After the root comes the id, or the version and the id. -/
theorem chargePointId?_root_append {rest id : List Char} :
    chargePointId? (root ++ rest) = some id ↔
      IsId id ∧ (rest = id ∨ rest = version ++ ['/'] ++ id) := by
  unfold chargePointId?
  rw [Text.dropLeading?_eq_some_iff.2 rfl]
  simp only [ite_eq_some_iff_isId]
  refine and_congr_right fun hid => ?_
  cases hrest : Text.dropLeading? (version ++ ['/']) rest with
  | none =>
    have hne : rest ≠ version ++ ['/'] ++ id := fun h => by
      rw [Text.dropLeading?_eq_some_iff.2 h] at hrest
      cases hrest
    exact (or_iff_left hne).symm
  | some id' =>
    -- what begins with the version and a slash is no id itself
    rw [Text.dropLeading?_eq_some_iff] at hrest
    have hne : rest ≠ id := by
      rintro rfl
      exact hid.noSlash (by simp [hrest])
    rw [or_iff_right hne, hrest, List.append_cancel_left_eq, Option.getD_some]

theorem chargePointId?_eq_some_iff {path id : List Char} :
    chargePointId? path = some id ↔ Names path id := by
  have hversioned : "/ocpp/1.6/".toList ++ id = root ++ (version ++ ['/'] ++ id) := rfl
  constructor
  · intro h
    obtain ⟨rest, hroot⟩ : ∃ rest, Text.dropLeading? root path = some rest := by
      refine Option.ne_none_iff_exists'.1 fun hnone => ?_
      rw [chargePointId?, hnone] at h
      cases h
    obtain rfl := Text.dropLeading?_eq_some_iff.1 hroot
    obtain ⟨hid, rfl | rfl⟩ := chargePointId?_root_append.1 h
    · exact ⟨hid, .inl rfl⟩
    · exact ⟨hid, .inr hversioned.symm⟩
  · rintro ⟨hid, rfl | rfl⟩
    · exact chargePointId?_root_append.2 ⟨hid, .inl rfl⟩
    · exact hversioned ▸ chargePointId?_root_append.2 ⟨hid, .inr rfl⟩

example : chargePointId? "/ocpp/1.6/1.6".toList = none := by decide

theorem Names.sameButVersion {path path' id : List Char} (h : Names path id)
    (h' : Names path' id) : SameButVersion path path' := by
  obtain ⟨-, rfl | rfl⟩ := h <;> obtain ⟨-, rfl | rfl⟩ := h'
  · exact .same
  · exact .added
  · exact .dropped
  · exact .same

/-! ## Protocols -/

/-- A list with commas in between has a token, which may have white space around it. -/
inductive Lists : List Char → List Char → Prop where
  | item {items : List (List Char)} {before token after : List Char}
      (hcomma : ∀ item ∈ items, ',' ∉ item) (hmem : before ++ (token ++ after) ∈ items)
      (hbefore : ∀ c ∈ before, Text.isBlank c) (hafter : ∀ c ∈ after, Text.isBlank c) :
      Lists ([','].intercalate items) token

/-- A client offers the protocol that is spoken here: it sends a list that has it, and nothing in
the list but tabs and printable ASCII. -/
inductive Offers : Option String → Prop where
  | list {list : String} (hreadable : ∀ c ∈ list.toList, c = '\t' ∨ ' ' ≤ c ∧ c ≤ '~')
      (hlisted : Lists list.toList "ocpp1.6".toList) : Offers (some list)

theorem parts_eq_splitOn (list : List Char) : parts list = list.splitOn ',' := by
  induction list with
  | nil => rfl
  | cons c rest ih =>
    obtain ⟨p, ps, hps⟩ := List.exists_cons_of_ne_nil (List.splitOn_ne_nil ',' rest)
    rw [parts, ih, hps, List.splitOn_cons_eq_if_modifyHead, hps]
    simp

theorem comma_notMem_of_mem_parts {list part : List Char} (h : part ∈ parts list) :
    ',' ∉ part := by
  induction list generalizing part with
  | nil =>
    obtain rfl := List.mem_singleton.1 h
    exact List.not_mem_nil
  | cons c rest ih =>
    obtain ⟨p, ps, hps⟩ : ∃ p ps, parts rest = p :: ps :=
      List.exists_cons_of_ne_nil (parts_eq_splitOn rest ▸ List.splitOn_ne_nil ',' rest)
    rw [hps] at ih
    rw [parts, hps] at h
    split at h
    · rcases List.mem_cons.1 h with rfl | hmem
      · exact List.not_mem_nil
      · exact ih hmem
    · next hc =>
      rcases List.mem_cons.1 h with rfl | hmem
      · exact List.not_mem_cons_of_ne_of_not_mem (Ne.symm hc) (ih List.mem_cons_self)
      · exact ih (List.mem_cons_of_mem p hmem)

theorem protocol_not_isBlank : ∀ c ∈ protocol.toList, ¬ Text.isBlank c := by
  simp [protocol, Text.isBlank]

theorem isOffered_iff {list : List Char} :
    isOffered list = true ↔ Lists list protocol.toList := by
  unfold isOffered
  rw [List.any_eq_true]
  simp only [decide_eq_true_iff]
  constructor
  · rintro ⟨part, hpart, htrim⟩
    obtain ⟨before, after, hsplit, hbefore, hafter⟩ := Text.exists_trim part
    have hjoined : [','].intercalate (parts list) = list := by
      rw [parts_eq_splitOn, List.intercalate_splitOn]
    rw [htrim] at hsplit
    rw [← hjoined]
    exact .item (fun _ => comma_notMem_of_mem_parts) (hsplit ▸ hpart) hbefore hafter
  · rintro @⟨items, before, -, after, hcomma, hmem, hbefore, hafter⟩
    rw [parts_eq_splitOn, List.splitOn_intercalate ',' hcomma (List.ne_nil_of_mem hmem)]
    exact ⟨_, hmem, Text.trim_append hbefore protocol_not_isBlank hafter⟩

theorem isReadable_iff {list : List Char} :
    isReadable list = true ↔ ∀ c ∈ list, c = '\t' ∨ ' ' ≤ c ∧ c ≤ '~' := by
  simp [isReadable]

theorem offers_iff {list : String} :
    Offers (some list) ↔ isReadable list.toList ∧ isOffered list.toList := by
  rw [isReadable_iff, isOffered_iff]
  constructor
  · rintro ⟨hreadable, hlisted⟩
    exact ⟨hreadable, hlisted⟩
  · rintro ⟨hreadable, hlisted⟩
    exact .list hreadable hlisted

/-! ## Answers -/

/-- A charge point that is named is let in, and the protocol is chosen exactly if it is offered. -/
theorem answer_of_names {path id : List Char} (h : Names path id) (offer : Option String) :
    answer path offer = .accepted (String.ofList id) (some "ocpp1.6") ∧ Offers offer ∨
      answer path offer = .accepted (String.ofList id) none ∧ ¬ Offers offer := by
  unfold answer
  rw [chargePointId?_eq_some_iff.2 h]
  cases offer with
  | none => exact .inr ⟨rfl, nofun⟩
  | some list =>
    rw [offers_iff]
    by_cases hoffered : isReadable list.toList ∧ isOffered list.toList
    · exact .inl ⟨by simp only [if_pos hoffered]; rfl, hoffered⟩
    · exact .inr ⟨by simp only [if_neg hoffered], hoffered⟩

theorem answer_of_not_names {path : List Char} (h : ∀ id, ¬ Names path id)
    (offer : Option String) :
    answer path offer = .notFound ("No OCPP endpoint at " ++ String.ofList path) := by
  have hnone : chargePointId? path = none :=
    Option.eq_none_iff_forall_ne_some.2 fun id hid => h id (chargePointId?_eq_some_iff.1 hid)
  unfold answer
  rw [hnone]

/-- Paths that name the same charge point are answered alike. -/
theorem answer_eq_of_names {path path' id : List Char} (h : Names path id)
    (h' : Names path' id) (offer : Option String) : answer path offer = answer path' offer := by
  unfold answer
  rw [chargePointId?_eq_some_iff.2 h, chargePointId?_eq_some_iff.2 h']

end Endpoint

/-! ## Requests to connect -/

namespace Gateway

variable {σ : Type}

open Endpoint (IsId Names Offers SameButVersion)

/-- A request to connect is granted to a charge point. It is told the protocol if it has offered
that, and gets the next connection and a new session under it; all other charge points keep what
they have. -/
structure Grants (g : Gateway σ) (chargePointId : String) (offer : Option String)
    (now : Timestamp) (outcome : Endpoint.Answer × Option UInt64 × Gateway σ) : Prop where
  answer : outcome.1 = .accepted chargePointId (some "ocpp1.6") ∧ Offers offer ∨
    outcome.1 = .accepted chargePointId none ∧ ¬ Offers offer
  connection : outcome.2.1 = some g.recorder.central.nextConnectionId
  bound : ∀ id, outcome.2.2.connections.get? id =
    if id = g.recorder.central.nextConnectionId then some chargePointId else g.connections.get? id
  session : ∀ cp, outcome.2.2.recorder.central.session? cp =
    if cp = chargePointId then
      some (.fresh g.recorder.central.nextConnectionId chargePointId now)
    else g.recorder.central.session? cp

theorem handshake_of_accepted (g : Gateway σ) {path : List Char} {offer : Option String}
    {chargePointId : String} {protocol : Option String}
    (h : Endpoint.answer path offer = .accepted chargePointId protocol) (now : Timestamp) :
    g.handshake path offer now =
      (.accepted chargePointId protocol, some (g.connect chargePointId now).1,
        (g.connect chargePointId now).2) := by
  rw [handshake, h]

theorem grants_connect (g : Gateway σ) (chargePointId : String) {offer : Option String}
    {answer : Endpoint.Answer} (now : Timestamp)
    (h : answer = .accepted chargePointId (some "ocpp1.6") ∧ Offers offer ∨
      answer = .accepted chargePointId none ∧ ¬ Offers offer) :
    g.Grants chargePointId offer now
      (answer, some (g.connect chargePointId now).1, (g.connect chargePointId now).2) where
  answer := h
  connection := rfl
  bound _ := Table.get?_put _ _ _ _
  session := g.recorder.central.session?_register chargePointId now

theorem grants_handshake (g : Gateway σ) {path id : List Char} (h : Names path id)
    (offer : Option String) (now : Timestamp) :
    g.Grants (String.ofList id) offer now (g.handshake path offer now) := by
  rcases Endpoint.answer_of_names h offer with ⟨hanswer, hoffers⟩ | ⟨hanswer, hoffers⟩
  · rw [g.handshake_of_accepted hanswer now]
    exact g.grants_connect _ now (.inl ⟨rfl, hoffers⟩)
  · rw [g.handshake_of_accepted hanswer now]
    exact g.grants_connect _ now (.inr ⟨rfl, hoffers⟩)

/-- A request to connect is granted exactly if its path is `/ocpp/` or `/ocpp/1.6/` and an id after
it, and then to the charge point with this id; any other request is refused and changes nothing.
With and without the version a path is as good, and two paths that name the same charge point differ
in nothing else. -/
theorem handshake_unambiguous (g : Gateway σ) (path : List Char) (offer : Option String)
    (now : Timestamp) :
    (∀ id, Endpoint.chargePointId? path = some id ↔ Names path id) ∧
    (∀ id, Names path id → g.Grants (String.ofList id) offer now (g.handshake path offer now)) ∧
    ((∀ id, ¬ Names path id) →
      g.handshake path offer now =
        (.notFound ("No OCPP endpoint at " ++ String.ofList path), none, g) ∧
      (g.handshake path offer now).1.status = 404) ∧
    (∀ id, IsId id → g.handshake ("/ocpp/".toList ++ id) offer now =
      g.handshake ("/ocpp/1.6/".toList ++ id) offer now) ∧
    ∀ path' id, Endpoint.chargePointId? path = some id →
      Endpoint.chargePointId? path' = some id → SameButVersion path path' := by
  refine ⟨fun id => Endpoint.chargePointId?_eq_some_iff, fun id hnames => ?_, fun hnone => ?_,
    fun id hid => ?_, fun path' id h h' => ?_⟩
  · exact g.grants_handshake hnames offer now
  · have hrefused : g.handshake path offer now =
        (.notFound ("No OCPP endpoint at " ++ String.ofList path), none, g) := by
      rw [handshake, Endpoint.answer_of_not_names hnone]
    exact ⟨hrefused, by rw [hrefused, Endpoint.Answer.status]⟩
  · have hanswer := Endpoint.answer_eq_of_names ⟨hid, .inl rfl⟩ ⟨hid, .inr rfl⟩ offer
    unfold handshake
    rw [hanswer]
  · rw [Endpoint.chargePointId?_eq_some_iff] at h h'
    exact h.sameButVersion h'

/-- An id may begin like the version, and the version may not be an id. -/
theorem handshake_unambiguous_versionLike :
    let g : Gateway Unit := .fresh 300 ()
    let now : Timestamp := ⟨0, 0, 0⟩
    let id := "1.6x".toList
    let offer := some "ocpp2.0 ,\tocpp1.6\t"
    (Names "/ocpp/1.6/1.6x".toList id ∧
      g.Grants "1.6x" offer now (g.handshake "/ocpp/1.6/1.6x".toList offer now) ∧
      (g.handshake "/ocpp/1.6/1.6x".toList offer now).1 = .accepted "1.6x" (some "ocpp1.6") ∧
      Offers offer) ∧
    ((∀ id, ¬ Names "/ocpp/1.6/1.6".toList id) ∧
      (g.handshake "/ocpp/1.6/1.6".toList offer now).1.status = 404) ∧
    (IsId id ∧ g.handshake "/ocpp/1.6x".toList offer now =
      g.handshake "/ocpp/1.6/1.6x".toList offer now) ∧
    Endpoint.chargePointId? "/ocpp/1.6/1.6x".toList = some id ∧
    Endpoint.chargePointId? "/ocpp/1.6x".toList = some id ∧
    SameButVersion "/ocpp/1.6/1.6x".toList "/ocpp/1.6x".toList := by
  intro g now id offer
  have hid : IsId id := ⟨by decide, by decide, by decide⟩
  have hversioned : Endpoint.chargePointId? "/ocpp/1.6/1.6x".toList = some id := by decide
  have hbare : Endpoint.chargePointId? "/ocpp/1.6x".toList = some id := by decide
  have hnone : Endpoint.chargePointId? "/ocpp/1.6/1.6".toList = none := by decide
  obtain ⟨hnames, hgranted, -, hequal, hsame⟩ :=
    handshake_unambiguous g "/ocpp/1.6/1.6x".toList offer now
  obtain ⟨hnamesNone, -, hrefused, -⟩ :=
    handshake_unambiguous g "/ocpp/1.6/1.6".toList offer now
  have hnamed : Names "/ocpp/1.6/1.6x".toList id := (hnames id).1 hversioned
  have hunnamed : ∀ id, ¬ Names "/ocpp/1.6/1.6".toList id := fun id h => by
    rw [(hnamesNone id).2 h] at hnone
    cases hnone
  have hgrants := hgranted id hnamed
  have haccepted : (g.handshake "/ocpp/1.6/1.6x".toList offer now).1 =
      .accepted "1.6x" (some "ocpp1.6") := by decide
  have hoffers : Offers offer := by
    rcases hgrants.answer with ⟨-, hoffers⟩ | ⟨hother, -⟩
    · exact hoffers
    · rw [haccepted] at hother
      cases hother
  exact ⟨⟨hnamed, hgrants, haccepted, hoffers⟩, ⟨hunnamed, (hrefused hunnamed).2⟩,
    ⟨hid, hequal id hid⟩, hversioned, hbare, hsame _ id hversioned hbare⟩

/-- A header that is not all tabs and printable ASCII is not read: what is in its list has not been
offered. -/
theorem handshake_offerUnread :
    let list := "ocpp1.6,é"
    Endpoint.Lists list.toList "ocpp1.6".toList ∧
      ((fresh 300 ()).handshake "/ocpp/CP1".toList (some list) ⟨0, 0, 0⟩).1 =
        .accepted "CP1" none := by
  intro list
  have hlist : list.toList = [','].intercalate ["ocpp1.6".toList, "é".toList] := by decide
  have hlisted : Endpoint.Lists list.toList "ocpp1.6".toList := by
    rw [hlist]
    exact .item (by decide) List.mem_cons_self (List.forall_mem_nil _) (List.forall_mem_nil _)
  exact ⟨hlisted, by decide⟩

end Gateway

end HomeEnergy.Charging
