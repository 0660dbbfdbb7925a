import HomeEnergy.Ocpp.Frame
import HomeEnergy.Proofs.Json.Canonical
import HomeEnergy.Proofs.Json.Rereading

/-!
Frames and their texts. A frame is read back from its text, whatever its strings and its payload,
except where an object in the payload could be taken for a number (`Json.unreserved`).
-/

namespace HomeEnergy.Ocpp.Frame

open Json (Proper maxDepth)

/-! ## Payloads -/

/-- The payload of a request or answer, or the details of an error report. -/
def content : Frame → Json
  | .call _ _ payload => payload
  | .callResult _ payload => payload
  | .callError _ _ _ details => details

/-- The frame with another payload or other details. -/
def withContent (c : Json) : Frame → Frame
  | .call id action _ => .call id action c
  | .callResult id _ => .callResult id c
  | .callError id code description _ => .callError id code description c

/-- The payload of a request is an object. -/
def PayloadFits (f : Frame) : Prop := f.isCall → ∃ members, f.content = .object members

@[simp] theorem content_withContent (f : Frame) (c : Json) : (f.withContent c).content = c := by
  cases f with
  | call id action payload => rfl
  | callResult id payload => rfl
  | callError id code description details => rfl

@[simp] theorem withContent_content (f : Frame) : f.withContent f.content = f := by
  cases f with
  | call id action payload => rfl
  | callResult id payload => rfl
  | callError id code description details => rfl

/-! ## Frames as values -/

theorem proper_toJson {f : Frame} {levels : Nat} (h : Proper levels f.content) :
    Proper (levels + 1) f.toJson := by
  have hnumber (n : Nat) : Proper levels (.ofNat n) :=
    ⟨Json.Number.ofNat_wellFormed n, Nat.zero_le _⟩
  have hstring (s : String) : Proper levels (.string s) := ⟨trivial, Nat.zero_le _⟩
  cases f with
  | call id action payload =>
    refine Json.proper_array.2 ?_
    simp only [List.forall_mem_cons]
    exact ⟨hnumber 2, hstring id, hstring action, h, nofun⟩
  | callResult id payload =>
    refine Json.proper_array.2 ?_
    simp only [List.forall_mem_cons]
    exact ⟨hnumber 3, hstring id, h, nofun⟩
  | callError id code description details =>
    refine Json.proper_array.2 ?_
    simp only [List.forall_mem_cons]
    exact ⟨hnumber 4, hstring id, hstring code, hstring description, h, nofun⟩

theorem reread_toJson (levels : Nat) (f : Frame) :
    Json.reread (levels + 1) f.toJson =
      (Json.reread levels f.content).map fun c => (f.withContent c).toJson := by
  cases f with
  | call id action payload =>
    simp only [toJson, content, withContent, Json.ofNat, Json.reread, Json.rereadItems]
    cases Json.reread levels payload with
    | none => rfl
    | some c => rfl
  | callResult id payload =>
    simp only [toJson, content, withContent, Json.ofNat, Json.reread, Json.rereadItems]
    cases Json.reread levels payload with
    | none => rfl
    | some c => rfl
  | callError id code description details =>
    simp only [toJson, content, withContent, Json.ofNat, Json.reread, Json.rereadItems]
    cases Json.reread levels details with
    | none => rfl
    | some c => rfl

theorem messageType?_ofNat :
    messageType? (.ofNat 2) = some 2 ∧ messageType? (.ofNat 3) = some 3 ∧
      messageType? (.ofNat 4) = some 4 := by
  decide

theorem ofJson_toJson (f : Frame) :
    ofJson f.toJson = match f with
      | .call id action payload => callOfFields id (.string action) [payload]
      | f => .ok f := by
  obtain ⟨h2, h3, h4⟩ := messageType?_ofNat
  cases f with
  | call id action payload => simp [ofJson, toJson, h2, text?]
  | callResult id payload => simp [ofJson, toJson, h3, text?]
  | callError id code description details => simp [ofJson, toJson, h4, text?, callErrorOfFields]

/-- A frame is read from its value, and no other one is. -/
theorem ofJson_toJson_eq_ok_iff {f g : Frame} :
    ofJson f.toJson = .ok g ↔ g = f ∧ f.PayloadFits := by
  rw [ofJson_toJson]
  cases f with
  | call id action payload =>
    cases payload with
    | object members =>
      have hfits : PayloadFits (.call id action (.object members)) := fun _ => ⟨members, rfl⟩
      simp only [callOfFields, text?, Except.ok.injEq, hfits, and_true]
      exact eq_comm
    | null => simp [callOfFields, text?, PayloadFits, content, isCall]
    | bool b => simp [callOfFields, text?, PayloadFits, content, isCall]
    | number n => simp [callOfFields, text?, PayloadFits, content, isCall]
    | string s => simp [callOfFields, text?, PayloadFits, content, isCall]
    | array items => simp [callOfFields, text?, PayloadFits, content, isCall]
  | callResult id payload => simp [PayloadFits, isCall, eq_comm]
  | callError id code description details => simp [PayloadFits, isCall, eq_comm]

/-! ## Reading back -/

/-- A frame is read back from its text exactly if nothing in it could be taken for a number. -/
theorem parse_serialize_iff {f : Frame} (h : Proper 126 f.content) (hfits : f.PayloadFits) :
    parse f.serialize = .ok f ↔ f.content.unreserved := by
  have hread : (Json.parse f.serialize).toOption =
      (Json.reread 126 f.content).map fun c => (f.withContent c).toJson := by
    rw [← reread_toJson]
    exact Json.toOption_parse_render (proper_toJson h).1
  have hsame : Json.reread 126 f.content = some f.content ↔ f.content.unreserved := by
    rw [Json.reread_eq_some_iff]
    exact and_iff_right h.2
  rw [← hsame]
  unfold parse
  constructor
  -- the frame that is read has the payload that is read, so they are the same together
  · intro hparse
    split at hparse
    · cases hparse
    · next j hj =>
      rw [hj] at hread
      obtain ⟨c, hc, rfl⟩ := Option.map_eq_some_iff.1 hread.symm
      obtain ⟨heq, -⟩ := ofJson_toJson_eq_ok_iff.1 hparse
      rw [hc, heq, content_withContent]
  · intro hc
    rw [hc, Option.map_some, withContent_content] at hread
    cases hj : Json.parse f.serialize with
    | ok j =>
      rw [hj] at hread
      cases hread
      exact ofJson_toJson_eq_ok_iff.2 ⟨rfl, hfits⟩
    | error fault =>
      rw [hj] at hread
      cases hread

/-! ## Frames that were read -/

theorem proper_emptyObject (levels : Nat) : Proper (levels + 1) (.object []) :=
  Json.proper_object.2 ⟨List.Pairwise.nil, nofun⟩

theorem content_of_callOfFields {levels : Nat} {id : String} {action : Json} {rest : List Json}
    {f : Frame} (hrest : ∀ j ∈ rest, Proper (levels + 1) j)
    (h : callOfFields id action rest = .ok f) :
    Proper (levels + 1) f.content ∧ f.PayloadFits := by
  unfold callOfFields at h
  split at h
  · cases h
  · split at h
    · cases h
      exact ⟨proper_emptyObject levels, fun _ => ⟨[], rfl⟩⟩
    · next members tail =>
      cases h
      exact ⟨hrest _ List.mem_cons_self, fun _ => ⟨members, rfl⟩⟩
    · cases h

theorem content_callErrorOfFields {levels : Nat} {id : String} {code : Json} {rest : List Json}
    (hrest : ∀ j ∈ rest, Proper (levels + 1) j) :
    Proper (levels + 1) (callErrorOfFields id code rest).content := by
  show Proper (levels + 1) ((rest[1]?).getD (.object []))
  cases hdetails : rest[1]? with
  | none => exact proper_emptyObject levels
  | some details => exact hrest details (List.mem_of_getElem? hdetails)

theorem content_of_ofJson {levels : Nat} {j : Json} {f : Frame}
    (hj : Proper (levels + 2) j) (h : ofJson j = .ok f) :
    Proper (levels + 1) f.content ∧ f.PayloadFits := by
  unfold ofJson at h
  split at h
  · split at h
    · next type id third rest =>
      have hitems := Json.proper_array.1 hj
      simp only [List.forall_mem_cons] at hitems
      obtain ⟨-, -, hthird, hrest⟩ := hitems
      split at h
      · cases h
      · split at h
        · cases h
        · split at h
          · exact content_of_callOfFields hrest h
          · split at h
            · cases h
              exact ⟨hthird, nofun⟩
            · split at h
              · cases h
                exact ⟨content_callErrorOfFields hrest, nofun⟩
              · cases h
    · cases h
  · cases h

/-- A frame that is read from a text leaves one level to the array around it. -/
theorem content_of_parse {text : String} {f : Frame} (h : parse text = .ok f) :
    Proper 126 f.content ∧ f.PayloadFits := by
  unfold parse at h
  split at h
  · cases h
  · next j hj => exact content_of_ofJson (Json.parse_proper hj) h

/-- Frames survive their texts, those that were read from some text as well as those that are made
of any strings and a payload of up to 126 levels, except for one thing: a frame with an object whose
first key is that of a number is not read back. -/
theorem parse_serialize :
    (∀ text f, parse text = .ok f → (parse f.serialize = .ok f ↔ f.content.unreserved)) ∧
    ∀ f : Frame, f.content.Canonical → f.content.depth ≤ 126 → f.PayloadFits →
      (parse f.serialize = .ok f ↔ f.content.unreserved) := by
  constructor
  · intro text f h
    obtain ⟨hproper, hfits⟩ := content_of_parse h
    exact parse_serialize_iff hproper hfits
  · exact fun f hcanonical hdepth => parse_serialize_iff ⟨hcanonical, hdepth⟩

/-- A request with a nested payload and escapes, read and written again. -/
theorem parse_serialize_request :
    let f : Frame := .call "a\"\n" "Heartbeat" (.object [("k", .array [.null, .string "\x07"])])
    parse f.serialize = .ok f := by
  intro f
  refine (parse_serialize.2 f ?_ (by decide) fun _ => ⟨_, rfl⟩).2 (by decide)
  simp [f, content, Json.Canonical, Json.CanonicalItems, Json.CanonicalMembers,
    Entries.Increasing]

/-- The text of a frame need not be read as that frame: sorted by their keys, the members of this
payload seem to be a number and more. -/
theorem serialize_unread :
    let text := "[3,\"1\",\x7b\"b\":2,\"$serde_json::private::Number\":\"1\"\x7d]"
    ∃ f, parse text = .ok f ∧ parse f.serialize = .error (.invalidJson .trailingComma) := by
  let payload : Json := .object [("$serde_json::private::Number", .string "1"), ("b", .ofNat 2)]
  refine ⟨.callResult "1" payload, ?_, ?_⟩
  · cbv
  · cbv

end HomeEnergy.Ocpp.Frame
