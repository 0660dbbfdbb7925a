import HomeEnergy.Ocpp.Frame
import HomeEnergy.Proofs.Json.Canonical
import HomeEnergy.Proofs.Text.Numerals

/-!
The grammar of frames: which JSON values are frames and which frames they are (`Spells`), why every
other value is refused (`Refused`), and what id can be made out in it (`Names`). Frames and ids are
read by it from every text (`parse_grammar`).
-/

namespace HomeEnergy

/-! ## Message types -/

/-- Digits that stand for a number are the digits that are written for it. -/
theorem Json.Number.natural?_eq_some_iff {n : Number} (h : n.WellFormed) {t : Nat} :
    n.natural? = some t ↔ n = .ofNat t := by
  obtain ⟨negative, whole, fraction, exponent⟩ := n
  constructor
  · intro ht
    unfold natural? isWhole at ht
    split at ht
    · next hplain =>
      simp only [Bool.and_eq_true, List.isEmpty_iff, Option.isNone_iff_eq_none,
        Bool.not_eq_true'] at hplain
      obtain ⟨⟨rfl, rfl⟩, rfl⟩ := hplain
      rw [ofNat, ← (Text.natOfDigits?_eq_some_iff.1 ht).eq_digits h.2.2.1]
    · cases ht
  · intro ht
    rw [ht]
    exact Text.natOfDigits?_eq_some_iff.2 (.digits t)

namespace Ocpp.Frame

theorem messageType?_ofNat_eq {t : Nat} (h : t < 2 ^ 64) : messageType? (.ofNat t) = some t := by
  have hle : t ≤ largestMessageType := by
    rw [largestMessageType, UInt64.size]
    omega
  rw [messageType?.eq_def]
  simp only [Json.ofNat]
  rw [(Json.Number.natural?_eq_some_iff (Json.Number.ofNat_wellFormed t)).2 rfl]
  simp only [if_pos hle]

theorem eq_ofNat_of_messageType? {j : Json} (hj : j.Canonical) {t : Nat}
    (h : messageType? j = some t) : j = .ofNat t ∧ t < 2 ^ 64 := by
  unfold messageType? at h
  split at h
  · next n =>
    split at h
    · next t' ht' =>
      split at h
      · next hle =>
        cases h
        rw [largestMessageType, UInt64.size] at hle
        exact ⟨congrArg Json.number ((Json.Number.natural?_eq_some_iff hj).1 ht'), by omega⟩
      · cases h
    · cases h
  · cases h

/-! ## Grammar -/

/-- The text at a place in a frame: that of a string, or a default where something else stands or
nothing at all. -/
inductive TextOr (absent : String) : Option Json → String → Prop where
  | text {s : String} : TextOr absent (some (.string s)) s
  | absent {j : Option Json} (h : ∀ s, j ≠ some (.string s)) : TextOr absent j absent

/-- The values that are frames, each with its frame. A number is told from others by its digits, so
a type is the one digit and nothing else. -/
inductive Spells : Json → Frame → Prop where
  | bareCall {id action : String} :
      Spells (.array [.ofNat 2, .string id, .string action]) (.call id action (.object []))
  | call {id action : String} {members : List (String × Json)} {rest : List Json} :
      Spells (.array (.ofNat 2 :: .string id :: .string action :: .object members :: rest))
        (.call id action (.object members))
  | callResult {id : String} {payload : Json} {rest : List Json} :
      Spells (.array (.ofNat 3 :: .string id :: payload :: rest)) (.callResult id payload)
  | callError {id codeText descriptionText : String} {code details : Json} {rest : List Json}
      (hcode : TextOr "InternalError" (some code) codeText)
      (hdescription : TextOr "" rest[0]? descriptionText)
      (hdetails : details = rest[1]?.getD (.object [])) :
      Spells (.array (.ofNat 4 :: .string id :: code :: rest))
        (.callError id codeText descriptionText details)

/-- The values that are no frames, each with the first rule that it breaks. -/
inductive Refused : Json → Fault → Prop where
  | notAnArray {j : Json} (h : ∀ items, j ≠ .array items) : Refused j .notAnArray
  | missingFields {items : List Json} (h : items.length < 3) :
      Refused (.array items) (.missingFields 3 items.length)
  | messageType {type id third : Json} {rest : List Json}
      (h : ∀ t < 2 ^ 64, type ≠ .ofNat t) :
      Refused (.array (type :: id :: third :: rest)) .invalidMessageType
  | uniqueId {t : Nat} {id third : Json} {rest : List Json} (ht : t < 2 ^ 64)
      (h : ∀ s, id ≠ .string s) :
      Refused (.array (.ofNat t :: id :: third :: rest)) (.fieldMismatch .uniqueId)
  | unknownType {t : Nat} {id : String} {third : Json} {rest : List Json} (ht : t < 2 ^ 64)
      (h : t ≠ 2 ∧ t ≠ 3 ∧ t ≠ 4) :
      Refused (.array (.ofNat t :: .string id :: third :: rest)) (.unknownMessageType t)
  | action {id : String} {action : Json} {rest : List Json} (h : ∀ s, action ≠ .string s) :
      Refused (.array (.ofNat 2 :: .string id :: action :: rest)) (.fieldMismatch .action)
  | payload {id action : String} {payload : Json} {rest : List Json}
      (h : ∀ members, payload ≠ .object members) :
      Refused (.array (.ofNat 2 :: .string id :: .string action :: payload :: rest))
        (.fieldMismatch .payload)

/-- The id that can be made out in a value, frame or not. -/
inductive Names : Json → String → Prop where
  | string {first : Json} {s : String} {rest : List Json} :
      Names (.array (first :: .string s :: rest)) s
  | number {first : Json} {n : Json.Number} {rest : List Json} :
      Names (.array (first :: .number n :: rest)) (String.ofList n.text)
  | unknown {j : Json}
      (hstring : ∀ first s rest, j ≠ .array (first :: .string s :: rest))
      (hnumber : ∀ first n rest, j ≠ .array (first :: .number n :: rest)) : Names j "unknown"

/-- What the grammar says of a value. -/
def Judges (j : Json) : Except Fault Frame → Prop
  | .ok f => Spells j f
  | .error fault => Refused j fault

/-! ## Reading by the grammar -/

theorem textOr_iff {absent s : String} {j : Option Json} :
    TextOr absent j s ↔ (j.bind text?).getD absent = s := by
  constructor
  · intro h
    cases h with
    | text => rfl
    | absent h =>
      cases j with
      | none => rfl
      | some v =>
        cases v with
        | string s => exact absurd rfl (h s)
        | null | bool | number | array | object => rfl
  · rintro rfl
    cases j with
    | none => exact .absent nofun
    | some v =>
      cases v with
      | string s => exact .text
      | null | bool | number | array | object => exact .absent nofun

theorem text?_eq_none_iff {j : Json} : text? j = none ↔ ∀ s, j ≠ .string s := by
  cases j with
  | string s => exact iff_of_false nofun fun h => h s rfl
  | null | bool | number | array | object => exact iff_of_true rfl nofun

theorem eq_string_of_text? {j : Json} {s : String} (h : text? j = some s) : j = .string s := by
  cases j with
  | string s' => exact congrArg Json.string (Option.some.inj h)
  | null | bool | number | array | object => cases h

/-- A request is read by the grammar. -/
theorem judges_callOfFields (id : String) (third : Json) (rest : List Json) :
    Judges (.array (.ofNat 2 :: .string id :: third :: rest)) (callOfFields id third rest) := by
  unfold callOfFields
  cases haction : text? third with
  | none => exact .action (text?_eq_none_iff.1 haction)
  | some action =>
    obtain rfl := eq_string_of_text? haction
    match rest with
    | [] => exact .bareCall
    | payload :: rest =>
      cases payload with
      | object members => exact .call
      | null | bool | number | string | array => exact .payload nofun

theorem judges_ofJson {j : Json} (hj : j.Canonical) : Judges j (ofJson j) := by
  cases j with
  | null | bool | number | string | object => exact .notAnArray nofun
  | array items =>
    match items with
    | [] | [_] | [_, _] => exact .missingFields (by simp)
    | type :: id :: third :: rest =>
      have htype : type.Canonical := Json.canonicalItems_iff.1 hj type List.mem_cons_self
      simp only [ofJson]
      cases ht : messageType? type with
      | none =>
        refine .messageType fun t hlt h => ?_
        rw [h, messageType?_ofNat_eq hlt] at ht
        cases ht
      | some t =>
        obtain ⟨rfl, hlt⟩ := eq_ofNat_of_messageType? htype ht
        simp only
        cases hid : text? id with
        | none => exact .uniqueId hlt (text?_eq_none_iff.1 hid)
        | some s =>
          obtain rfl := eq_string_of_text? hid
          simp only
          split
          · next h => exact h ▸ judges_callOfFields s third rest
          · split
            · next h => exact h ▸ .callResult
            · split
              · next h => exact h ▸ .callError (textOr_iff.2 rfl) (textOr_iff.2 rfl) rfl
              · next h2 h3 h4 => exact .unknownType hlt ⟨h2, h3, h4⟩

theorem ofJson_of_spells {j : Json} {f : Frame} (h : Spells j f) : ofJson j = .ok f := by
  have htype {t : Nat} (h : t < 5) : messageType? (.ofNat t) = some t :=
    messageType?_ofNat_eq (by omega)
  cases h with
  | bareCall | call => simp [ofJson, htype, text?, callOfFields]
  | callResult => simp [ofJson, htype, text?]
  | callError hcode hdescription hdetails =>
    rw [textOr_iff] at hcode hdescription
    subst hcode hdescription hdetails
    simp [ofJson, htype, text?, callErrorOfFields]

theorem ofJson_of_refused {j : Json} (hj : j.Canonical) {fault : Fault} (h : Refused j fault) :
    ofJson j = .error fault := by
  cases h with
  | notAnArray h =>
    cases j with
    | array items => exact absurd rfl (h items)
    | null | bool | number | string | object => rfl
  | @missingFields items h =>
    match items with
    | [] | [_] | [_, _] => rfl
    | _ :: _ :: _ :: rest => exact absurd h (Nat.not_lt_of_le (Nat.le_add_left 3 rest.length))
  | @messageType type id third rest h =>
    have htype : messageType? type = none := by
      cases ht : messageType? type with
      | none => rfl
      | some t =>
        have hcanonical := Json.canonicalItems_iff.1 hj type List.mem_cons_self
        obtain ⟨heq, hlt⟩ := eq_ofNat_of_messageType? hcanonical ht
        exact absurd heq (h t hlt)
    simp only [ofJson, htype]
  | uniqueId ht h => simp only [ofJson, messageType?_ofNat_eq ht, text?_eq_none_iff.2 h]
  | unknownType ht h =>
    simp only [ofJson, messageType?_ofNat_eq ht, text?, if_neg h.1, if_neg h.2.1, if_neg h.2.2]
  | @action id action rest h =>
    have hfields : callOfFields id action rest = .error (.fieldMismatch .action) := by
      simp only [callOfFields, text?_eq_none_iff.2 h]
    simp [ofJson, messageType?_ofNat_eq, text?, hfields]
  | @payload id action payload rest h =>
    have hfields : callOfFields id (.string action) (payload :: rest) =
        .error (.fieldMismatch .payload) := by
      cases payload with
      | object members => exact absurd rfl (h members)
      | null | bool | number | string | array => rfl
    simp [ofJson, messageType?_ofNat_eq, text?, hfields]

/-- Every value is read as the grammar says, and the grammar says one thing of each. -/
theorem ofJson_eq_iff {j : Json} (hj : j.Canonical) {r : Except Fault Frame} :
    ofJson j = r ↔ Judges j r := by
  constructor
  · rintro rfl
    exact judges_ofJson hj
  · intro h
    cases r with
    | ok f => exact ofJson_of_spells h
    | error fault => exact ofJson_of_refused hj h

/-! ## Ids -/

theorem names_iff {j : Json} {id : String} : Names j id ↔ idOfJson j = id := by
  constructor
  · intro h
    cases h with
    | string | number => rfl
    | unknown hstring hnumber =>
      unfold idOfJson
      split
      · exact absurd rfl (hstring _ _ _)
      · exact absurd rfl (hnumber _ _ _)
      · rfl
  · rintro rfl
    unfold idOfJson
    split
    · exact .string
    · exact .number
    · next hstring hnumber => exact .unknown hstring hnumber

/-- The id of a frame is made out in its text. -/
theorem Spells.names {j : Json} {f : Frame} (h : Spells j f) : Names j f.uniqueId := by
  cases h with
  | bareCall | call | callResult | callError => exact .string

/-! ## Texts -/

/-- A text is a frame exactly if it is read as a JSON value that spells one, and it is otherwise
refused for the first rule that it breaks; the id that is made out in it is that of the frame if it
is one. -/
theorem parse_grammar (text : String) :
    (∀ f, parse text = .ok f ↔ ∃ j, Json.parse text = .ok j ∧ Spells j f) ∧
    (∀ fault, parse text = .error fault ↔
      (∃ e, Json.parse text = .error e ∧ fault = .invalidJson e) ∨
        ∃ j, Json.parse text = .ok j ∧ Refused j fault) ∧
    (∀ f, parse text = .ok f → recoverUniqueId text = f.uniqueId) ∧
    ∀ id, recoverUniqueId text = id ↔
      (∃ e, Json.parse text = .error e ∧ id = "unknown") ∨
        ∃ j, Json.parse text = .ok j ∧ Names j id := by
  cases hread : Json.parse text with
  | error e =>
    have hparse : parse text = .error (.invalidJson e) := by rw [parse, hread]
    have hid : recoverUniqueId text = "unknown" := by rw [recoverUniqueId, hread]; rfl
    rw [hparse, hid]
    refine ⟨fun f => ⟨nofun, nofun⟩, fun fault => ⟨?_, ?_⟩, nofun, fun id => ⟨?_, ?_⟩⟩
    · rintro ⟨⟩
      exact .inl ⟨e, rfl, rfl⟩
    · rintro (⟨_, ⟨⟩, rfl⟩ | ⟨_, ⟨⟩, -⟩)
      rfl
    · rintro rfl
      exact .inl ⟨e, rfl, rfl⟩
    · rintro (⟨_, ⟨⟩, rfl⟩ | ⟨_, ⟨⟩, -⟩)
      rfl
  | ok j =>
    have hcanonical : j.Canonical := (Json.parse_proper hread).1
    have hparse : parse text = ofJson j := by rw [parse, hread]
    have hid : recoverUniqueId text = idOfJson j := by rw [recoverUniqueId, hread]
    rw [hparse, hid]
    refine ⟨fun f => ?_, fun fault => ?_, fun f hf => ?_, fun id => ?_⟩
    · rw [ofJson_eq_iff hcanonical]
      simp [Judges]
    · rw [ofJson_eq_iff hcanonical]
      simp [Judges]
    · exact names_iff.1 ((ofJson_eq_iff hcanonical).1 hf).names
    · simpa using names_iff.symm

example : parse "[2.0,\"7\",\"Heartbeat\"]" = .error .invalidMessageType := by cbv

/-- A request without a payload gets the empty object for it. -/
theorem parse_grammar_bareCall :
    let text := "[2,\"7\",\"Heartbeat\"]"
    parse text = .ok (.call "7" "Heartbeat" (.object [])) ∧ recoverUniqueId text = "7" := by
  intro text
  obtain ⟨hframe, -, hid, -⟩ := parse_grammar text
  have hparse : parse text = .ok (.call "7" "Heartbeat" (.object [])) :=
    (hframe _).2 ⟨_, by cbv, .bareCall⟩
  exact ⟨hparse, hid _ hparse⟩

/-- The first character of an array's first item. -/
def opening? (text : String) : Option Char :=
  (text.toList.dropWhile fun c => c == '[' || Json.isSpace c).head?

/-- A text may be a frame without a number at its head: this one begins with an object, in which the
reader of JSON finds one. -/
theorem parse_numberObject :
    let text := "[\x7b\"$serde_json::private::Number\":\"2\"\x7d,\"a\",\"Heartbeat\",\x7b\x7d]"
    opening? text = some '\x7b' ∧ parse text = .ok (.call "a" "Heartbeat" (.object [])) := by
  constructor
  · decide
  · cbv

end Ocpp.Frame

end HomeEnergy
