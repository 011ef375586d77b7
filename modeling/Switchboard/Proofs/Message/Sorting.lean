import Switchboard.Message
import Switchboard.Proofs.Json.Members
import Switchboard.Proofs.Json.Reading

/-!
# What an incoming line is

`Message.parse` against the grammar: a line is a response, a request or a notification exactly when
it holds a record of the supported version with the members that make it one. Every other line is
refused, with the fault of the first check that fails; `Refused` has one case for each fault, and
each case says that the checks before were passed. The members are those that are written, and the
last one under each name counts.
-/

namespace Switchboard.Message

open Switchboard.Json

/-! ### The members that count -/

/-- A line is one record, with blanks around it, and these are its members as they are written,
those of one name included. -/
def Written (line : String) (written : List (String × Value)) : Prop :=
  ∃ before cs after, Blanks before ∧
    Separated (SpellsMember (Spells (maxDepth - 1))) written cs ∧ Blanks after ∧
      line.toList = before ++ ('\x7b' :: (cs ++ ['\x7d']) ++ after)

def lastWritten (written : List (String × Value)) (name : String) : Option Value :=
  Members.get? written.reverse name

def judged : List String := ["jsonrpc", "method", "id", "params", "result", "error"]

/-- A line holds a record of the supported version. -/
structure Envelope (line : String) (written : List (String × Value)) : Prop where
  record : Written line written
  version : lastWritten written "jsonrpc" = some (.string protocolVersion)

/-- The ids of responses: null, and the integers of 64 bits with a sign. -/
inductive ResponseId : Value → Option Int → Prop where
  | null : ResponseId .null none
  | int {i : Int} (low : minInt64 ≤ i) (high : i ≤ maxInt64) :
      ResponseId (.number (.int i)) (some i)

/-- The payloads of responses: a result alone, or an error object alone. -/
inductive ResponsePayload : (result error : Option Value) → Payload → Prop where
  | result (v : Value) : ResponsePayload (some v) none (.result v)
  | error {v : Value} {e : ErrorObject} (decoded : ErrorObject.decoder.ofValue v = .ok e) :
      ResponsePayload none (some v) (.error e)

/-- A line holds a record with an id of a response and without a method. -/
structure Answer (line : String) (written : List (String × Value)) (id : Option Int) : Prop extends
    Envelope line written where
  noMethod : lastWritten written "method" = none
  id : ∃ v, lastWritten written "id" = some v ∧ ResponseId v id

/-- Why a line is refused. The cases are in the order of the checks. -/
inductive Refused (line : String) : MessageFault → Prop where
  | invalidJson {error : Json.Error} (nothing : ∀ v, ¬ Document line v)
      (reported : Value.parse line = .error error) : Refused line (.invalidJson error)
  | notObject {v : Value} (document : Document line v) (other : ∀ ms, v ≠ .object ms) :
      Refused line .notObject
  | unsupportedVersion {ws : List (String × Value)} (record : Written line ws)
      (other : lastWritten ws "jsonrpc" ≠ some (.string protocolVersion)) :
      Refused line (.unsupportedVersion (lastWritten ws "jsonrpc"))
  | invalidMethod {ws : List (String × Value)} {v : Value} (envelope : Envelope line ws)
      (method : lastWritten ws "method" = some v) (other : ∀ s, v ≠ .string s) :
      Refused line .invalidMethod
  | unclassifiable {ws : List (String × Value)} (envelope : Envelope line ws)
      (noMethod : lastWritten ws "method" = none) (noId : lastWritten ws "id" = none) :
      Refused line .unclassifiable
  | invalidId {ws : List (String × Value)} {v : Value} (envelope : Envelope line ws)
      (noMethod : lastWritten ws "method" = none) (id : lastWritten ws "id" = some v)
      (other : ∀ i, ¬ ResponseId v i) : Refused line (.invalidId v)
  | ambiguousPayload {ws : List (String × Value)} {i : Option Int} {r e : Value}
      (answer : Answer line ws i) (result : lastWritten ws "result" = some r)
      (error : lastWritten ws "error" = some e) : Refused line .ambiguousPayload
  | missingPayload {ws : List (String × Value)} {i : Option Int} (answer : Answer line ws i)
      (noResult : lastWritten ws "result" = none) (noError : lastWritten ws "error" = none) :
      Refused line .missingPayload
  | invalidError {ws : List (String × Value)} {i : Option Int} {e : Value} {fault : Fault}
      (answer : Answer line ws i) (noResult : lastWritten ws "result" = none)
      (error : lastWritten ws "error" = some e)
      (decoded : ErrorObject.decoder.ofValue e = .error fault) :
      Refused line (.invalidError fault)

/-- What becomes of a line. -/
inductive Sorted (line : String) : Except MessageFault Message → Prop where
  | response {ws : List (String × Value)} {id : Option Int} {carried : Payload}
      (answer : Answer line ws id)
      (payload : ResponsePayload (lastWritten ws "result") (lastWritten ws "error") carried) :
      Sorted line (.ok (.response id carried))
  | request {ws : List (String × Value)} {id : Value} {method : String}
      (envelope : Envelope line ws) (named : lastWritten ws "method" = some (.string method))
      (answerable : lastWritten ws "id" = some id) : Sorted line (.ok (.request id method))
  | notification {ws : List (String × Value)} {method : String} (envelope : Envelope line ws)
      (named : lastWritten ws "method" = some (.string method)) (noId : lastWritten ws "id" = none) :
      Sorted line (.ok (.notification method (lastWritten ws "params")))
  | refused {fault : MessageFault} (h : Refused line fault) : Sorted line (.error fault)

/-! ### The checks -/

variable {line : String} {ws : List (String × Value)}

theorem parse_of_document {v : Value} (h : Document line v) : parse line = ofValue v := by
  rw [parse, Value.parse_eq_ok_iff.mpr h]

theorem document_object_iff {ms : Members} :
    Document line (.object ms) ↔ ∃ written, Written line written ∧ ms = Members.ofList written := by
  constructor
  · rintro ⟨before, front, after, blanks, spelled, blanks', split⟩
    rcases spelled with scalar | compound
    · cases scalar
    · cases compound with
      | object spelled => exact ⟨_, ⟨before, _, after, blanks, spelled, blanks', split⟩, rfl⟩
  · rintro ⟨written, ⟨before, cs, after, blanks, spelled, blanks', split⟩, rfl⟩
    exact ⟨before, _, after, blanks, .inr (.object spelled), blanks', split⟩

theorem Written.document (h : Written line ws) : Document line (.object (Members.ofList ws)) :=
  document_object_iff.mpr ⟨ws, h, rfl⟩

theorem get?_ofList (ws : List (String × Value)) (name : String) :
    (Members.ofList ws).get? name = lastWritten ws name :=
  Members.get?_ofList ws name

theorem checkVersion_of_ne (h : lastWritten ws "jsonrpc" ≠ some (.string protocolVersion)) :
    checkVersion (Members.ofList ws) =
      .error (.unsupportedVersion (lastWritten ws "jsonrpc")) := by
  unfold checkVersion
  rw [get?_ofList]
  split
  · next v found =>
    rw [if_neg, found]
    rintro rfl
    exact h found
  · rfl

theorem Envelope.parse_eq (h : Envelope line ws) : parse line = ofMembers (Members.ofList ws) := by
  have checked : checkVersion (Members.ofList ws) = .ok () := by
    simp [checkVersion, get?_ofList, h.version]
  rw [parse_of_document h.record.document, ofValue, checked]
  rfl

theorem responseId_of {v : Value} {id : Option Int} (h : ResponseId v id) :
    responseId v = .ok id := by
  cases h with
  | null => rfl
  | int low high => simp [responseId, fitsInt64, low, high]

theorem responseId_of_not {v : Value} (h : ∀ id, ¬ ResponseId v id) :
    responseId v = .error (.invalidId v) := by
  unfold responseId
  split
  · exact absurd .null (h none)
  · next i =>
    rw [if_neg]
    intro fits
    simp only [fitsInt64, Bool.and_eq_true, decide_eq_true_eq] at fits
    exact h (some i) (.int fits.1 fits.2)
  · rfl

theorem Answer.parse_eq {id : Option Int} (h : Answer line ws id) :
    parse line =
      (payload (lastWritten ws "result") (lastWritten ws "error")).map (.response id) := by
  obtain ⟨v, found, valid⟩ := h.id
  simp only [h.toEnvelope.parse_eq, ofMembers, get?_ofList, h.noMethod, found, responseId_of valid]
  rfl

/-! ### Each outcome -/

theorem parse_response {id : Option Int} {carried : Payload} (h : Answer line ws id)
    (h' : ResponsePayload (lastWritten ws "result") (lastWritten ws "error") carried) :
    parse line = .ok (.response id carried) := by
  rw [h.parse_eq]
  generalize lastWritten ws "result" = result, lastWritten ws "error" = error at h'
  cases h' with
  | result v => rfl
  | error decoded => simp [payload, decoded, Except.map]

theorem Refused.parse_eq {fault : MessageFault} (h : Refused line fault) :
    parse line = .error fault := by
  cases h with
  | invalidJson nothing reported => rw [parse, reported]
  | notObject document other =>
    rw [parse_of_document document]
    unfold ofValue
    split
    · next ms => exact absurd rfl (other ms)
    · rfl
  | unsupportedVersion record other =>
    rw [parse_of_document record.document, ofValue, checkVersion_of_ne other]
    rfl
  | @invalidMethod ws v envelope method other =>
    rw [envelope.parse_eq, ofMembers, get?_ofList, method]
    split
    · next s same => exact absurd (Option.some.inj same) (other s)
    · rfl
    · contradiction
  | unclassifiable envelope noMethod noId =>
    simp [envelope.parse_eq, ofMembers, get?_ofList, noMethod, noId]
  | invalidId envelope noMethod id other =>
    simp only [envelope.parse_eq, ofMembers, get?_ofList, noMethod, id, responseId_of_not other]
    rfl
  | ambiguousPayload answer result error =>
    simp [answer.parse_eq, result, error, payload, Except.map]
  | missingPayload answer noResult noError =>
    simp [answer.parse_eq, noResult, noError, payload, Except.map]
  | invalidError answer noResult error decoded =>
    simp [answer.parse_eq, noResult, error, payload, decoded, Except.map]

theorem Sorted.parse_eq {outcome : Except MessageFault Message} (h : Sorted line outcome) :
    parse line = outcome := by
  cases h with
  | response answer payload => exact parse_response answer payload
  | request envelope named answerable =>
    simp [envelope.parse_eq, ofMembers, get?_ofList, named, answerable]
  | notification envelope named noId =>
    simp [envelope.parse_eq, ofMembers, get?_ofList, named, noId]
  | refused h => exact h.parse_eq

/-! ### Every line -/

theorem Answer.exists_sorted {id : Option Int} (h : Answer line ws id) :
    ∃ outcome, Sorted line outcome := by
  have payload {carried : Payload}
      (h' : ResponsePayload (lastWritten ws "result") (lastWritten ws "error") carried) :
      ∃ outcome, Sorted line outcome := ⟨_, .response h h'⟩
  cases hr : lastWritten ws "result" with
  | none =>
    cases he : lastWritten ws "error" with
    | none => exact ⟨_, .refused (.missingPayload h hr he)⟩
    | some v =>
      cases decoded : ErrorObject.decoder.ofValue v with
      | error fault => exact ⟨_, .refused (.invalidError h hr he decoded)⟩
      | ok e => exact payload (by rw [hr, he]; exact .error decoded)
  | some v =>
    cases he : lastWritten ws "error" with
    | none => exact payload (by rw [hr, he]; exact .result v)
    | some e => exact ⟨_, .refused (.ambiguousPayload h hr he)⟩

theorem Envelope.exists_sorted (h : Envelope line ws) : ∃ outcome, Sorted line outcome := by
  cases hm : lastWritten ws "method" with
  | some v =>
    by_cases text : ∃ s, v = .string s
    · obtain ⟨method, rfl⟩ := text
      cases hid : lastWritten ws "id" with
      | none => exact ⟨_, .notification h hm hid⟩
      | some id => exact ⟨_, .request h hm hid⟩
    · exact ⟨_, .refused (.invalidMethod h hm (not_exists.mp text))⟩
  | none =>
    cases hid : lastWritten ws "id" with
    | none => exact ⟨_, .refused (.unclassifiable h hm hid)⟩
    | some v =>
      by_cases valid : ∃ id, ResponseId v id
      · obtain ⟨id, valid⟩ := valid
        exact Answer.exists_sorted ⟨h, hm, v, hid, valid⟩
      · exact ⟨_, .refused (.invalidId h hm hid (not_exists.mp valid))⟩

theorem exists_sorted (line : String) : ∃ outcome, Sorted line outcome := by
  cases read : Value.parse line with
  | error error =>
    refine ⟨_, .refused (.invalidJson (fun v document => ?_) read)⟩
    rw [Value.parse_eq_ok_iff.mpr document] at read
    cases read
  | ok v =>
    have document := Value.parse_eq_ok_iff.mp read
    by_cases record : ∃ ms, v = .object ms
    · obtain ⟨ms, rfl⟩ := record
      obtain ⟨ws, record, rfl⟩ := document_object_iff.mp document
      by_cases version : lastWritten ws "jsonrpc" = some (.string protocolVersion)
      · exact Envelope.exists_sorted ⟨record, version⟩
      · exact ⟨_, .refused (.unsupportedVersion record version)⟩
    · exact ⟨_, .refused (.notObject document (not_exists.mp record))⟩

theorem parse_eq_iff_sorted {outcome : Except MessageFault Message} :
    parse line = outcome ↔ Sorted line outcome := by
  refine ⟨?_, Sorted.parse_eq⟩
  rintro rfl
  obtain ⟨outcome, sorted⟩ := exists_sorted line
  rwa [sorted.parse_eq]

theorem ofValue_congr {ws ws' : List (String × Value)}
    (same : ∀ name ∈ judged, lastWritten ws name = lastWritten ws' name) :
    ofValue (.object (Members.ofList ws)) = ofValue (.object (Members.ofList ws')) := by
  simp only [judged, List.forall_mem_cons] at same
  obtain ⟨version, method, id, params, result, error, -⟩ := same
  simp only [ofValue, checkVersion, ofMembers, get?_ofList, version, method, id, params, result,
    error]

/-- The sorting of lines is exact. A line is a response just when it is one record, the last of its
members under each name counting, of version 2.0, without a method, with an id that is null or an
integer of 64 bits, and with either a result or an error object; a request when it has a method that
is a text, and an id; a notification when it has such a method and no id. What is passed on are the
values of the members. Every other line is refused with the fault of the first check that fails,
and of a record nothing counts but the six members. -/
theorem parse_is_exact (line : String) :
    (∀ id carried, parse line = .ok (.response id carried) ↔
      ∃ ws, Written line ws ∧ lastWritten ws "jsonrpc" = some (.string "2.0") ∧
        lastWritten ws "method" = none ∧
        (∃ v, lastWritten ws "id" = some v ∧ ResponseId v id) ∧
        ResponsePayload (lastWritten ws "result") (lastWritten ws "error") carried) ∧
    (∀ id method, parse line = .ok (.request id method) ↔
      ∃ ws, Written line ws ∧ lastWritten ws "jsonrpc" = some (.string "2.0") ∧
        lastWritten ws "method" = some (.string method) ∧ lastWritten ws "id" = some id) ∧
    (∀ method params, parse line = .ok (.notification method params) ↔
      ∃ ws, Written line ws ∧ lastWritten ws "jsonrpc" = some (.string "2.0") ∧
        lastWritten ws "method" = some (.string method) ∧ lastWritten ws "id" = none ∧
        lastWritten ws "params" = params) ∧
    (∀ fault, parse line = .error fault ↔ Refused line fault) ∧
    (∀ other ws ws', Written line ws → Written other ws' →
      (∀ name ∈ judged, lastWritten ws name = lastWritten ws' name) →
      parse line = parse other) := by
  refine ⟨fun id carried => ?_, fun id method => ?_, fun method params => ?_, fun fault => ?_,
    fun other ws ws' record record' same => ?_⟩
  · rw [parse_eq_iff_sorted]
    constructor
    · rintro ⟨⟨⟨record, version⟩, noMethod, id⟩, payload⟩
      exact ⟨_, record, version, noMethod, id, payload⟩
    · rintro ⟨ws, record, version, noMethod, id, payload⟩
      exact .response ⟨⟨record, version⟩, noMethod, id⟩ payload
  · rw [parse_eq_iff_sorted]
    constructor
    · rintro (_ | ⟨⟨record, version⟩, named, answerable⟩)
      exact ⟨_, record, version, named, answerable⟩
    · rintro ⟨ws, record, version, named, answerable⟩
      exact .request ⟨record, version⟩ named answerable
  · rw [parse_eq_iff_sorted]
    constructor
    · rintro (_ | _ | ⟨⟨record, version⟩, named, noId⟩)
      exact ⟨_, record, version, named, noId, rfl⟩
    · rintro ⟨ws, record, version, named, noId, rfl⟩
      exact .notification ⟨record, version⟩ named noId
  · rw [parse_eq_iff_sorted]
    constructor
    · rintro ⟨⟩
      assumption
    · exact .refused
  · rw [parse_of_document record.document, parse_of_document record'.document,
      ofValue_congr same]

/-- Of two ids the last one counts, and a member of another name does not. -/
example :
    parse "\x7b\"id\":1,\"jsonrpc\":\"2.0\", \"note\":[],\"id\":2,\"result\":null\x7d" =
      .ok (.response (some 2) (.result .null)) := by rfl

end Switchboard.Message
