import Switchboard.Proofs.Json.Decoding
import Switchboard.Proofs.Message.Sorting

/-!
# Error objects

Which documents are taken for an error object: records with a code and a message (`Named`), and
lists of these (`Listed`), `ofValue_eq_ok_iff`. What was written is read again but for data of null,
which is none (`received`): from the document, where the members are in order, from its text, where
they stand as they were written, and as the error member of a response.
-/

namespace Switchboard.ErrorObject

open Switchboard.Json

/-- Data as it is read: null is the same as none. -/
def kept : Option Value → Option Value
  | some .null => none
  | data => data

/-- A record with a code, an integer of 64 bits, and a message, a text. Its data is any document or
missing, and other members do not count. -/
inductive Named : Value → ErrorObject → Prop where
  | members {ms : Members} {code : Int} {message : String}
      (coded : ms.get? "code" = some (.number (.int code))) (fits : fitsInt64 code)
      (worded : ms.get? "message" = some (.string message)) :
      Named (.object ms) { code, message, data := kept (ms.get? "data") }

/-- The same as a list without names: the code, the message and at most one further item. -/
inductive Listed : Value → ErrorObject → Prop where
  | items {code : Int} {message : String} {others : List Value} (fits : fitsInt64 code)
      (few : others.length ≤ 1) :
      Listed (.array (.number (.int code) :: .string message :: others))
        { code, message, data := kept others.head? }

def fields : List (Json.Field ErrorObject) :=
  [.needed "code" .int64 fun code e => { e with code },
   .needed "message" .string fun message e => { e with message },
   .optional "data" (.option .value) fun data e => { e with data }]

def unread : ErrorObject := { code := 0, message := "", data := none }

theorem int64_eq_ok_iff {v : Value} {i : Int} :
    Decoder.int64.ofValue v = .ok i ↔ v = .number (.int i) ∧ fitsInt64 i := by
  simp [Decoder.int64, Decoder.integer_eq_ok_iff, fitsInt64]

theorem optionValue_eq (v : Value) : (Decoder.option .value).ofValue v = .ok (kept (some v)) := by
  cases v <;> rfl

/-! ### Records -/

section Members

variable {seen : List String} (v : Value) (ms : Members) (r : ErrorObject)

theorem find_code :
    fields.find? (·.name == "code") = some (.needed "code" .int64 fun code e => { e with code }) :=
  rfl

theorem find_message :
    fields.find? (·.name == "message") =
      some (.needed "message" .string fun message e => { e with message }) := rfl

theorem find_data :
    fields.find? (·.name == "data") =
      some (.optional "data" (.option .value) fun data e => { e with data }) := rfl

theorem read_data (new : "data" ∉ seen) :
    Decoder.membersOfValue fields seen (("data", v) :: ms) r =
      Decoder.membersOfValue fields ("data" :: seen) ms { r with data := kept (some v) } := by
  rw [Decoder.membersOfValue_cons find_data new, optionValue_eq]
  rfl

end Members

theorem read_members_eq_ok_iff (v w : Value) (d : Option Value) {e : ErrorObject} :
    Decoder.membersOfValue fields []
        (("code", v) :: ((d.map ("data", ·)).toList ++ [("message", w)])) unread = .ok e ↔
      ∃ code message, v = .number (.int code) ∧ fitsInt64 code ∧ w = .string message ∧
        e = { code, message, data := kept d } := by
  have behind (code : Int) :
      Decoder.membersOfValue fields ["code"] ((d.map ("data", ·)).toList ++ [("message", w)])
          { unread with code } =
        Decoder.string.ofValue w >>= fun message => .ok { code, message, data := kept d } := by
    cases d with
    | none =>
      rw [Option.map_none, Option.toList_none, List.nil_append,
        Decoder.membersOfValue_cons find_message (by decide)]
      rfl
    | some d =>
      rw [Option.map_some, Option.toList_some, List.singleton_append, read_data _ _ _ (by decide),
        Decoder.membersOfValue_cons find_message (by decide)]
      rfl
  rw [Decoder.membersOfValue_cons find_code (by decide), Decoder.then_eq_ok]
  simp only [behind, Decoder.then_eq_ok, int64_eq_ok_iff, Decoder.text_eq_ok_iff, Decoder.string,
    Except.ok.injEq]
  constructor
  · rintro ⟨code, ⟨rfl, fits⟩, message, rfl, rfl⟩
    exact ⟨code, message, rfl, fits, rfl, rfl⟩
  · rintro ⟨code, message, rfl, fits, rfl, rfl⟩
    exact ⟨code, ⟨rfl, fits⟩, message, rfl, rfl⟩

theorem ofValue_object_eq_ok_iff {ms : Members} (h : ms.Ascending) {e : ErrorObject} :
    decoder.ofValue (.object ms) = .ok e ↔ Named (.object ms) e := by
  have asFields : decoder.ofValue (.object ms) = Decoder.membersOfValue fields [] ms unread := rfl
  have sorted : ["code", "data", "message"].Pairwise (· < ·) := by decide
  have perm : (fields.map Json.Field.name).Perm ["code", "data", "message"] := by decide
  have inOrder := Decoder.membersOfValue_of_ascending h sorted perm unread
  have split {v w : Value} (code : ms.get? "code" = some v) (message : ms.get? "message" = some w) :
      decoder.ofValue (.object ms) = Decoder.membersOfValue fields []
        (("code", v) :: (((ms.get? "data").map ("data", ·)).toList ++ [("message", w)]))
        unread := by
    rw [asFields, inOrder]
    cases data : ms.get? "data" <;> simp [code, message, data]
  constructor
  · intro decoded
    have needed {f : Json.Field ErrorObject} (hf : f ∈ fields) (required : f.required) :
        ∃ v, ms.get? f.name = some v :=
      h.exists_get? ((Decoder.mem_of_required decoded hf required).resolve_left List.not_mem_nil)
    obtain ⟨v, code⟩ := needed List.mem_cons_self rfl
    obtain ⟨w, message⟩ := needed (List.mem_cons_of_mem _ List.mem_cons_self) rfl
    obtain ⟨c, m, rfl, fits, rfl, rfl⟩ :=
      (read_members_eq_ok_iff v w _).mp ((split code message).symm.trans decoded)
    exact .members code fits message
  · rintro ⟨code, fits, message⟩
    rw [split code message]
    exact (read_members_eq_ok_iff _ _ _).mpr ⟨_, _, rfl, fits, rfl, rfl⟩

/-! ### Lists -/

theorem read_others_eq_ok_iff {length : Nat} {code : Int} {message : String}
    {others : List Value} {e : ErrorObject} :
    Decoder.itemsOfValue "struct JsonRpcError" 3 length 2 (fields.drop 2) others
        { code, message, data := none } = .ok e ↔
      others.length ≤ 1 ∧ e = { code, message, data := kept others.head? } := by
  cases others with
  | nil => exact ⟨fun read => ⟨by simp, (Except.ok.inj read).symm⟩, fun h => congrArg _ h.2.symm⟩
  | cons d others =>
    have read : Decoder.itemsOfValue "struct JsonRpcError" 3 length 2 (fields.drop 2) (d :: others)
        { code, message, data := none } =
          Decoder.itemsOfValue "struct JsonRpcError" 3 length 3 [] others
            { code, message, data := kept (some d) } := by
      refine (Decoder.itemsOfValue_cons _ 3 length 2 d others _).trans ?_
      rw [optionValue_eq]
      rfl
    rw [read]
    cases others with
    | nil => simp [Decoder.itemsOfValue, Decoder.tooFew, Json.Field.firstRequired?, eq_comm]
    | cons d' others => simp [Decoder.itemsOfValue]

theorem ofValue_array_eq_ok_iff {items : List Value} {e : ErrorObject} :
    decoder.ofValue (.array items) = .ok e ↔ Listed (.array items) e := by
  match items with
  | [] =>
    constructor
    · intro read
      cases read
    · rintro ⟨⟩
  | [v] =>
    have read : decoder.ofValue (.array [v]) =
        Decoder.int64.ofValue v >>= fun _ =>
          .error (.wrongLength 1 "struct JsonRpcError with 3 elements") :=
      Decoder.itemsOfValue_cons _ 3 1 0 v [] unread
    constructor
    · rw [read, Decoder.then_eq_ok]
      rintro ⟨-, -, ⟨⟩⟩
    · rintro ⟨⟩
  | v :: w :: others =>
    have read : decoder.ofValue (.array (v :: w :: others)) =
        Decoder.int64.ofValue v >>= fun code => Decoder.string.ofValue w >>= fun message =>
          Decoder.itemsOfValue "struct JsonRpcError" 3 (others.length + 2) 2 (fields.drop 2) others
            { code, message, data := none } := by
      refine (Decoder.itemsOfValue_cons _ 3 _ 0 v (w :: others) unread).trans ?_
      exact bind_congr fun code => Decoder.itemsOfValue_cons _ 3 _ 1 w others { unread with code }
    rw [read]
    simp only [Decoder.then_eq_ok, int64_eq_ok_iff, Decoder.text_eq_ok_iff, Decoder.string,
      read_others_eq_ok_iff]
    constructor
    · rintro ⟨code, ⟨rfl, fits⟩, message, rfl, few, rfl⟩
      exact .items fits few
    · rintro ⟨fits, few⟩
      exact ⟨_, ⟨rfl, fits⟩, _, rfl, few, rfl⟩

/-- What is taken for an error object: of all documents, these records and these lists. -/
theorem ofValue_eq_ok_iff {v : Value} (h : v.Ordered) {e : ErrorObject} :
    decoder.ofValue v = .ok e ↔ Named v e ∨ Listed v e := by
  cases v with
  | object ms =>
    cases h with
    | object ascending inner =>
      have notListed : ¬ Listed (.object ms) e := by rintro ⟨⟩
      rw [ofValue_object_eq_ok_iff ascending, or_iff_left notListed]
  | array items =>
    have notNamed : ¬ Named (.array items) e := by rintro ⟨⟩
    rw [ofValue_array_eq_ok_iff, or_iff_right notNamed]
  | _ =>
    constructor
    · intro read
      cases read
    · rintro (named | listed)
      · cases named
      · cases listed

/-! ### Reading what was written -/

/-- What is left of an error object that is written and read again: data of null is lost. -/
def received (e : ErrorObject) : ErrorObject := { e with data := kept (e.data.map Value.ordered) }

def members (e : ErrorObject) : List (String × Value) :=
  [("code", .number (.int e.code)), ("message", .string e.message)] ++
    match e.data with
    | some v => [("data", v)]
    | none => []

theorem document_eq (e : ErrorObject) : e.document = .object e.members := rfl

/-- An error object that can be read again: its code fits 64 bits, and its data, if there is any,
nests up to a depth and has no numbers but integers that fit 64 bits. -/
structure Readable (e : ErrorObject) (depth : Nat) : Prop where
  code : fitsInt64 e.code
  numbers : ∀ d ∈ e.data, ∀ n ∈ d.numbers, n.Exact
  nested : ∀ d ∈ e.data, d.depth ≤ depth

theorem kept_of_ne_null {data : Option Value} (h : data ≠ some .null) : kept data = data := by
  unfold kept
  split
  · exact absurd rfl h
  · rfl

theorem kept_ne_null (data : Option Value) : kept data ≠ some .null := by
  unfold kept
  split
  · simp
  · next other => exact fun h => other h

theorem received_eq_iff {e : ErrorObject} (h : ∀ d ∈ e.data, d.Ordered) :
    e.received = e ↔ e.data ≠ some .null := by
  have same : e.data.map Value.ordered = e.data := by
    cases data : e.data with
    | none => rfl
    | some d => rw [Option.map_some, (h d data).ordered_eq]
  constructor
  · intro lossless null
    have data := congrArg ErrorObject.data lossless
    exact kept_ne_null _ (data.trans null)
  · intro notNull
    rw [received, same, kept_of_ne_null notNull]

variable {e : ErrorObject} {depth : Nat}

theorem forall_members {P : String × Value → Prop} (code : P ("code", .number (.int e.code)))
    (message : P ("message", .string e.message)) (data : ∀ d ∈ e.data, P ("data", d)) :
    ∀ m ∈ e.members, P m := by
  intro m hm
  rcases List.mem_append.mp hm with hm | hm
  · simp only [List.mem_cons, List.not_mem_nil, or_false] at hm
    obtain rfl | rfl := hm
    · exact code
    · exact message
  · split at hm
    · next d found =>
      obtain rfl := List.mem_singleton.mp hm
      exact data d found
    · cases hm

theorem exact_of_fitsInt64 {i : Int} (h : fitsInt64 i) {n : Number}
    (hn : n ∈ (Value.number (.int i)).numbers) : n.Exact := by
  have fits : minInt64 ≤ i ∧ i ≤ maxInt64 := by simpa [fitsInt64] using h
  obtain rfl : n = .int i := by simpa [Value.numbers, Value.fold] using hn
  exact ⟨i, rfl, fits.1, fits.2.trans (by decide)⟩

theorem numbers_document (h : e.Readable depth) : ∀ n ∈ e.document.numbers, n.Exact := by
  intro n hn
  obtain ⟨m, hm, hn⟩ := Value.mem_numbers_object.mp hn
  refine forall_members (P := fun m => n ∈ m.2.numbers → n.Exact) (fun hn => ?_) (fun hn => ?_)
    (fun d hd hn => h.numbers d hd n hn) m hm hn
  · exact exact_of_fitsInt64 h.code hn
  · cases hn

theorem depth_document (h : e.Readable depth) : e.document.depth ≤ depth + 1 :=
  Value.depth_object_le.mpr
    (forall_members (P := fun m => m.2.depth ≤ depth) (Nat.zero_le _) (Nat.zero_le _) h.nested)

theorem ofValue_document (fits : fitsInt64 e.code) :
    decoder.ofValue e.document.ordered = .ok e.received := by
  rw [document_eq, Value.ordered_object, ofValue_object_eq_ok_iff (Members.ofList_ascending _)]
  obtain ⟨code, message, data⟩ := e
  have alone (code message : Value) :
      Members.ofList [("code", code), ("message", message)] =
        [("code", code), ("message", message)] := rfl
  have placed (code data message : Value) :
      Members.ofList [("code", code), ("message", message), ("data", data)] =
        [("code", code), ("data", data), ("message", message)] := rfl
  cases data with
  | none =>
    simp only [members, List.append_nil, List.map_cons, List.map_nil, alone]
    exact .members rfl fits rfl
  | some d =>
    simp only [members, List.cons_append, List.nil_append, List.map_cons, List.map_nil, placed]
    exact .members rfl fits rfl

theorem faithful_fields : ∀ f ∈ fields, f.set.Faithful := by
  simp only [fields, List.forall_mem_cons]
  exact ⟨(Decoder.faithful_integer _ _ _).map _, (Decoder.faithful_text _).map _,
    Decoder.faithful_value.option.map _, List.forall_mem_nil _⟩

theorem parse_render (h : e.Readable 126) : decoder.parse e.document.render = .ok e.received := by
  have names : ∀ m ∈ e.members, m.1 ∈ fields.map Json.Field.name :=
    forall_members (P := fun m => m.1 ∈ fields.map Json.Field.name) List.mem_cons_self
      (List.mem_cons_of_mem _ List.mem_cons_self)
      fun _ _ => List.mem_cons_of_mem _ (List.mem_cons_of_mem _ List.mem_cons_self)
  refine Decoder.record_parse_render _ (fun _ _ f hf _ => faithful_fields f hf _)
    (numbers_document h) (depth_document h) names ?_
  have coded := int64_eq_ok_iff.mpr ⟨rfl, h.code⟩
  obtain ⟨code, message, data⟩ := e
  have read (ms : Members) :
      Decoder.membersOfValue fields []
          (("code", .number (.int code)) :: ("message", .string message) :: ms) unread =
        Decoder.membersOfValue fields ["message", "code"] ms { code, message, data := none } := by
    rw [Decoder.membersOfValue_cons find_code (by decide), coded]
    exact Decoder.membersOfValue_cons find_message (show "message" ∉ ["code"] by decide)
      (.string message) ms { unread with code }
  cases data with
  | none => exact read []
  | some d => exact (read [("data", d.ordered)]).trans (read_data _ _ _ (by decide))

/-! ### Answers -/

def answer (e : ErrorObject) (id : Int) : Value :=
  .object [("jsonrpc", .string protocolVersion), ("id", .number (.int id)), ("error", e.document)]

variable {id : Int}

theorem document_answer (h : e.Readable 125) (fits : fitsInt64 id) :
    Document (e.answer id).render (e.answer id).ordered := by
  refine document_render (fun n hn => ?_) (Value.depth_object_le.mpr fun m hm => ?_)
  · obtain ⟨m, hm, hn⟩ := Value.mem_numbers_object.mp hn
    simp only [List.mem_cons, List.not_mem_nil, or_false] at hm
    obtain rfl | rfl | rfl := hm
    · cases hn
    · exact exact_of_fitsInt64 fits hn
    · exact numbers_document h n hn
  · simp only [List.mem_cons, List.not_mem_nil, or_false] at hm
    obtain rfl | rfl | rfl := hm
    · exact Nat.zero_le _
    · exact Nat.zero_le _
    · exact depth_document h

theorem parse_of_answer {line : String} (h : Document line (e.answer id).ordered)
    (fits : fitsInt64 id) (code : fitsInt64 e.code) :
    Message.parse line = .ok (.response (some id) (.error e.received)) := by
  have placed (version id error : Value) :
      Members.ofList [("jsonrpc", version), ("id", id), ("error", error)] =
        [("error", error), ("id", id), ("jsonrpc", version)] := rfl
  have inOrder : (e.answer id).ordered =
      .object [("error", e.document.ordered), ("id", .number (.int id)),
        ("jsonrpc", .string protocolVersion)] := by
    rw [answer, Value.ordered_object]
    simp only [List.map_cons, List.map_nil, placed]
    rfl
  have numbered : Message.responseId (.number (.int id)) = .ok (some id) := if_pos fits
  have carried :
      Message.payload none (some e.document.ordered) = .ok (.error e.received) := by
    simp only [Message.payload, ofValue_document code]
  rw [Message.parse_of_document h, inOrder]
  calc Message.ofValue _
      = (do
          let id ← Message.responseId (.number (.int id))
          let payload ← Message.payload none (some e.document.ordered)
          .ok (.response id payload)) := rfl
    _ = .ok (.response (some id) (.error e.received)) := by
        rw [numbered, carried]
        rfl

end Switchboard.ErrorObject

/-! ### Error members of lines -/

namespace Switchboard.Message

open Switchboard.Json

variable {line : String} {ws : List (String × Value)} {id : Option Int} {v : Value}

theorem Written.ordered_of_lastWritten (h : Written line ws) {name : String}
    (found : lastWritten ws name = some v) : v.Ordered := by
  rw [← get?_ofList, (Members.ofList_ascending ws).get?_eq_some_iff] at found
  cases h.document.ordered with
  | object _ inner => exact inner _ found

theorem exists_written {ms : Members} (read : Value.parse line = .ok (.object ms)) :
    ∃ ws, Written line ws ∧ ∀ name, lastWritten ws name = ms.get? name := by
  obtain ⟨ws, record, rfl⟩ := document_object_iff.mp (Value.parse_eq_ok_iff.mp read)
  exact ⟨ws, record, fun name => (get?_ofList ws name).symm⟩

/-- A response fails a call if its error member is of one of the two shapes. -/
theorem parse_eq_error_iff {o : ErrorObject} :
    parse line = .ok (.response id (.error o)) ↔
      ∃ ws v, Answer line ws id ∧ lastWritten ws "result" = none ∧
        lastWritten ws "error" = some v ∧ (ErrorObject.Named v o ∨ ErrorObject.Listed v o) := by
  constructor
  · intro parsed
    cases parse_eq_iff_sorted.mp parsed with
    | @response ws _ _ answer payload =>
      generalize result : lastWritten ws "result" = r, error : lastWritten ws "error" = e at payload
      cases payload with
      | @error v _ decoded =>
        have ordered := answer.record.ordered_of_lastWritten error
        exact ⟨ws, v, answer, result, error, (ErrorObject.ofValue_eq_ok_iff ordered).mp decoded⟩
  · rintro ⟨ws, v, answer, result, error, shape⟩
    have ordered := answer.record.ordered_of_lastWritten error
    refine parse_response answer ?_
    rw [result, error]
    exact .error ((ErrorObject.ofValue_eq_ok_iff ordered).mpr shape)

theorem Answer.exists_fault (answer : Answer line ws id) (error : lastWritten ws "error" = some v)
    (other : ∀ o, ¬ ErrorObject.Named v o ∧ ¬ ErrorObject.Listed v o) :
    ∃ fault, parse line = .error fault ∧
      (lastWritten ws "result" = none → ∃ inner, fault = .invalidError inner) := by
  have ordered := answer.record.ordered_of_lastWritten error
  cases result : lastWritten ws "result" with
  | some r => exact ⟨_, (Refused.ambiguousPayload answer result error).parse_eq, nofun⟩
  | none =>
    cases decoded : ErrorObject.decoder.ofValue v with
    | error fault =>
      exact ⟨_, (Refused.invalidError answer result error decoded).parse_eq, fun _ => ⟨fault, rfl⟩⟩
    | ok o =>
      rcases (ErrorObject.ofValue_eq_ok_iff ordered).mp decoded with named | listed
      · exact absurd named (other o).1
      · exact absurd listed (other o).2

end Switchboard.Message
