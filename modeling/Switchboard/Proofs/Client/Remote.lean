import Switchboard.Proofs.Client.Lines
import Switchboard.Proofs.Message.ErrorObjects

/-!
# Errors of the peer

A call fails with what the peer says about it. Of an error object everything reaches the caller but
data of null, which is taken for none. Lines whose error member is neither a record nor a list with
code and message are refused: they complete no call.
-/

namespace Switchboard.Client

open Switchboard.Json

variable {σ : Type}

theorem Table.exists_take {t : Table} {e : Entry} (isOpen : e ∈ t.entries)
    (once : t.ids.count e.id ≤ 1) :
    ∃ entries, t.take e.id = some (e, { t with entries }) ∧ t.entries.Perm (e :: entries) := by
  cases taken : t.take e.id with
  | none => exact absurd (mem_ids.mpr ⟨e, isOpen, rfl⟩) (take_eq_none_iff.mp taken)
  | some found =>
    obtain ⟨e', t'⟩ := found
    have perm := perm_take taken once
    obtain ⟨-, same, rfl⟩ := take_eq_some taken
    have mine : e = e' := by
      refine (List.mem_cons.mp (perm.mem_iff.mp isOpen)).resolve_right fun stays => ?_
      simpa using (List.mem_filter.mp stays).2
    subst mine
    exact ⟨_, rfl, perm⟩

variable [Transport σ]

omit [Transport σ] in
theorem State.books_complete (s : State σ) (id : Int) (callback : Callback) (outcome : Outcome) :
    (s.complete id callback outcome).1.books =
      { s.books with calls := .completed id outcome :: s.books.calls } := by
  cases callback <;> simp [complete, books]

/-- A response with the id of an open call takes this call alone out of the table and tells its
callback what it carries, whatever there is to do afterwards. -/
theorem State.exists_told {s : State σ} {e : Entry} {line : String} {payload : Payload}
    (isOpen : e ∈ s.table.entries) (once : s.table.ids.count e.id ≤ 1)
    (parsed : Message.parse line = .ok (.response (some e.id) payload)) :
    ∃ (s' : State σ) (ts : List Task) (entries : List Entry),
      s.table.entries.Perm (e :: entries) ∧
      s'.books = {
        table := { s.table with entries }
        tally := s.tally
        calls := .completed e.id (.ofPayload payload) :: .arrived (.line line) ::
          s.journal.calls } ∧
      ∀ rest, (Machine.mk s (.arrive (.line line) :: rest)).run 2 = ⟨s', ts ++ rest⟩ := by
  obtain ⟨entries, taken, perm⟩ := Table.exists_take isOpen once
  obtain ⟨s₁, arrived, found⟩ : ∃ s₁ : State σ,
      s.arrive (.line line) = (s₁, [.complete e.id e.callback (.ofPayload payload)]) ∧
      s₁.books = { s.books with
        table := { s.table with entries }
        calls := .arrived (.line line) :: s.books.calls } := by
    simp only [arrive, receive, parsed, receiveResponse, note, Option.bind_some, taken]
    exact ⟨_, rfl, by simp [books]⟩
  have step : s.step (.arrive (.line line)) = some (s₁, _) := congrArg some arrived
  refine ⟨_, (s₁.complete e.id e.callback (.ofPayload payload)).2, entries, perm,
    (s₁.books_complete e.id e.callback (.ofPayload payload)).trans ?_, fun rest => ?_⟩
  · rw [found]
    rfl
  · rw [Machine.run_succ (Machine.step_cons step)]
    exact Machine.run_succ (Machine.step_cons rfl) 0

/-- A line fails an open call remotely: its callback is told the code, the message and the data of
an error object, the other calls stay open, and nothing is counted. -/
def State.IsFailedBy (s : State σ) (e : Entry) (line : String) (o : ErrorObject) : Prop :=
  ∃ (s' : State σ) (ts : List Task) (entries : List Entry),
    s.table.entries.Perm (e :: entries) ∧
    s'.books = {
      table := { s.table with entries }
      tally := s.tally
      calls := .completed e.id (.error (.remote o.code o.message o.data)) ::
        .arrived (.line line) :: s.journal.calls } ∧
    ∀ rest, (Machine.mk s (.arrive (.line line) :: rest)).run 2 = ⟨s', ts ++ rest⟩

theorem State.hasEffect_of_error {s : State σ} {line : String} {fault : MessageFault}
    (h : Message.parse line = .error fault) : s.HasEffect line .malformed := by
  refine ⟨⟨fault, h⟩, ?_⟩
  simp only [OnlyCounts, arrive, receive, h]
  exact ⟨_, rfl⟩

/-- **Remote errors reach the caller, but for data of null.** An error object that is written and
read again is the same, its data in order, unless its data is null, which becomes none. At every
moment of a run each line that holds the response with the id of an open call and an error object
fails this call alone, with the code, the message and the data that are read; the text of the
response is such a line, if it does not nest too deep. -/
theorem remote_errors_lose_null_only {m : Machine σ} {past : List (Machine σ)}
    (run : Run (m :: past)) {e : Entry} (isOpen : e ∈ m.state.table.entries)
    (fits : fitsInt64 e.id) {o : ErrorObject} (readable : o.Readable 126) :
    ErrorObject.decoder.parse o.document.render = .ok o.received ∧
      ((∀ d ∈ o.data, d.Ordered) → (o.received = o ↔ o.data ≠ some .null)) ∧
      (∀ line, Document line (o.answer e.id).ordered → m.state.IsFailedBy e line o.received) ∧
      (o.Readable 125 → Document (o.answer e.id).render (o.answer e.id).ordered) := by
  have once := (Accounts.isInvariant.holds run).count_ids_le_one e.id
  refine ⟨ErrorObject.parse_render readable, ErrorObject.received_eq_iff, fun line carries => ?_,
    fun short => ErrorObject.document_answer short fits⟩
  exact State.exists_told isOpen once (ErrorObject.parse_of_answer carries fits readable.code)

def exhausted : ErrorObject where
  code := -32000
  message := "out of \"memory\""
  data := some (.object [("limit", .number (.int 9)), ("tried", .array [.null, .bool true])])

theorem exhausted_readable {depth : Nat} (enough : 2 ≤ depth) : exhausted.Readable depth where
  code := by decide
  numbers d hd n hn := by
    obtain rfl := Option.some.inj hd
    obtain rfl : n = .int 9 := List.mem_singleton.mp hn
    exact ⟨9, rfl, by decide, by decide⟩
  nested d hd := by
    obtain rfl := Option.some.inj hd
    exact enough

theorem exhausted_call_is_told_all :
    ∃ (s : State ScriptedPeer) (past : List (Machine ScriptedPeer)) (e : Entry),
      Run (⟨s, []⟩ :: past) ∧ e ∈ s.table.entries ∧ fitsInt64 e.id ∧ exhausted.Readable 126 ∧
      ErrorObject.decoder.parse exhausted.document.render = .ok exhausted ∧
      s.IsFailedBy e (exhausted.answer e.id).render exhausted := by
  have connected : Run [⟨newClient .default (ScriptedPeer.idle [] none), []⟩] :=
    .connected (show connect .default (ScriptedPeer.idle [] none) = .ok _ from rfl)
  obtain ⟨past, run⟩ := connected.performEach [.dispatch "slow" .null .mailbox]
    ⟨rfl, rfl, trivial⟩
  obtain ⟨again, -, delivered, short⟩ := remote_errors_lose_null_only run
    (show Entry.mk 1 "slow" 0 none .mailbox ∈ _ from List.mem_singleton.mpr rfl) (by decide)
    (exhausted_readable (by decide))
  exact ⟨_, past, _, run, List.mem_singleton.mpr rfl, by decide, exhausted_readable (by decide),
    again, delivered _ (short (exhausted_readable (by decide)))⟩

/-- Data of null is written, but is none when it is read. -/
theorem null_data_is_lost :
    ErrorObject.decoder.parse
        (ErrorObject.document { code := 7, message := "m", data := some .null }).render =
      .ok { code := 7, message := "m", data := none } := rfl

/-- **Only error objects fail calls remotely.** A line is a response with an error just when it has
no result and its error member is a record with code and message, or a list of these and at most one
further item; the error has that code and that message. A response with an error member of any other
shape is counted as malformed and completes no call; if it has no result, it is refused for its
error object. -/
theorem only_error_objects_fail_calls (s : State σ) (line : String) :
    (∀ id o, Message.parse line = .ok (.response id (.error o)) ↔
      ∃ ws v, Message.Answer line ws id ∧ Message.lastWritten ws "result" = none ∧
        Message.lastWritten ws "error" = some v ∧
        (ErrorObject.Named v o ∨ ErrorObject.Listed v o)) ∧
    ∀ ws id v, Message.Answer line ws id → Message.lastWritten ws "error" = some v →
      (∀ o, ¬ ErrorObject.Named v o ∧ ¬ ErrorObject.Listed v o) →
        s.HasEffect line .malformed ∧
        (Message.lastWritten ws "result" = none →
          ∃ inner, Message.parse line = .error (.invalidError inner)) := by
  refine ⟨fun id o => Message.parse_eq_error_iff, fun ws id v answer error other => ?_⟩
  obtain ⟨fault, refused, alone⟩ := answer.exists_fault error other
  refine ⟨State.hasEffect_of_error refused, fun noResult => ?_⟩
  obtain ⟨inner, rfl⟩ := alone noResult
  exact ⟨inner, refused⟩

/-- A text in place of an error object fails no call. -/
theorem text_is_no_error_object :
    (newClient .default (ScriptedPeer.idle [] none)).HasEffect
        "\x7b\"jsonrpc\":\"2.0\",\"id\":1,\"error\":\"boom\"\x7d" .malformed ∧
      ∃ inner, Message.parse "\x7b\"jsonrpc\":\"2.0\",\"id\":1,\"error\":\"boom\"\x7d" =
        .error (.invalidError inner) := by
  obtain ⟨ws, record, found⟩ := Message.exists_written
    (show Value.parse "\x7b\"jsonrpc\":\"2.0\",\"id\":1,\"error\":\"boom\"\x7d" = .ok (.object
      [("error", .string "boom"), ("id", .number (.int 1)), ("jsonrpc", .string "2.0")]) from rfl)
  have answer : Message.Answer _ ws (some 1) :=
    ⟨⟨record, found _⟩, found _, _, found _, .int (by decide) (by decide)⟩
  obtain ⟨effect, refused⟩ := (only_error_objects_fail_calls
    (newClient .default (ScriptedPeer.idle [] none)) _).2 ws _ _ answer (found _)
    fun o => ⟨nofun, nofun⟩
  exact ⟨effect, refused (found _)⟩

/-- A list of a code and a message fails a call as well. -/
theorem list_is_taken_for_error_object :
    Message.parse "\x7b\"jsonrpc\":\"2.0\",\"id\":1,\"error\":[7,\"m\"]\x7d" =
      .ok (.response (some 1) (.error { code := 7, message := "m", data := none })) := rfl

end Switchboard.Client
