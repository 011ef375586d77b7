import Switchboard.Proofs.Client.Lines
import Switchboard.Proofs.Message.Requests
import Switchboard.Proofs.Transport.Wire

/-!
# Requests survive the wire

The lines of requests hold no control character, so the framing finds them again as they were sent,
and each is sorted as the request that it was. A peer that sends back what it was sent therefore
answers no call (`run_echo`): its lines are counted, and nothing else changes.
-/

namespace Switchboard

open Switchboard.Json Switchboard.Client

/-! ### Lines -/

namespace Request

variable {r : Request}

theorem passes (h : r.Readable) {limit : Nat} (fits : (encodeText r.line).length ≤ limit) :
    Passes limit r.line where
  printable := printable_line h
  visible := ⟨'\x7b', brace_mem_line r, by decide⟩
  fits := fits

theorem no_breaks_in_line (h : r.Readable) :
    newline ∉ encodeText r.line ∧ carriageReturn ∉ encodeText r.line := by
  have high := le_of_mem_encodeText (printable_line h)
  exact ⟨fun hb => absurd (high _ hb) (by decide), fun hb => absurd (high _ hb) (by decide)⟩

theorem hasEffect_line {σ : Type} [Transport σ] (h : r.Readable) (s : State σ) :
    s.HasEffect r.line .unexpected := by
  refine ⟨.inl ⟨_, _, parse_line h⟩, ?_⟩
  simp only [State.OnlyCounts, State.arrive, State.receive, parse_line h]
  exact ⟨_, rfl⟩

end Request

/-! ### Echoes -/

/-- What a client notes about lines that do nothing. -/
inductive Client.Mark.IsNote : Mark → Prop where
  | arrived (a : Arrival) : IsNote (.arrived a)
  | traced (e : Event) : IsNote (.traced e)

/-- **A peer that echoes its input answers no call.** When requests come back, each is counted and
noted, and nothing else changes, whatever there was to do next. -/
theorem run_echo {σ : Type} [Transport σ] {rs : List Request} (readable : ∀ r ∈ rs, r.Readable)
    (s : State σ) (rest : List Task) :
    ∃ marks : Journal, (∀ m ∈ marks, m.IsNote) ∧
      (Machine.mk s (rs.map (fun r => .arrive (.line r.line)) ++ rest)).run rs.length =
        ⟨{ s with
            tally := { s.tally with unexpected := s.tally.unexpected + rs.length }
            journal := marks ++ s.journal }, rest⟩ := by
  induction rs generalizing s with
  | nil => exact ⟨[], List.forall_mem_nil _, rfl⟩
  | cons r rs ih =>
    obtain ⟨first, others⟩ := List.forall_mem_cons.mp readable
    obtain ⟨-, event, counted⟩ := Request.hasEffect_line first s
    obtain ⟨marks, notes, onward⟩ := ih others { s with
      tally := s.tally.after .unexpected
      journal := .traced event :: .arrived (.line r.line) :: s.journal }
    have step : s.step (.arrive (.line r.line)) = some (_, _) := congrArg some counted
    refine ⟨marks ++ [.traced event, .arrived (.line r.line)], ?_, ?_⟩
    · simp only [List.forall_mem_append, List.forall_mem_cons]
      exact ⟨notes, .traced event, .arrived _, List.forall_mem_nil _⟩
    · rw [List.map_cons, List.cons_append, List.length_cons,
        Machine.run_succ (Machine.step_cons step), List.nil_append, onward]
      simp [Tally.after]
      omega

/-- **Requests survive the wire, and no request is taken for a response.** The line of a readable
request holds no line break, is sorted as the request with its id and its method, and is read as its
four members. Different requests have different lines. What a transport accepts is given to its
process line by line, and from a stream of these bytes, however it is delivered, a reader that keeps
lines of their length finds the lines again, in their order. A client to which they come back
completes no call. -/
theorem requests_survive_the_wire {σ : Type} [Transport σ] (rs : List Request)
    (readable : ∀ r ∈ rs, r.Readable) :
    (∀ r ∈ rs,
      (newline ∉ encodeText r.line ∧ carriageReturn ∉ encodeText r.line) ∧
      Message.parse r.line = .ok (.request (.number (.int r.id)) r.method) ∧
      (∀ id carried, Message.parse r.line ≠ .ok (.response id carried)) ∧
      Value.parse r.line = .ok (.object [("id", .number (.int r.id)), ("jsonrpc", .string "2.0"),
        ("method", .string r.method), ("params", r.params.ordered)]) ∧
      (r.params.Ordered → r.params.ordered = r.params)) ∧
    (∀ r ∈ rs, ∀ r' ∈ rs, r.params.Ordered → r'.params.Ordered → r.line = r'.line → r = r') ∧
    (∀ t t', ProcessTransport.Sent t (rs.map Request.line) t' →
      t'.input = t.input ++ wire (rs.map Request.line)) ∧
    (∀ limit, (∀ r ∈ rs, (encodeText r.line).length ≤ limit) →
      (∀ source : Source, (∀ reason, .failed reason ∉ source) →
        source.bytes = wire (rs.map Request.line) → ∀ seen,
        arrivals (fun _ => true) limit source seen =
          rs.map (fun r => .line r.line) ++ [.ended (withStatus endReason seen)]) ∧
      ∀ (p : Running) (output : List (Nat × Bytes)) (finish : Nat), p.reader = .start →
        output.flatMap Prod.snd = wire (rs.map Request.line) →
        p.findings limit (output.map (fun (t, bytes) => .piece t bytes) ++ [.ending finish]) =
          rs.map fun r => .line r.line) ∧
    ∀ (s : State σ) (rest : List Task), ∃ marks : Journal, (∀ m ∈ marks, m.IsNote) ∧
      (Machine.mk s (rs.map (fun r => .arrive (.line r.line)) ++ rest)).run rs.length =
        ⟨{ s with
            tally := { s.tally with unexpected := s.tally.unexpected + rs.length }
            journal := marks ++ s.journal }, rest⟩ := by
  refine ⟨fun r hr => ?_, fun r hr r' hr' inOrder inOrder' same => ?_, fun t t' sent => sent.input_eq,
    fun limit fits => ?_, run_echo readable⟩
  · have h := readable r hr
    refine ⟨Request.no_breaks_in_line h, Request.parse_line h, fun id carried => ?_,
      Value.parse_eq_ok_iff.mpr (Request.document_line h), Value.Ordered.ordered_eq⟩
    rw [Request.parse_line h]
    exact nofun
  · obtain ⟨id, method, params⟩ := Request.eq_of_line_eq (readable r hr) (readable r' hr') same
    rw [inOrder.ordered_eq, inOrder'.ordered_eq] at params
    cases r
    cases r'
    simp_all
  · have passes : ∀ l ∈ rs.map Request.line, Passes limit l :=
      List.forall_mem_map.mpr fun r hr => Request.passes (readable r hr) (fits r hr)
    refine ⟨fun source whole sent seen => ?_, fun p output finish fresh sent => ?_⟩
    · rw [arrivals_wire passes whole sent seen, List.map_map]
      rfl
    · rw [findings_wire passes fresh output finish sent, List.map_map]
      rfl

/-- Requests that would do harm if their texts were not escaped: one breaks its line and goes on with
a response, the other one carries a response in the name of a parameter. -/
def hostileRequests : List Request :=
  [{ id := -1
     method := "a\"\r\n\x7b\"jsonrpc\":\"2.0\",\"id\":1,\"result\":null\x7d\n"
     params := .array [.number (.int 18446744073709551615), .null] },
   { id := 1
     method := ""
     params := .object [("\",\"result\":[],\"é", .bool true), ("é", .object [])] }]

/-- They arrive as they are, each on its own line, and neither is a response. -/
theorem hostile_requests_survive :
    (∀ r ∈ hostileRequests, r.Readable) ∧
    (∀ r ∈ hostileRequests, ∀ id carried, Message.parse r.line ≠ .ok (.response id carried)) ∧
    arrivals (fun _ => true) 200
        [.interrupted, .chunk (wire (hostileRequests.map Request.line))] none =
      hostileRequests.map (fun r => .line r.line) ++ [.ended endReason] := by
  have readable : ∀ r ∈ hostileRequests, r.Readable := by
    simp only [hostileRequests, List.forall_mem_cons, List.not_mem_nil, false_implies,
      implies_true, and_true]
    refine ⟨⟨rfl, fun n hn => ?_, by decide⟩, ⟨rfl, fun n hn => ?_, by decide⟩⟩
    · have hn : n ∈ [Number.int 18446744073709551615] := hn
      obtain rfl := List.mem_singleton.mp hn
      exact ⟨_, rfl, by decide, by decide⟩
    · have hn : n ∈ ([] : List Number) := hn
      cases hn
  have fits : ∀ r ∈ hostileRequests, (encodeText r.line).length ≤ 200 := by
    simp only [hostileRequests, List.forall_mem_cons, List.not_mem_nil, false_implies,
      implies_true, and_true]
    exact ⟨by decide +kernel, by decide +kernel⟩
  obtain ⟨each, -, -, framed, -⟩ :=
    requests_survive_the_wire (σ := ScriptedPeer) hostileRequests readable
  refine ⟨readable, fun r hr => (each r hr).2.2.1, ?_⟩
  exact (framed 200 fits).1 _ (by simp) (by simp [Source.bytes]) none

end Switchboard
