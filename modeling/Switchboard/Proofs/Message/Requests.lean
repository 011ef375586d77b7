import Switchboard.Proofs.Json.Reading
import Switchboard.Proofs.Json.Writing
import Switchboard.Proofs.Message.Sorting

/-!
# Requests as lines

A request whose numbers are integers of 64 bits and that does not nest too deep is written as a line
without control characters. The line holds the four members of the request and nothing else, so it is
sorted as a request, and no two requests share a line.
-/

namespace Switchboard.Request

open Switchboard.Json

/-- A request that can be read again: its id fits 64 bits with a sign, the numbers of its parameters
are integers that fit 64 bits, and the parameters nest as deep as is left within the request. -/
structure Readable (r : Request) : Prop where
  id : fitsInt64 r.id
  numbers : ∀ n ∈ r.params.numbers, n.Exact
  nested : r.params.depth ≤ 126

def members (r : Request) : Members :=
  [("id", .number (.int r.id)), ("jsonrpc", .string protocolVersion), ("method", .string r.method),
    ("params", r.params.ordered)]

theorem ordered_document (r : Request) : r.document.ordered = .object r.members := by
  have placed (version id method params : Value) :
      Members.ofList [("jsonrpc", version), ("id", id), ("method", method), ("params", params)] =
        [("id", id), ("jsonrpc", version), ("method", method), ("params", params)] := rfl
  rw [document, Value.ordered_object]
  simp only [List.map_cons, List.map_nil, placed]
  rfl

variable {r : Request}

theorem numbers_document (h : r.Readable) : ∀ n ∈ r.document.numbers, n.Exact := by
  intro n hn
  obtain ⟨m, hm, hn⟩ := Value.mem_numbers_object.mp hn
  have fits : minInt64 ≤ r.id ∧ r.id ≤ maxInt64 := by simpa [fitsInt64] using h.id
  simp only [List.mem_cons, List.not_mem_nil, or_false] at hm
  obtain rfl | rfl | rfl | rfl := hm
  · cases hn
  · obtain rfl : n = .int r.id := by simpa [Value.numbers, Value.fold] using hn
    refine ⟨r.id, rfl, fits.1, fits.2.trans (by decide)⟩
  · cases hn
  · exact h.numbers n hn

theorem depth_document (h : r.Readable) : r.document.depth ≤ maxDepth := by
  refine Value.depth_object_le.mpr fun m hm => ?_
  simp only [List.mem_cons, List.not_mem_nil, or_false] at hm
  obtain rfl | rfl | rfl | rfl := hm
  · exact Nat.zero_le _
  · exact Nat.zero_le _
  · exact Nat.zero_le _
  · exact h.nested

theorem document_line (h : r.Readable) : Document r.line (.object r.members) := by
  have held := document_render (numbers_document h) (depth_document h)
  rwa [ordered_document] at held

theorem parse_line (h : r.Readable) :
    Message.parse r.line = .ok (.request (.number (.int r.id)) r.method) := by
  rw [Message.parse_of_document (document_line h)]
  rfl

theorem printable_line (h : r.Readable) : Printable r.line.toList := by
  rw [line, Value.render, String.toList_ofList]
  exact printable_chars (numbers_document h)

theorem brace_mem_line (r : Request) : '\x7b' ∈ r.line.toList := by
  simp [line, document, Value.render, Value.chars]

/-- Requests that share a line are the same, but for the order of members within the parameters. -/
theorem eq_of_line_eq {r r' : Request} (h : r.Readable) (h' : r'.Readable)
    (same : r.line = r'.line) :
    r.id = r'.id ∧ r.method = r'.method ∧ r.params.ordered = r'.params.ordered := by
  have members := (document_line h).unique (same ▸ document_line h')
  simpa [Request.members] using members

end Switchboard.Request
