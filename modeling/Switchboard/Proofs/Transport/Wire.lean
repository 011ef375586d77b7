import Switchboard.Proofs.Json.Writing
import Switchboard.Proofs.Transport.Framing

/-!
# Lines on the wire

A line is sent as its bytes and a newline (`wire`). If no line holds a control character, the
newlines that end lines are the only ones, so the pieces of the wire are the lines that were sent,
and a reader that keeps lines of their length finds them again.
-/

namespace Switchboard

open Switchboard.Json

/-! ### The bytes of a text -/

theorem encodeText_eq (text : String) :
    encodeText text = text.toList.flatMap String.utf8EncodeChar := by
  rw [encodeText, String.toUTF8_eq_toByteArray, ← String.utf8Encode_toList, List.utf8Encode,
    List.toList_data_toByteArray]

/-- The bytes of a character that is no control character are none either: those of the characters
beyond the first 128 lie above. -/
theorem le_of_mem_utf8EncodeChar {c : Char} (h : 32 ≤ c.toNat) :
    ∀ b ∈ String.utf8EncodeChar c, 32 ≤ b.toNat := by
  have same : c.val.toNat = c.toNat := rfl
  rw [String.utf8EncodeChar.eq_1]
  split_ifs <;> simp <;> omega

theorem le_of_mem_encodeText {text : String} (h : Printable text.toList) :
    ∀ b ∈ encodeText text, 32 ≤ b.toNat := by
  intro b hb
  rw [encodeText_eq] at hb
  obtain ⟨c, hc, hb⟩ := List.mem_flatMap.mp hb
  exact le_of_mem_utf8EncodeChar (h c hc) b hb

def carriageReturn : UInt8 := 13

theorem newline_not_mem_encodeText {text : String} (h : Printable text.toList) :
    newline ∉ encodeText text := fun hb =>
  absurd (le_of_mem_encodeText h newline hb) (by decide)

/-! ### Reading what was sent -/

/-- The bytes of lines, each with its newline. -/
def wire (lines : List String) : Bytes := lines.flatMap fun line => encodeText line ++ [newline]

@[simp]
theorem wire_nil : wire [] = [] := rfl

@[simp]
theorem wire_cons (line : String) (lines : List String) :
    wire (line :: lines) = encodeText line ++ newline :: wire lines := by simp [wire]

/-- A line comes through as it is: it holds no control character, is not blank and is not too long.
-/
structure Passes (limit : Nat) (line : String) : Prop where
  printable : Printable line.toList
  visible : ∃ c ∈ line.toList, Text.isBlank c = false
  fits : (encodeText line).length ≤ limit

variable {limit : Nat} {lines : List String}

theorem pieces_wire (printable : ∀ l ∈ lines, Printable l.toList) :
    pieces (wire lines) =
      lines.map fun line => { content := encodeText line, terminated := true } := by
  induction lines with
  | nil => rfl
  | cons line lines ih =>
    obtain ⟨first, others⟩ := List.forall_mem_cons.mp printable
    rw [wire_cons, pieces, cut_line (newline_not_mem_encodeText first), List.map_cons,
      List.cons_append, List.map_cons, ← ih others]
    rfl

theorem Passes.yields {line : String} (h : Passes limit line) :
    Piece.Yields limit { content := encodeText line, terminated := true } [.line line] := by
  refine .line h.fits rfl h.visible (by simp : _ = _ ++ List.replicate 0 '\r') fun last => ?_
  exact absurd (h.printable '\r' (List.mem_of_getLast? last)) (by decide)

theorem yields_wire (h : ∀ l ∈ lines, Passes limit l) :
    (pieces (wire lines)).flatMap (fun piece => (piece.read limit).arrival?.toList) =
      lines.map .line := by
  rw [pieces_wire fun l hl => (h l hl).printable, List.flatMap_map]
  calc lines.flatMap (fun l =>
          (Piece.read limit { content := encodeText l, terminated := true }).arrival?.toList)
      = lines.flatMap fun l => [.line l] :=
        List.flatMap_congr fun l hl => (h l hl).yields.eq_arrival.symm
    _ = lines.map .line := List.map_eq_flatMap.symm

theorem arrivals_wire (h : ∀ l ∈ lines, Passes limit l) {source : Source}
    (whole : ∀ reason, .failed reason ∉ source) (sent : source.bytes = wire lines)
    (seen : Option ExitStatus) :
    arrivals (fun _ => true) limit source seen =
      lines.map .line ++ [.ended (withStatus endReason seen)] := by
  rw [arrivals_eq_passOn _ limit whole, passOn_always, sent, List.filterMap_map,
    List.filterMap_eq_flatMap_toList, ← yields_wire h]
  rfl

theorem findings_wire (h : ∀ l ∈ lines, Passes limit l) {p : Running}
    (fresh : p.reader = .start) (output : List (Nat × Bytes)) (finish : Nat)
    (sent : output.flatMap Prod.snd = wire lines) :
    p.findings limit (output.map (fun (t, bytes) => .piece t bytes) ++ [.ending finish]) =
      lines.map .line := by
  have scan : p.reader.scan = .after limit [] := by rw [fresh, LineScan.after_nil]; rfl
  rw [Running.findings_eq limit List.not_mem_nil output finish scan, List.nil_append, sent,
    yields_wire h]

/-! ### Sending -/

namespace ProcessTransport

def input (t : ProcessTransport) : Bytes :=
  match t.state with
  | .running p => p.child.stimuli.input.flatMap Prod.snd
  | _ => []

/-- A transport that has accepted lines one after another, each at some instant. -/
inductive Sent : ProcessTransport → List String → ProcessTransport → Prop where
  | nil (t : ProcessTransport) : Sent t [] t
  | cons {t t' : ProcessTransport} {line : String} {lines : List String} {now : Nat}
      (accepted : (t.send now line).2.failure = none) (rest : Sent (t.send now line).1 lines t') :
      Sent t (line :: lines) t'

theorem input_send {t : ProcessTransport} {now : Nat} {line : String}
    (accepted : (t.send now line).2.failure = none) :
    (t.send now line).1.input = t.input ++ encodeText line ++ [newline] := by
  cases hwriter : t.writer with
  | none =>
    simp only [send, hwriter] at accepted
    split_ifs at accepted <;> cases accepted
  | some generation =>
    cases hstate : t.state with
    | notStarted | stopped =>
      simp only [send, hwriter, hstate] at accepted
      split_ifs at accepted <;> cases accepted
    | running p =>
      simp only [send, hwriter, hstate] at accepted ⊢
      split_ifs at accepted ⊢
      · cases accepted
      · cases accepted
      · simp [input, hstate, Running.stimulate, Child.stimulate, Stimuli.write]

theorem Sent.input_eq {t t' : ProcessTransport} {lines : List String} (h : Sent t lines t') :
    t'.input = t.input ++ wire lines := by
  induction h with
  | nil t => rw [wire_nil, List.append_nil]
  | cons accepted rest ih => rw [ih, input_send accepted, wire_cons]; simp

end ProcessTransport

end Switchboard
