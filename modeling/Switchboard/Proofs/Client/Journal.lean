import Mathlib.Data.List.Basic
import Mathlib.Data.List.Count
import Switchboard.Client.State

/-!
# What a journal says about calls

Most marks of a journal are asides: events of the trace, or notes of why something is about to
happen. `Journal.calls` keeps the marks that are about calls and arrivals, and every count of this
file depends on those alone (`countP_calls`).
-/

namespace Switchboard.Client

/-- Whether a mark is about what became of a call, or is an arrival. -/
@[simp] def Mark.isCall : Mark → Bool
  | .registered _ | .transmitted _ | .accepted _ | .withdrawn .. | .arrived _
  | .completed .. => true
  | _ => false

/-- Whether a mark says that another peer was started, or that the client was closed for good. -/
@[simp] def Mark.isTurn : Mark → Bool
  | .relaunched | .shut => true
  | _ => false

/-- Whether a mark is neither. -/
def Mark.isAside (m : Mark) : Bool := !m.isCall && !m.isTurn

theorem Mark.isCall_of_isAside {m : Mark} (h : m.isAside = true) : m.isCall = false := by
  simpa using (Bool.and_eq_true_iff.mp h).1

theorem Mark.isTurn_of_isAside {m : Mark} (h : m.isAside = true) : m.isTurn = false := by
  simpa using (Bool.and_eq_true_iff.mp h).2

theorem isAside_of_mem_report {events : List Event} {m : Mark}
    (h : m ∈ (events.map Mark.traced).reverse) : m.isAside = true := by
  obtain ⟨e, _, rfl⟩ := List.mem_map.mp (List.mem_reverse.mp h)
  rfl

/-- Whether a call was answered by the peer: with a result, or with the peer's own failure. -/
def Outcome.isAnswer : Outcome → Bool
  | .ok _ => true
  | .error (.remote ..) => true
  | _ => false

namespace Journal

def calls (j : Journal) : Journal := j.filter Mark.isCall

@[simp] theorem calls_nil : calls [] = [] := rfl

@[simp] theorem calls_cons (m : Mark) (j : Journal) :
    calls (m :: j) = if m.isCall then m :: calls j else calls j := List.filter_cons

theorem calls_append {marks : Journal} (h : ∀ m ∈ marks, m.isAside = true) (j : Journal) :
    calls (marks ++ j) = calls j := by
  have hnone : marks.filter Mark.isCall = [] :=
    List.filter_eq_nil_iff.mpr fun m hm => by
      rw [Mark.isCall_of_isAside (h m hm)]
      exact Bool.false_ne_true
  rw [calls, List.filter_append, hnone, List.nil_append]
  rfl

@[simp] theorem calls_report (events : List Event) (j : Journal) :
    calls ((events.map Mark.traced).reverse ++ j) = calls j :=
  calls_append (fun _ => isAside_of_mem_report) j

theorem countP_calls {p : Mark → Bool} (h : ∀ m, p m = true → m.isCall = true) (j : Journal) :
    List.countP p j.calls = List.countP p j := by
  rw [calls, List.countP_filter]
  refine List.countP_congr fun m _ => ?_
  simp only [Bool.and_eq_true, and_iff_left_iff_imp]
  exact h m

/-! ### Counts -/

/-- How often the callback of a call was told an outcome. -/
def completions (j : Journal) (id : Int) : Nat :=
  j.countP fun
    | .completed i _ => i == id
    | _ => false

def withdrawals (j : Journal) (id : Int) : Nat :=
  j.countP fun
    | .withdrawn i _ => i == id
    | _ => false

def acceptedIds (j : Journal) : List Int :=
  j.filterMap fun
    | .accepted i => some i
    | _ => none

/-- How many lines came from the peer, those included that were dropped. -/
def lines (j : Journal) : Nat :=
  j.countP fun
    | .arrived (.line _) => true
    | .arrived (.discarded _) => true
    | _ => false

def answers (j : Journal) : Nat :=
  j.countP fun
    | .completed _ o => o.isAnswer
    | _ => false

theorem completions_calls (j : Journal) (id : Int) : j.calls.completions id = j.completions id :=
  countP_calls (fun m h => by cases m <;> simp_all) j

theorem withdrawals_calls (j : Journal) (id : Int) : j.calls.withdrawals id = j.withdrawals id :=
  countP_calls (fun m h => by cases m <;> simp_all) j

theorem lines_calls (j : Journal) : j.calls.lines = j.lines :=
  countP_calls (fun m h => by cases m <;> simp_all) j

theorem answers_calls (j : Journal) : j.calls.answers = j.answers :=
  countP_calls (fun m h => by cases m <;> simp_all) j

theorem acceptedIds_calls (j : Journal) : j.calls.acceptedIds = j.acceptedIds := by
  rw [acceptedIds, calls, List.filterMap_filter]
  refine List.filterMap_congr fun m _ => ?_
  cases m <;> rfl

theorem mem_acceptedIds {j : Journal} {id : Int} : id ∈ j.acceptedIds ↔ Mark.accepted id ∈ j := by
  rw [acceptedIds, List.mem_filterMap]
  constructor
  · rintro ⟨m, hm, h⟩
    cases m <;> simp_all
  · exact fun h => ⟨_, h, rfl⟩

/-! ### The client and its peer -/

/-- The latest mark that says that another peer was started, or that the client was closed for good.
-/
def lastTurn? (j : Journal) : Option Mark := j.find? Mark.isTurn

@[simp] theorem lastTurn?_cons (m : Mark) (j : Journal) :
    lastTurn? (m :: j) = if m.isTurn then some m else lastTurn? j := by
  unfold lastTurn?
  rw [List.find?_cons]
  cases m.isTurn <;> rfl

theorem lastTurn?_append {marks : Journal} (h : ∀ m ∈ marks, m.isAside = true) (j : Journal) :
    lastTurn? (marks ++ j) = lastTurn? j := by
  have hnone : marks.find? Mark.isTurn = none :=
    List.find?_eq_none.mpr fun m hm => by
      rw [Mark.isTurn_of_isAside (h m hm)]
      exact Bool.false_ne_true
  rw [lastTurn?, List.find?_append, hnone, Option.none_or]
  rfl

@[simp] theorem lastTurn?_report (events : List Event) (j : Journal) :
    lastTurn? ((events.map Mark.traced).reverse ++ j) = lastTurn? j :=
  lastTurn?_append (fun _ => isAside_of_mem_report) j

end Journal

end Switchboard.Client
