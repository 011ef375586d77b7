import Switchboard.Transport.Process
import Switchboard.Transport.Scripted

/-!
# Transports that stay stopped

Once a transport was closed, and as long as no peer is started, it can only let the end of the peer
be noted and what the peer still writes pass. `LawfulTransport` says that no such transport has a
running peer, which a client relies on after it closed its own. The scripted transport notes whether
its peer runs, and the process transport is left in the state `stopped`, from which what happens by
itself does not take it.
-/

namespace Switchboard

/-- The transports that can follow the closing of one while no peer is started. -/
inductive Transport.Stopped {σ : Type} [Transport σ] : σ → Prop where
  | close (transport : σ) (now : Nat) : Stopped (Transport.close transport now).1
  | ended {transport : σ} (h : Stopped transport) : Stopped (Transport.ended transport)
  | next {transport : σ} {now : Nat} {happening : Happening σ} (h : Stopped transport)
      (hnext : Transport.next transport now = some happening) : Stopped happening.transport

/-- A transport that was closed has no running peer. -/
class LawfulTransport (σ : Type) [Transport σ] : Prop where
  isRunning_of_stopped {transport : σ} (h : Transport.Stopped transport) (now : Nat) :
    Transport.isRunning transport now = false

instance : LawfulTransport ScriptedPeer where
  isRunning_of_stopped h now := by
    induction h with
    | close => rfl
    | ended => rfl
    | next _ hnext => cases hnext

namespace ProcessTransport

variable {t : ProcessTransport} {now limit : Nat}

theorem state_of_next {happening : Happening ProcessTransport} (h : t.state = .stopped)
    (hnext : t.next now = some happening) : happening.transport.state = .stopped := by
  simp only [next, h] at hnext
  split at hnext
  · contradiction
  · simp only [nextRetired, Option.map_eq_some_iff] at hnext
    obtain ⟨sight, -, rfl⟩ := hnext
    exact h
  · cases hnext

theorem state_drain (h : t.state = .stopped) (n : Nat) :
    (t.drain now limit n).1.state = .stopped := by
  induction n generalizing t with
  | zero => exact h
  | succ n ih =>
    unfold drain
    split
    · exact h
    · rename_i happening hnext
      split
      · exact ih (state_of_next h hnext)
      · exact h

theorem state_shutdown (t : ProcessTransport) (now : Nat) :
    (t.shutdown now .stopped).1.state = .stopped := by
  simp only [shutdown]
  split
  · split
    · rfl
    · exact state_drain rfl _
  · rfl

end ProcessTransport

instance : LawfulTransport ProcessTransport where
  isRunning_of_stopped {transport} h now := by
    have hstate : transport.state = .stopped := by
      induction h with
      | close transport now => exact transport.state_shutdown now
      | ended _ ih => exact ih
      | next _ hnext ih => exact ProcessTransport.state_of_next ih hnext
    simp only [Transport.isRunning, ProcessTransport.isRunning, hstate]

end Switchboard
