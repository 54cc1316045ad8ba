import Utp.Transition.Operation

/-! A socket keeps its identity once it has been initialised. -/
namespace Utp

open Wrapping

/-- Who the peer of a socket is, and the settings of its context. -/
structure Identity where
  addr : PackedSockAddr
  connIdRecv : Nat
  connIdSend : Nat
  onConnectSet : Bool

def Conn.identity (s : Conn) : Identity where
  addr := s.addr
  connIdRecv := s.connIdRecv
  connIdSend := s.connIdSend
  onConnectSet := s.onConnectSet

/-- The ids and the address are in the view. -/
theorem Conn.identity_of_view {s s' : Conn} (h : s'.view = s.view) : s'.identity = s.identity :=
  congrArg (fun v : View => (⟨v.addr, v.connIdRecv, v.connIdSend, v.onConnectSet⟩ : Identity)) h

theorem Conn.identity_of_backdrop {s s' : Conn} (h : s'.backdrop = s.backdrop) :
    s'.identity = s.identity :=
  congrArg (fun b : Backdrop => (⟨b.addr, b.connIdRecv, b.connIdSend, b.onConnectSet⟩ : Identity)) h

theorem Conn.identity_of_foreground {s s' : Conn} (h : s'.foreground = s.foreground) :
    s'.identity = s.identity :=
  congrArg (fun f : Foreground => (⟨f.addr, f.connIdRecv, f.connIdSend, f.onConnectSet⟩ : Identity)) h

/-- The states of a socket that has been initialised. -/
def Conn.Live (s : Conn) : Prop := s.state ≠ .uninitialized

variable {env : Env} {cause : Cause} {s s' : Conn}

/-- No move of the state goes back to an uninitialised socket. -/
theorem Moving.keeps (h : Moving cause s s') (hLive : s.Live) :
    s'.Live ∧ s'.identity = s.identity := by
  have hSet : ∀ st, st ≠ .uninitialized → (s.setState st).Live := fun st hState => hState
  cases h with
  | established r hCause hType hState => exact ⟨nofun, rfl⟩
  | admitted r hCause hType hState => exact ⟨nofun, rfl⟩
  | finAcked r hCause hFin hAcks =>
      split_ifs
      · exact ⟨nofun, rfl⟩
      · exact ⟨hLive, rfl⟩
  | full hState hFull =>
      unfold Conn.markFull Conn.noteFull
      rw [if_pos hFull, if_pos hFull]
      exact ⟨nofun, rfl⟩
  | writable hState hFull => exact ⟨nofun, rfl⟩
  | expired hState => exact ⟨nofun, rfl⟩
  | gaveUp hState => exact ⟨hSet _ (by split_ifs <;> exact nofun), rfl⟩
  | closing hOpen => exact ⟨hLive, rfl⟩
  | closed hState => exact ⟨nofun, rfl⟩
  | reset => exact ⟨hSet _ (by split_ifs <;> exact nofun), rfl⟩
  | icmpError =>
      unfold Conn.receiveIcmpError
      dsimp only
      split
      · exact ⟨hLive, rfl⟩
      · exact ⟨hSet _ (by split_ifs <;> exact nofun), rfl⟩

/-- A transition of an initialised socket. -/
theorem Trans.keeps (h : Trans env cause s s') (hCore : Core s) (hLive : s.Live) :
    s'.Live ∧ s'.identity = s.identity := by
  have hSame : s'.state = s.state → s'.Live := fun hState hZero =>
    hLive (hState.symm.trans hZero)
  cases h with
  | setup hSetup =>
      cases hSetup with
      | initialise addr connSeed connIdRecv connIdSend hState => exact absurd hState hLive
      | dial hState hCount hPointer => exact ⟨nofun, rfl⟩
      | accept d hCause hState hCount => exact ⟨nofun, rfl⟩
  | sending hSend =>
      cases hSend with
      | quiet hQuiet =>
          have hView := hQuiet.view hCore.view.bounds.ackNr_lt
          exact ⟨hSame (congrArg View.state hView), Conn.identity_of_view hView⟩
      | queueing hQueue =>
          have hFrame := hQueue.backdrop
          exact ⟨hSame (congrArg Backdrop.state hFrame), Conn.identity_of_backdrop hFrame⟩
      | moving hMove => exact hMove.keeps hLive
  | receiving hReceive =>
      have hFrame := hReceive.foreground
      exact ⟨hSame (congrArg Foreground.state hFrame), Conn.identity_of_foreground hFrame⟩

/-- By induction on the path. -/
theorem Path.keeps (h : Path env cause s s') (hCore : Core s) (hLive : s.Live) :
    s'.Live ∧ s'.identity = s.identity := by
  induction h with
  | refl => exact ⟨hLive, rfl⟩
  | tail hPath hStep ih =>
      obtain ⟨hNext, hSame⟩ := hStep.keeps (hCore.path hPath) ih.1
      exact ⟨hNext, hSame.trans ih.2⟩

end Utp
