import Utp.Invariant.Ticks
import Utp.Library.Sweep
import Utp.Guarantees.Stream

/-! The memory of rejected datagrams: one RST for each of them until it has been quiet for a while. -/
namespace Utp

open Wrapping

/-- What a rejected datagram is remembered by. -/
structure RstKey where
  addr : PackedSockAddr
  connid : Nat
  seqNr : Nat
  deriving DecidableEq, Repr

def RstInfo.key (r : RstInfo) : RstKey := ⟨r.addr, r.connid, r.ackNr⟩

def Datagram.rstKey (addr : PackedSockAddr) (d : Datagram) : RstKey := ⟨addr, d.header.connid, d.header.seqNr⟩

/-- What has happened to a context: a datagram was rejected, and a RST sent for it or not, or the
timeouts were to be checked, and the check was due or not. -/
inductive Note where
  | rejected (key : RstKey) (time : Nat) (sent : Bool)
  | checked (time : Nat) (due : Bool)
  deriving DecidableEq, Repr

namespace Note

def time : Note → Nat
  | rejected _ time _ => time
  | checked time _ => time

def sentRst : Note → Bool
  | rejected _ _ sent => sent
  | checked _ _ => false

end Note

namespace Context

/-- What the next reading of the clock shows. -/
def now (env : Env) (c : Context) : Nat := u64 (env c.tick).milliseconds

/-- `ctx->current_ms - ctx->last_check >= TIMEOUT_CHECK_INTERVAL` -/
def checkDue (env : Env) (c : Context) : Bool := u64 (c.now env - c.lastCheck) ≥ timeoutCheckInterval

/-- What an operation adds to the history. -/
def noteOf (env : Env) (op : Op) (c c' : Context) : List Note :=
  match op with
  | .processUdp d addr =>
      if c.rejects d addr then [.rejected (d.rstKey addr) (c.now env) (c.rstCount < c'.rstCount)] else []
  | .checkTimeouts _ => [.checked (c.now env) (c.checkDue env)]
  | _ => []

end Context

/-- A run of a context with its history, the newest note first. -/
inductive History (env : Env) : List Note → Context → Prop where
  | init (onAcceptSet onConnectSet : Bool) : History env [] (utpInit onAcceptSet onConnectSet)
  | next {notes : List Note} {c c' : Context} (op : Op) (prior : History env notes c)
      (hStep : c.step env op = some c') : History env (c.noteOf env op c' ++ notes) c'

/-- When the timeouts were last to be checked; the history starts with a check. -/
def lastCall : List Note → Option Nat
  | [] => none
  | .checked time _ :: _ => some time
  | .rejected _ time _ :: notes => some ((lastCall notes).getD time)

/-- Less than `2 ^ 30` milliseconds pass between two calls of `utp_check_timeouts`. -/
def Regular : List Note → Prop
  | [] => True
  | .checked time _ :: notes => (∀ last, lastCall notes = some last → time < last + 2 ^ 30) ∧ Regular notes
  | .rejected _ _ _ :: notes => Regular notes

/-- The clock of the embedding program counts milliseconds in 64 bits and does not go back. -/
structure MonotoneClock (env : Env) : Prop where
  mono : ∀ m n, m ≤ n → (env m).milliseconds ≤ (env n).milliseconds
  lt : ∀ n, (env n).milliseconds < 2 ^ 64

/-- There was a check that was due at a moment when, for ten seconds, no datagram with the key had
been rejected. The second list holds what was noted before. -/
def Lapsed (key : RstKey) (notes earlier : List Note) : Prop :=
  ∃ left right time, notes = left ++ .checked time true :: right ∧
    ∀ seen sent, .rejected key seen sent ∈ right ++ earlier → seen + rstInfoTimeout ≤ time

/-- What the memory of a context says about its history. -/
structure Remembers (env : Env) (notes : List Note) (c : Context) : Prop where
  seen : ∀ n ∈ notes, n.time ≤ c.now env
  swept_le : c.lastCheck ≤ c.now env
  nodup : (c.rstInfo.map RstInfo.key).Nodup
  short : c.rstInfo.length ≤ rstInfoLimit + 1
  stamped : ∀ r ∈ c.rstInfo, r.timestamp ≤ c.now env
  fresh : ∀ r ∈ c.rstInfo, c.lastCheck < r.timestamp + rstInfoTimeout
  called : ∀ r ∈ c.rstInfo, ∃ last, lastCall notes = some last ∧
    last < r.timestamp + rstInfoTimeout + timeoutCheckInterval
  latest : ∀ r ∈ c.rstInfo, ∀ seen sent, .rejected r.key seen sent ∈ notes → seen ≤ r.timestamp
  covered : ∀ later earlier key time, notes = later ++ .rejected key time true :: earlier →
    key ∈ c.rstInfo.map RstInfo.key ∨ Lapsed key later (.rejected key time true :: earlier)
  counted : c.rstCount = notes.countP Note.sentRst

/-- What has lapsed stays lapsed. -/
theorem Lapsed.cons {key : RstKey} {notes earlier : List Note} (h : Lapsed key notes earlier) (n : Note) :
    Lapsed key (n :: notes) earlier := by
  obtain ⟨left, right, time, rfl, hQuiet⟩ := h
  exact ⟨n :: left, right, time, rfl, hQuiet⟩

/-- The last call is one of the history. -/
theorem lastCall_mem {notes : List Note} {last : Nat} (h : lastCall notes = some last) : ∃ n ∈ notes, n.time = last := by
  induction notes with
  | nil => cases h
  | cons n notes ih =>
      cases n with
      | checked time due => exact ⟨_, List.mem_cons_self, Option.some.inj h⟩
      | rejected key time sent =>
          cases hLast : lastCall notes with
          | none =>
              simp only [lastCall, hLast, Option.getD_none, Option.some.injEq] at h
              exact ⟨_, List.mem_cons_self, h⟩
          | some old =>
              simp only [lastCall, hLast, Option.getD_some, Option.some.injEq] at h
              obtain ⟨n, hMem, hTime⟩ := ih (hLast.trans (congrArg some h))
              exact ⟨n, List.mem_cons_of_mem _ hMem, hTime⟩

namespace MonotoneClock

variable {env : Env} {c c' : Context}

/-- The time is not cut to 64 bits. -/
theorem now_eq (h : MonotoneClock env) (c : Context) : c.now env = (env c.tick).milliseconds := by
  have hLt := h.lt c.tick
  have hSame : ((u64 (env c.tick).milliseconds : Nat) : Int) = (env c.tick).milliseconds :=
    u64_of_nonneg (by omega) (by omega)
  exact_mod_cast hSame

/-- A later call finds no earlier time. -/
theorem now_le (h : MonotoneClock env) (hTick : c.tick ≤ c'.tick) : c.now env ≤ c'.now env := by
  rw [h.now_eq, h.now_eq]
  exact h.mono _ _ hTick

theorem now_lt (h : MonotoneClock env) (c : Context) : c.now env < 2 ^ 64 := by
  rw [h.now_eq]
  exact h.lt c.tick

end MonotoneClock

/-- What happens elsewhere only makes time pass. -/
theorem Remembers.bystander {env : Env} {notes : List Note} {c c' : Context} (h : Remembers env notes c)
    (hClock : MonotoneClock env) (hStep : c.Bystander c') : Remembers env notes c' := by
  have hNow := hClock.now_le hStep.tick_le
  constructor
  · exact fun n hMem => (h.seen n hMem).trans hNow
  · rw [hStep.lastCheck]
    exact h.swept_le.trans hNow
  · rw [hStep.rstInfo]
    exact h.nodup
  · rw [hStep.rstInfo]
    exact h.short
  · rw [hStep.rstInfo]
    exact fun r hMem => (h.stamped r hMem).trans hNow
  · rw [hStep.rstInfo, hStep.lastCheck]
    exact h.fresh
  · rw [hStep.rstInfo]
    exact h.called
  · rw [hStep.rstInfo]
    exact h.latest
  · rw [hStep.rstInfo]
    exact h.covered
  · rw [hStep.rstCount]
    exact h.counted

section Reject

variable {env : Env} {notes : List Note} {c c' : Context}

/-- An entry matches a datagram that has its key. -/
theorem rstMatches_iff {addr : PackedSockAddr} {header : PacketFormatV1} {r : RstInfo} :
    Context.rstMatches addr header r = true ↔ r.key = ⟨addr, header.connid, header.seqNr⟩ := by
  simp only [Context.rstMatches, RstInfo.key, RstKey.mk.injEq, Bool.and_eq_true, beq_iff_eq]
  tauto

/-- What happens to a rejected datagram: its entry is refreshed, it is ignored because too many are
remembered, or it is remembered and answered. -/
inductive Rejected (env : Env) (key : RstKey) (c c' : Context) : Prop where
  | refreshed (left right : List RstInfo) (r : RstInfo) (hOld : c.rstInfo = left ++ r :: right) (hKey : r.key = key)
      (hNew : c'.rstInfo = left ++ { r with timestamp := c.now env } :: right) (hSent : c'.rstCount = c.rstCount)
  | ignored (hNone : key ∉ c.rstInfo.map RstInfo.key) (hNew : c'.rstInfo = c.rstInfo) (hSent : c'.rstCount = c.rstCount)
  | answered (r : RstInfo) (hKey : r.key = key) (hTime : r.timestamp = c.now env)
      (hNone : key ∉ c.rstInfo.map RstInfo.key) (hRoom : c.rstInfo.length ≤ rstInfoLimit)
      (hNew : c'.rstInfo = c.rstInfo ++ [r]) (hSent : c'.rstCount = c.rstCount + 1)

/-- The entry that is found is the one that is modified. -/
theorem modify_findIdx {α : Type} {p : α → Bool} {xs : List α} {i : Nat} (h : xs.findIdx? p = some i) (f : α → α) :
    ∃ left x right, xs = left ++ x :: right ∧ p x = true ∧ xs.modify i f = left ++ f x :: right := by
  obtain ⟨hLt, hAt, -⟩ := List.findIdx?_eq_some_iff_getElem.1 h
  refine ⟨xs.take i, xs[i], xs.drop (i + 1), ?_, hAt, ?_⟩
  · rw [List.getElem_cons_drop, List.take_append_drop]
  · rw [List.modify_eq_take_cons_drop hLt]

/-- What the source does with a datagram of no connection: the memory is searched, and then it is renewed,
grown, or full. -/
theorem rejected_reject (header : PacketFormatV1) (addr : PackedSockAddr) (c : Context) :
    Rejected env ⟨addr, header.connid, header.seqNr⟩ c (c.reject env header addr) ∧
      (c.reject env header addr).lastCheck = c.lastCheck ∧ c.tick ≤ (c.reject env header addr).tick := by
  unfold Context.reject
  dsimp only
  split
  · rename_i i hFind
    have hFind' : c.rstInfo.findIdx? (Context.rstMatches addr header) = some i := hFind
    obtain ⟨left, r, right, hOld, hMatch, hNew⟩ := modify_findIdx hFind'
      fun r => { r with timestamp := c.now env }
    exact ⟨.refreshed left right r hOld (rstMatches_iff.1 hMatch) hNew rfl, rfl, Nat.le_succ c.tick⟩
  · rename_i hFind
    have hNone : (⟨addr, header.connid, header.seqNr⟩ : RstKey) ∉ c.rstInfo.map RstInfo.key := by
      intro hMem
      obtain ⟨r, hr, hKey⟩ := List.mem_map.1 hMem
      have hOther := List.findIdx?_eq_none_iff.1 hFind r hr
      rw [rstMatches_iff.2 hKey] at hOther
      cases hOther
    split_ifs with hFull
    · exact ⟨.ignored hNone rfl rfl, rfl, Nat.le_succ c.tick⟩
    · refine ⟨.answered ⟨addr, header.connid, header.seqNr, c.now env⟩ rfl rfl hNone (not_lt.1 hFull) rfl ?_, rfl,
        Nat.le_add_right c.tick 2⟩
      simp [Context.rstCount, Context.record, Context.called, Context.updateCurrentMs, Event.isSendto]

namespace Rejected

variable {key : RstKey}

/-- An entry is an old one of another key, or has just been stamped. -/
theorem mem (h : Rejected env key c c') (hNodup : (c.rstInfo.map RstInfo.key).Nodup) {r : RstInfo}
    (hMem : r ∈ c'.rstInfo) : (r ∈ c.rstInfo ∧ r.key ≠ key) ∨ (r.key = key ∧ r.timestamp = c.now env) := by
  cases h with
  | refreshed left right old hOld hKey hNew hSent =>
      rw [hOld, List.map_append, List.map_cons, List.nodup_middle, List.nodup_cons, ← List.map_append] at hNodup
      rw [hNew] at hMem
      have hOthers : r ∈ left ++ right → (r ∈ c.rstInfo ∧ r.key ≠ key) ∨ (r.key = key ∧ r.timestamp = c.now env) := by
        intro hOther
        refine Or.inl ⟨hOld ▸ ?_, fun hSame => hNodup.1 ?_⟩
        · rcases List.mem_append.1 hOther with hLeft | hRight
          · exact List.mem_append_left _ hLeft
          · exact List.mem_append_right _ (List.mem_cons_of_mem _ hRight)
        · rw [hKey, ← hSame]
          exact List.mem_map_of_mem hOther
      rcases List.mem_append.1 hMem with hLeft | hRight
      · exact hOthers (List.mem_append_left _ hLeft)
      · rcases List.mem_cons.1 hRight with rfl | hRight
        · exact Or.inr ⟨hKey, rfl⟩
        · exact hOthers (List.mem_append_right _ hRight)
  | ignored hNone hNew hSent =>
      rw [hNew] at hMem
      exact Or.inl ⟨hMem, fun hSame => hNone (hSame ▸ List.mem_map_of_mem hMem)⟩
  | answered new hKey hTime hNone hRoom hNew hSent =>
      rw [hNew] at hMem
      rcases List.mem_append.1 hMem with hOld | hLast
      · exact Or.inl ⟨hOld, fun hSame => hNone (hSame ▸ List.mem_map_of_mem hOld)⟩
      · obtain rfl := List.mem_singleton.1 hLast
        exact Or.inr ⟨hKey, hTime⟩

/-- No key is forgotten. -/
theorem keys (h : Rejected env key c c') : c.rstInfo.map RstInfo.key ⊆ c'.rstInfo.map RstInfo.key := by
  cases h with
  | refreshed left right old hOld hKey hNew hSent =>
      have hSame : c'.rstInfo.map RstInfo.key = c.rstInfo.map RstInfo.key := by
        rw [hOld, hNew]
        simp [RstInfo.key]
      rw [hSame]
      exact List.Subset.refl _
  | ignored hNone hNew hSent =>
      rw [hNew]
      exact List.Subset.refl _
  | answered new hKey hTime hNone hRoom hNew hSent =>
      rw [hNew, List.map_append]
      exact List.subset_append_left _ _

/-- A key is entered only when it was not found, so no key is there twice. -/
theorem distinct (h : Rejected env key c c') (hNodup : (c.rstInfo.map RstInfo.key).Nodup)
    (hShort : c.rstInfo.length ≤ rstInfoLimit + 1) :
    (c'.rstInfo.map RstInfo.key).Nodup ∧ c'.rstInfo.length ≤ rstInfoLimit + 1 := by
  cases h with
  | refreshed left right old hOld hKey hNew hSent =>
      have hSame : c'.rstInfo.map RstInfo.key = c.rstInfo.map RstInfo.key := by
        rw [hOld, hNew]
        simp [RstInfo.key]
      have hLength := congrArg List.length hSame
      rw [List.length_map, List.length_map] at hLength
      exact ⟨hSame ▸ hNodup, hLength ▸ hShort⟩
  | ignored hNone hNew hSent =>
      rw [hNew]
      exact ⟨hNodup, hShort⟩
  | answered new hKey hTime hNone hRoom hNew hSent =>
      rw [hNew, List.map_append, List.length_append]
      refine ⟨List.nodup_append.2 ⟨hNodup, List.nodup_singleton _, ?_⟩, Nat.succ_le_succ hRoom⟩
      intro a ha b hb hEq
      rw [List.mem_singleton.1 hb, hKey] at hEq
      exact hNone (hEq ▸ ha)

/-- A RST is sent exactly when the key was not known, and is from now on. -/
theorem sent (h : Rejected env key c c') : (c'.rstCount = c.rstCount ∧ ¬c.rstCount < c'.rstCount) ∨
    (c'.rstCount = c.rstCount + 1 ∧ key ∉ c.rstInfo.map RstInfo.key ∧ key ∈ c'.rstInfo.map RstInfo.key) := by
  cases h with
  | refreshed left right old hOld hKey hNew hSent => exact Or.inl ⟨hSent, by omega⟩
  | ignored hNone hNew hSent => exact Or.inl ⟨hSent, by omega⟩
  | answered new hKey hTime hNone hRoom hNew hSent =>
      refine Or.inr ⟨hSent, hNone, ?_⟩
      rw [hNew]
      simp [hKey]

end Rejected

/-- A rejected datagram is noted, and its entry stamped. -/
theorem Remembers.rejected {key : RstKey} (h : Remembers env notes c) (hClock : MonotoneClock env)
    (hReject : Rejected env key c c') (hCheck : c'.lastCheck = c.lastCheck) (hTick : c.tick ≤ c'.tick) :
    Remembers env (.rejected key (c.now env) (c.rstCount < c'.rstCount) :: notes) c' := by
  have hTimeout : rstInfoTimeout = 10000 := rfl
  have hNow := hClock.now_le hTick
  have hMem := fun {r : RstInfo} => hReject.mem (r := r) h.nodup
  obtain ⟨hNodup, hShort⟩ := hReject.distinct h.nodup h.short
  have hCall : ∀ {last : Nat}, lastCall notes = some last →
      lastCall (.rejected key (c.now env) (c.rstCount < c'.rstCount) :: notes) = some last := by
    intro last hLast
    simp only [lastCall, hLast, Option.getD_some]
  refine ⟨?_, ?_, hNodup, hShort, ?_, ?_, ?_, ?_, ?_, ?_⟩
  · intro n hn
    rcases List.mem_cons.1 hn with rfl | hOld
    · exact hNow
    · exact (h.seen n hOld).trans hNow
  · rw [hCheck]
    exact h.swept_le.trans hNow
  · intro r hr
    rcases hMem hr with ⟨hOld, -⟩ | ⟨-, hTime⟩
    · exact (h.stamped r hOld).trans hNow
    · rw [hTime]
      exact hNow
  · intro r hr
    have hSwept := h.swept_le
    rw [hCheck]
    rcases hMem hr with ⟨hOld, -⟩ | ⟨-, hTime⟩
    · exact h.fresh r hOld
    · omega
  · intro r hr
    rcases hMem hr with ⟨hOld, -⟩ | ⟨-, hTime⟩
    · obtain ⟨last, hLast, hLt⟩ := h.called r hOld
      exact ⟨last, hCall hLast, hLt⟩
    · cases hLast : lastCall notes with
      | none =>
          refine ⟨c.now env, ?_, by omega⟩
          simp only [lastCall, hLast, Option.getD_none]
      | some last =>
          obtain ⟨n, hn, hSame⟩ := lastCall_mem hLast
          have hSeen := h.seen n hn
          exact ⟨last, hCall hLast, by omega⟩
  · intro r hr time sent hNote
    rcases List.mem_cons.1 hNote with hNew | hOldNote
    · cases hNew
      rcases hMem hr with ⟨-, hOther⟩ | ⟨-, hTime⟩
      · exact absurd rfl hOther
      · exact hTime.ge
    · rcases hMem hr with ⟨hOld, -⟩ | ⟨-, hTime⟩
      · exact h.latest r hOld time sent hOldNote
      · rw [hTime]
        exact h.seen _ hOldNote
  · intro later earlier key' time hSplit
    cases later with
    | nil =>
        obtain ⟨hHead, -⟩ := List.cons.inj hSplit
        injection hHead with hKey _ hSent
        rcases hReject.sent with ⟨-, hNot⟩ | ⟨-, -, hKnown⟩
        · exact absurd (of_decide_eq_true hSent) hNot
        · exact Or.inl (hKey ▸ hKnown)
    | cons n later =>
        obtain ⟨-, hRest⟩ := List.cons.inj hSplit
        rcases h.covered later earlier key' time hRest with hKnown | hLapsed
        · exact Or.inl (hReject.keys hKnown)
        · exact Or.inr (hLapsed.cons n)
  · have hCount := h.counted
    rcases hReject.sent with ⟨hSame, hNot⟩ | ⟨hMore, -⟩
    · rw [List.countP_cons, hSame, hCount]
      simp [Note.sentRst]
    · rw [List.countP_cons, hMore, hCount]
      simp [Note.sentRst]

end Reject

section Check

variable {env : Env} {notes : List Note} {c c' : Context}

/-- The purge is the sweep of the library, with the age of an entry as its test. -/
theorem purgeRstInfo_eq_sweep (currentMs fuel i : Nat) (rs : List RstInfo) :
    Context.purgeRstInfo currentMs fuel i rs =
      Sweep.sweep (fun r => decide (i32 (currentMs - r.timestamp) ≥ rstInfoTimeout)) fuel i rs := by
  induction fuel generalizing i rs with
  | zero => rfl
  | succ fuel ih =>
      unfold Context.purgeRstInfo Sweep.sweep
      cases rs[i]? with
      | none => rfl
      | some r => simp only [ih, decide_eq_true_eq]

/-- An entry is not so old that its age overflows the cast to `int`. -/
theorem Remembers.age_lt (h : Remembers env notes c) (hRegular : ∀ last, lastCall notes = some last →
    c.now env < last + 2 ^ 30) {r : RstInfo} (hMem : r ∈ c.rstInfo) :
    i32 (c.now env - r.timestamp) = c.now env - r.timestamp := by
  obtain ⟨last, hLast, hLt⟩ := h.called r hMem
  have hGap := hRegular last hLast
  have hStamp := h.stamped r hMem
  have hTimeout : rstInfoTimeout = 10000 := rfl
  have hInterval : timeoutCheckInterval = 500 := rfl
  exact i32_of_lt (by omega) (by omega)

/-- A check that is due removes the entries that are ten seconds old, and no others. -/
theorem Remembers.purge_perm (h : Remembers env notes c) (hRegular : ∀ last, lastCall notes = some last →
    c.now env < last + 2 ^ 30) :
    (Context.purgeRstInfo (c.now env) c.rstInfo.length 0 c.rstInfo).Perm
      (c.rstInfo.filter fun r => c.now env < r.timestamp + rstInfoTimeout) := by
  rw [purgeRstInfo_eq_sweep]
  refine (Sweep.sweep_perm _ c.rstInfo).trans (List.Perm.of_eq (List.filter_congr fun r hMem => ?_))
  rw [h.age_lt hRegular hMem, ← decide_not]
  refine decide_eq_decide.2 ?_
  omega

/-- A check that is due purges the memory. -/
theorem swept_of_due (hDue : c.checkDue env = true) : c.swept env = { c.updateCurrentMs env with
    lastCheck := c.now env
    rstInfo := Context.purgeRstInfo (c.now env) c.rstInfo.length 0 c.rstInfo } := by
  have hGate : ¬u64 ((c.updateCurrentMs env).currentMs - (c.updateCurrentMs env).lastCheck) < timeoutCheckInterval :=
    not_lt.2 (of_decide_eq_true hDue)
  unfold Context.swept
  dsimp only
  rw [if_neg hGate]
  rfl

/-- One that is not leaves it alone. -/
theorem swept_of_not_due (hDue : c.checkDue env = false) : c.swept env = c.updateCurrentMs env := by
  have hGate : u64 ((c.updateCurrentMs env).currentMs - (c.updateCurrentMs env).lastCheck) < timeoutCheckInterval :=
    not_le.1 (of_decide_eq_false hDue)
  unfold Context.swept
  dsimp only
  rw [if_pos hGate]

/-- A check that is not due changes nothing. -/
theorem Remembers.skipped (h : Remembers env notes c) (hClock : MonotoneClock env) (hDue : c.checkDue env = false) :
    Remembers env (.checked (c.now env) false :: notes) (c.updateCurrentMs env) := by
  have hNow : c.now env ≤ (c.updateCurrentMs env).now env := hClock.now_le (Nat.le_succ c.tick)
  have hInterval : timeoutCheckInterval = 500 := rfl
  have hSoon : c.now env < c.lastCheck + timeoutCheckInterval := by
    have hGate := not_le.1 (of_decide_eq_false hDue)
    have hSwept := h.swept_le
    have hLt := hClock.now_lt c
    have hExact : ((u64 (c.now env - c.lastCheck) : Nat) : Int) = c.now env - c.lastCheck :=
      u64_of_nonneg (by omega) (by omega)
    omega
  refine ⟨?_, h.swept_le.trans hNow, h.nodup, h.short, fun r hMem => (h.stamped r hMem).trans hNow, h.fresh, ?_, ?_, ?_, ?_⟩
  · intro n hn
    rcases List.mem_cons.1 hn with rfl | hOld
    · exact hNow
    · exact (h.seen n hOld).trans hNow
  · intro r hMem
    have hFresh := h.fresh r hMem
    exact ⟨c.now env, rfl, by omega⟩
  · intro r hMem seen sent hNote
    rcases List.mem_cons.1 hNote with hNew | hOldNote
    · cases hNew
    · exact h.latest r hMem seen sent hOldNote
  · intro later earlier key time hSplit
    cases later with
    | nil => cases (List.cons.inj hSplit).1
    | cons n later =>
        rcases h.covered later earlier key time (List.cons.inj hSplit).2 with hKnown | hLapsed
        · exact Or.inl hKnown
        · exact Or.inr (hLapsed.cons n)
  · exact h.counted

/-- A check that is due forgets the old entries. -/
theorem Remembers.purged (h : Remembers env notes c) (hClock : MonotoneClock env) (hRegular : ∀ last,
    lastCall notes = some last → c.now env < last + 2 ^ 30) (hDue : c.checkDue env = true) :
    Remembers env (.checked (c.now env) true :: notes) (c.swept env) := by
  have hNow : c.now env ≤ (c.updateCurrentMs env).now env := hClock.now_le (Nat.le_succ c.tick)
  have hTimeout : rstInfoTimeout = 10000 := rfl
  have hPerm := h.purge_perm hRegular
  rw [swept_of_due hDue]
  generalize Context.purgeRstInfo (c.now env) c.rstInfo.length 0 c.rstInfo = rs at hPerm ⊢
  have hKept : ∀ {r : RstInfo}, r ∈ rs ↔ r ∈ c.rstInfo ∧ c.now env < r.timestamp + rstInfoTimeout := by
    intro r
    rw [hPerm.mem_iff, List.mem_filter, decide_eq_true_eq]
  refine ⟨?_, hNow, ?_, ?_, fun r hMem => (h.stamped r (hKept.1 hMem).1).trans hNow, fun r hMem => (hKept.1 hMem).2,
    ?_, ?_, ?_, h.counted⟩
  · intro n hn
    rcases List.mem_cons.1 hn with rfl | hOld
    · exact hNow
    · exact (h.seen n hOld).trans hNow
  · exact ((hPerm.map RstInfo.key).nodup_iff).2 (h.nodup.sublist (List.filter_sublist.map RstInfo.key))
  · exact (hPerm.length_eq.le.trans (List.length_filter_le _ _)).trans h.short
  · intro r hMem
    have hFresh := (hKept.1 hMem).2
    exact ⟨c.now env, rfl, by omega⟩
  · intro r hMem seen sent hNote
    rcases List.mem_cons.1 hNote with hNew | hOldNote
    · cases hNew
    · exact h.latest r (hKept.1 hMem).1 seen sent hOldNote
  · intro later earlier key time hSplit
    cases later with
    | nil => cases (List.cons.inj hSplit).1
    | cons n later =>
        have hHead : Note.checked (c.now env) true = n := (List.cons.inj hSplit).1
        have hRest : notes = later ++ .rejected key time true :: earlier := (List.cons.inj hSplit).2
        rcases h.covered later earlier key time hRest with hKnown | hLapsed
        · obtain ⟨r, hMem, hKey⟩ := List.mem_map.1 hKnown
          by_cases hFresh : c.now env < r.timestamp + rstInfoTimeout
          · exact Or.inl (List.mem_map.2 ⟨r, hKept.2 ⟨hMem, hFresh⟩, hKey⟩)
          · refine Or.inr ⟨[], later, c.now env, by rw [← hHead]; rfl, fun seen sent hNote => ?_⟩
            rw [← hRest, ← hKey] at hNote
            have hLatest := h.latest r hMem seen sent hNote
            omega
        · exact Or.inr (hLapsed.cons n)

end Check

section Run

variable {env : Env} {notes : List Note} {c c' : Context}

theorem remembers_utpInit (env : Env) (onAcceptSet onConnectSet : Bool) :
    Remembers env [] (utpInit onAcceptSet onConnectSet) := by
  refine ⟨nofun, Nat.zero_le _, List.nodup_nil, Nat.zero_le _, nofun, nofun, nofun, nofun, ?_, rfl⟩
  intro later earlier key time hSplit
  exact absurd hSplit (by simp)

/-- An operation that neither rejects nor checks leaves no note. -/
theorem noteOf_aside {op : Op} (hOther : ∀ order, op ≠ .checkTimeouts order)
    (hTaken : ∀ d addr, op = .processUdp d addr → c.rejects d addr = false) : c.noteOf env op c' = [] := by
  unfold Context.noteOf
  split
  · rename_i d addr
    rw [hTaken d addr rfl]
    rfl
  · rename_i order
    exact absurd rfl (hOther order)
  · rfl

theorem noteOf_rejected {d : Datagram} {addr : PackedSockAddr} (hRejects : c.rejects d addr = true) :
    c.noteOf env (.processUdp d addr) c' = [.rejected (d.rstKey addr) (c.now env) (c.rstCount < c'.rstCount)] :=
  if_pos hRejects

/-- A datagram that belongs to no connection is looked up in the memory. -/
theorem rejected_of_eq {d : Datagram} {addr : PackedSockAddr}
    (hEq : c' = (c.record addr (.readBytes 0 20)).reject env d.header addr) :
    Rejected env (d.rstKey addr) (c.record addr (.readBytes 0 20)) c' ∧ c'.lastCheck = c.lastCheck ∧ c.tick ≤ c'.tick := by
  rw [hEq]
  exact rejected_reject d.header addr (c.record addr (.readBytes 0 20))

/-- Every operation keeps the memory true to the history. -/
theorem Remembers.step {op : Op} (h : Remembers env notes c) (hClock : MonotoneClock env) (hOk : c.Ok)
    (hStep : c.step env op = some c') (hRegular : Regular (c.noteOf env op c' ++ notes)) :
    Remembers env (c.noteOf env op c' ++ notes) c' := by
  cases Context.rstStep_of_step hOk hStep with
  | aside hAside hOther hTaken =>
      rw [noteOf_aside hOther hTaken]
      exact h.bystander hClock hAside
  | rejected d addr hOp hRejects hEq =>
      have hRead := Context.Bystander.readBytes addr c
      obtain ⟨hReject, hCheck, hTick⟩ := rejected_of_eq hEq
      have hNew := (h.bystander hClock hRead).rejected hClock hReject hCheck hTick
      rw [hRead.rstCount] at hNew
      rw [hOp, noteOf_rejected hRejects]
      exact hNew
  | checked order hOp hAside =>
      rw [hOp] at hRegular ⊢
      refine Remembers.bystander ?_ hClock hAside
      change Remembers env (.checked (c.now env) (c.checkDue env) :: notes) (c.swept env)
      cases hDue : c.checkDue env with
      | false =>
          rw [swept_of_not_due hDue]
          exact h.skipped hClock hDue
      | true => exact h.purged hClock hRegular.1 hDue

/-- A RST is sent only for a key that is not remembered. -/
theorem not_mem_of_sent {op : Op} {key : RstKey} {time : Nat} (hOk : c.Ok) (hStep : c.step env op = some c')
    (hNote : c.noteOf env op c' = [.rejected key time true]) : key ∉ c.rstInfo.map RstInfo.key := by
  cases Context.rstStep_of_step hOk hStep with
  | aside hAside hOther hTaken =>
      rw [noteOf_aside hOther hTaken] at hNote
      cases hNote
  | rejected d addr hOp hRejects hEq =>
      obtain ⟨hReject, -, -⟩ := rejected_of_eq hEq
      rw [hOp, noteOf_rejected hRejects] at hNote
      injection hNote with hHead
      injection hHead with hKey _ hSent
      rw [← hKey]
      rcases hReject.sent with ⟨-, hNot⟩ | ⟨-, hUnknown, -⟩
      · rw [(Context.Bystander.readBytes addr c).rstCount] at hNot
        exact absurd (of_decide_eq_true hSent) hNot
      · exact hUnknown
  | checked order hOp hAside =>
      rw [hOp] at hNote
      injection hNote with hHead
      cases hHead

/-- No operation leaves two. -/
theorem noteOf_nil_or (env : Env) (op : Op) (c c' : Context) :
    c.noteOf env op c' = [] ∨ ∃ n, c.noteOf env op c' = [n] := by
  unfold Context.noteOf
  split
  · split_ifs
    · exact Or.inr ⟨_, rfl⟩
    · exact Or.inl rfl
  · exact Or.inr ⟨_, rfl⟩
  · exact Or.inl rfl

/-- The history was regular before. -/
theorem Regular.of_append {more : List Note} (h : Regular (more ++ notes)) : Regular notes := by
  induction more with
  | nil => exact h
  | cons n more ih =>
      cases n with
      | checked time due => exact ih h.2
      | rejected key time sent => exact ih h

/-- By induction on the history. -/
theorem History.reachable (h : History env notes c) : c.Reachable env := by
  induction h with
  | init onAcceptSet onConnectSet => exact .init onAcceptSet onConnectSet
  | next op prior hStep ih => exact .next op ih hStep

/-- By induction on the history: the memory knows what was rejected in the last ten seconds. -/
theorem History.remembers (h : History env notes c) (hClock : MonotoneClock env) (hRegular : Regular notes) :
    Remembers env notes c := by
  induction h with
  | init onAcceptSet onConnectSet => exact remembers_utpInit env onAcceptSet onConnectSet
  | next op prior hStep ih =>
      exact (ih hRegular.of_append).step hClock prior.reachable.ok hStep hRegular

/-- Between two RSTs for one key its entry has lapsed. -/
theorem History.lapsed (h : History env notes c) (hClock : MonotoneClock env) (hRegular : Regular notes)
    {later between earlier : List Note} {key : RstKey} {first second : Nat}
    (hSplit : notes = later ++ .rejected key second true :: (between ++ .rejected key first true :: earlier)) :
    Lapsed key between (.rejected key first true :: earlier) := by
  induction h generalizing later with
  | init onAcceptSet onConnectSet => exact absurd hSplit (by simp)
  | @next notes c c' op prior hStep ih =>
      have hOld := prior.remembers hClock hRegular.of_append
      rcases noteOf_nil_or env op c c' with hNone | ⟨n, hNote⟩
      · rw [hNone] at hSplit hRegular
        exact ih hRegular hSplit
      · rw [hNote] at hSplit hRegular
        cases later with
        | nil =>
            obtain ⟨rfl, hRest⟩ := List.cons.inj hSplit
            exact (hOld.covered between earlier key first hRest).resolve_left
              (not_mem_of_sent prior.reachable.ok hStep hNote)
        | cons n' later =>
            have hOlder : Regular ([n] ++ notes) := hRegular
            exact ih hOlder.of_append (List.cons.inj hSplit).2

end Run

/-- Carry out a list of operations and note what happens. -/
def Context.history (env : Env) : List Op → List Note → Context → Option (List Note × Context)
  | [], notes, c => some (notes, c)
  | op :: ops, notes, c => (c.step env op).bind fun c' => history env ops (c.noteOf env op c' ++ notes) c'

/-- By induction on the operations. -/
theorem History.run {env : Env} {ops : List Op} {notes notes' : List Note} {c c' : Context} (h : History env notes c)
    (hRun : c.history env ops notes = some (notes', c')) : History env notes' c' := by
  induction ops generalizing notes c with
  | nil =>
      cases hRun
      exact h
  | cons op ops ih =>
      obtain ⟨next, hStep, hRest⟩ := Option.bind_eq_some_iff.1 hRun
      exact ih (.next op h hStep) hRest

/-- What holds of the memory of rejected datagrams after a run with the given history. -/
structure RstSuppressed (env : Env) (notes : List Note) (c : Context) : Prop where
  distinct : (c.rstInfo.map RstInfo.key).Nodup
  short : c.rstInfo.length ≤ rstInfoLimit + 1
  /-- The next check keeps what is younger than ten seconds, in some order. -/
  purged : ∀ order c', c.step env (.checkTimeouts order) = some c' →
    Regular (c.noteOf env (.checkTimeouts order) c' ++ notes) → c.checkDue env = true →
      c'.rstInfo.Perm (c.rstInfo.filter fun r => c.now env < r.timestamp + rstInfoTimeout)
  /-- Every RST that was sent is in the history. -/
  counted : c.rstCount = notes.countP Note.sentRst
  once : ∀ later between earlier key first second,
    notes = later ++ .rejected key second true :: (between ++ .rejected key first true :: earlier) →
      Lapsed key between (.rejected key first true :: earlier)

/-- A peer whose datagrams are rejected gets at most one RST for each of them until it has been quiet
for ten seconds. -/
theorem rst_suppression {env : Env} (hClock : MonotoneClock env) {notes : List Note} {c : Context}
    (hHistory : History env notes c) (hRegular : Regular notes) : RstSuppressed env notes c := by
  have hRemembers := hHistory.remembers hClock hRegular
  refine ⟨hRemembers.nodup, hRemembers.short, ?_, hRemembers.counted, ?_⟩
  · intro order c' hStep hNext hDue
    cases Context.rstStep_of_step hHistory.reachable.ok hStep with
    | aside hAside hOther hTaken => exact absurd rfl (hOther order)
    | rejected d addr hOp hRejects hEq => cases hOp
    | checked order' hOp hAside =>
        rw [hAside.rstInfo, swept_of_due hDue]
        exact hRemembers.purge_perm hNext.1
  · intro later between earlier key first second hSplit
    exact hHistory.lapsed hClock hRegular hSplit

/-- Six seconds pass between two callbacks. -/
def slowEnv : Env := fun n => ⟨min (1000 + 6000 * n) 100000, 0, 7, 0, 1500, false, false⟩

theorem monotone_slowEnv : MonotoneClock slowEnv := by
  constructor
  · intro m n hLe
    change min (1000 + 6000 * m) 100000 ≤ min (1000 + 6000 * n) 100000
    omega
  · intro n
    change min (1000 + 6000 * n) 100000 < 2 ^ 64
    omega

/-- The same stray packet arrives twice, with a check between that comes twelve seconds after the
first: two RSTs are sent. -/
theorem rst_suppression_twice : ∃ c : Context, ∃ notes : List Note, History slowEnv notes c ∧ c.rstCount = 2 ∧
    notes = [.rejected ⟨somePeer, 6, 101⟩ 19000 true, .checked 13000 true, .rejected ⟨somePeer, 6, 101⟩ 1000 true] ∧
      RstSuppressed slowEnv notes c := by
  have hRun : ((utpInit true false).history slowEnv [.processUdp (somePacket stData 6 101 6 []) somePeer,
      .checkTimeouts [], .processUdp (somePacket stData 6 101 6 []) somePeer] []).any (fun r => r.2.rstCount == 2 &&
        decide (r.1 = [.rejected ⟨somePeer, 6, 101⟩ 19000 true, .checked 13000 true,
          .rejected ⟨somePeer, 6, 101⟩ 1000 true])) = true := by
    decide +kernel
  obtain ⟨⟨notes, c⟩, hSome, hOk⟩ := (Option.any_eq_true _ _).1 hRun
  obtain ⟨hCount, hNotes⟩ := Bool.and_eq_true_iff.1 hOk
  have hHistory : History slowEnv notes c := History.run (.init true false) hSome
  have hSame : notes = [.rejected ⟨somePeer, 6, 101⟩ 19000 true, .checked 13000 true,
      .rejected ⟨somePeer, 6, 101⟩ 1000 true] := of_decide_eq_true hNotes
  have hRegular : Regular notes := by
    rw [hSame]
    refine ⟨fun last hLast => ?_, trivial⟩
    have hFirst : 1000 = last := Option.some.inj hLast
    omega
  exact ⟨c, notes, hHistory, beq_iff_eq.1 hCount, hSame, rst_suppression monotone_slowEnv hHistory hRegular⟩

end Utp
