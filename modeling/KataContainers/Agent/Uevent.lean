import Mathlib

/-!
# Waiting for a uevent

`agent::uevent`: the uevent listener records every `add` uevent in the sandbox's `uevent_map`
and hands it to each watcher whose matcher it matches (`Uevent::process`); `wait_for_uevent`
looks the map up and otherwise registers a watcher with the sender of a oneshot channel, then
waits on the receiver until `hotplug_timeout` and, on a timeout, takes its watcher back.
A run interleaves the listener with any number of calls of `wait_for_uevent`: each critical
section under the sandbox lock is one step, and so are the two ways the wait on the channel
ends. The map is an association list searched in its own order (that of a `HashMap` is
unspecified), a watcher's sender is the number of the call holding its receiver, and the
`online_device` write of a memory hot-add is left out.
-/

namespace KataContainers.Agent

def sysfsDir : String := "/sys"

def sysfsMemoryOnlinePath : String := "/sys/devices/system/memory"

def uEventActionAdd : String := "add"

def uEventActionRemove : String := "remove"

structure Uevent where
  action : String
  devpath : String
  devname : String
  subsystem : String
  seqnum : String
  interface : String
deriving DecidableEq, Repr

class UeventMatcher (M : Type) where
  isMatch : M → Uevent → Bool

export UeventMatcher (isMatch)

/-- The uevent fields of the sandbox: the last `add` seen at each sysfs path, and the watchers,
each a matcher with the call its sender answers. -/
structure Sandbox (M : Type) where
  ueventMap : List (String × Uevent)
  ueventWatchers : List (Option (M × Nat))

inductive WaitError (M : Type) where
  /-- "Timeout after {:?} waiting for uevent {:?}", with the matcher taken back. -/
  | timeout (matcher : M)

/-- Where a call of `wait_for_uevent` is: registered at a watcher slot with what its receiver
holds, timed out with the receiver dropped, returned, or panicked. -/
inductive WaitPc (M : Type) where
  | start
  | waiting (idx : Nat) (rx : Option Uevent)
  | timedOut (idx : Nat)
  | returned (result : Except (WaitError M) Uevent)
  | panicked

/-- A call of `wait_for_uevent` with the matcher it was given. -/
structure Waiter (M : Type) where
  matcher : M
  pc : WaitPc M

structure UeventState (M : Type) where
  sandbox : Sandbox M
  waiters : List (Waiter M)

inductive Label where
  /-- Call `i` takes the sandbox lock: it looks the map up, and registers a watcher. -/
  | call (i : Nat)
  /-- The listener processes a uevent. -/
  | uevent (u : Uevent)
  /-- The timeout of call `i` elapses while its receiver is empty. -/
  | fire (i : Nat)
  /-- Call `i` reads the value its receiver holds. -/
  | receive (i : Nat)
  /-- Call `i`, timed out, takes the lock again and its watcher back. -/
  | expire (i : Nat)

def Uevent.onlinePath (u : Uevent) : String := sysfsDir ++ "/" ++ u.devpath ++ "/online"

variable {M : Type} [UeventMatcher M]

/-- `sender.send(uev)`: the value reaches the call only while it still waits on its receiver. -/
def send (ws : List (Waiter M)) (u : Uevent) (j : Nat) : List (Waiter M) :=
  match ws[j]? with
  | some ⟨m, .waiting idx none⟩ => ws.set j ⟨m, .waiting idx (some u)⟩
  | _ => ws

/- The equations of the definitions of this section and the next, one for each case: the proofs
rewrite with these and do not unfold the definitions. -/

omit [UeventMatcher M] in
theorem send_eq (ws : List (Waiter M)) (u : Uevent) (j : Nat) :
    send ws u j = match ws[j]? with
      | some ⟨m, .waiting idx none⟩ => ws.set j ⟨m, .waiting idx (some u)⟩
      | _ => ws := rfl

/-- The `iter_mut().for_each` of `process_add`: each watcher that matches is taken and sent
the uevent. -/
def notifyWatchers (u : Uevent) :
    List (Option (M × Nat)) → List (Waiter M) → List (Option (M × Nat)) × List (Waiter M)
  | [], ws => ([], ws)
  | none :: watchers, ws =>
      let r := notifyWatchers u watchers ws
      (none :: r.1, r.2)
  | some (m, j) :: watchers, ws =>
      if isMatch m u then
        let r := notifyWatchers u watchers (send ws u j)
        (none :: r.1, r.2)
      else
        let r := notifyWatchers u watchers ws
        (some (m, j) :: r.1, r.2)

theorem notifyWatchers_nil (u : Uevent) (ws : List (Waiter M)) :
    notifyWatchers u [] ws = ([], ws) := rfl

theorem notifyWatchers_none (u : Uevent) (watchers : List (Option (M × Nat))) (ws : List (Waiter M)) :
    notifyWatchers u (none :: watchers) ws =
      (none :: (notifyWatchers u watchers ws).1, (notifyWatchers u watchers ws).2) := rfl

theorem notifyWatchers_some (u : Uevent) (m : M) (j : Nat) (watchers : List (Option (M × Nat)))
    (ws : List (Waiter M)) :
    notifyWatchers u (some (m, j) :: watchers) ws =
      if isMatch m u then
        (none :: (notifyWatchers u watchers (send ws u j)).1,
          (notifyWatchers u watchers (send ws u j)).2)
      else (some (m, j) :: (notifyWatchers u watchers ws).1, (notifyWatchers u watchers ws).2) :=
  rfl

namespace UeventState

variable (s : UeventState M)

def init (matchers : List M) : UeventState M :=
  ⟨⟨[], []⟩, matchers.map fun m => ⟨m, .start⟩⟩

def processAdd (u : Uevent) : UeventState M :=
  if u.onlinePath.startsWith sysfsMemoryOnlinePath then s
  else
    let r := notifyWatchers u s.sandbox.ueventWatchers s.waiters
    ⟨⟨(u.devpath, u) :: s.sandbox.ueventMap.filter (·.1 != u.devpath), r.1⟩, r.2⟩

def processRemove (u : Uevent) : UeventState M :=
  { s with sandbox.ueventMap := s.sandbox.ueventMap.filter (·.1 != u.devpath) }

def process (u : Uevent) : UeventState M :=
  if u.action == uEventActionAdd then s.processAdd u
  else if u.action == uEventActionRemove then s.processRemove u
  else s

/-- The first critical section of `wait_for_uevent` for call `i` with matcher `m`. -/
def waitForUevent (i : Nat) (m : M) : UeventState M :=
  match (s.sandbox.ueventMap.map Prod.snd).find? (isMatch m) with
  | some uev => { s with waiters := s.waiters.set i ⟨m, .returned (.ok uev)⟩ }
  | none =>
      let idx := s.sandbox.ueventWatchers.length
      ⟨{ s.sandbox with ueventWatchers := s.sandbox.ueventWatchers ++ [some (m, i)] },
        s.waiters.set i ⟨m, .waiting idx none⟩⟩

/-- The timeout arm: `uevent_watchers[idx].take().unwrap()` panics on a slot out of range or
already taken. -/
def takeWatcher (i : Nat) (m : M) (idx : Nat) : UeventState M :=
  match s.sandbox.ueventWatchers[idx]? with
  | some (some (m', _)) =>
      ⟨{ s.sandbox with ueventWatchers := s.sandbox.ueventWatchers.set idx none },
        s.waiters.set i ⟨m, .returned (.error (.timeout m'))⟩⟩
  | _ => { s with waiters := s.waiters.set i ⟨m, .panicked⟩ }

def step : Label → Option (UeventState M)
  | .call i =>
      match s.waiters[i]? with
      | some ⟨m, .start⟩ => some (s.waitForUevent i m)
      | _ => none
  | .uevent u => some (s.process u)
  | .fire i =>
      match s.waiters[i]? with
      | some ⟨m, .waiting idx none⟩ => some { s with waiters := s.waiters.set i ⟨m, .timedOut idx⟩ }
      | _ => none
  | .receive i =>
      match s.waiters[i]? with
      | some ⟨m, .waiting _ (some u)⟩ => some { s with waiters := s.waiters.set i ⟨m, .returned (.ok u)⟩ }
      | _ => none
  | .expire i =>
      match s.waiters[i]? with
      | some ⟨m, .timedOut idx⟩ => some (s.takeWatcher i m idx)
      | _ => none

def run (s : UeventState M) : List Label → Option (UeventState M)
  | [] => some s
  | l :: ls => (s.step l).bind (run · ls)

def Reachable : Prop := ∃ matchers ls, (init matchers : UeventState M).run ls = some s

omit [UeventMatcher M] in
@[simp] theorem init_sandbox (matchers : List M) : (init matchers : UeventState M).sandbox = ⟨[], []⟩ :=
  rfl

omit [UeventMatcher M] in
@[simp] theorem init_waiters (matchers : List M) :
    (init matchers : UeventState M).waiters = matchers.map fun m => ⟨m, .start⟩ := rfl

theorem processAdd_eq (u : Uevent) :
    s.processAdd u =
      if u.onlinePath.startsWith sysfsMemoryOnlinePath then s
      else
        let r := notifyWatchers u s.sandbox.ueventWatchers s.waiters
        ⟨⟨(u.devpath, u) :: s.sandbox.ueventMap.filter (·.1 != u.devpath), r.1⟩, r.2⟩ := rfl

theorem process_eq (u : Uevent) :
    s.process u =
      if u.action == uEventActionAdd then s.processAdd u
      else if u.action == uEventActionRemove then s.processRemove u
      else s := rfl

theorem waitForUevent_eq (i : Nat) (m : M) :
    s.waitForUevent i m =
      match (s.sandbox.ueventMap.map Prod.snd).find? (isMatch m) with
      | some uev => { s with waiters := s.waiters.set i ⟨m, .returned (.ok uev)⟩ }
      | none =>
          ⟨{ s.sandbox with ueventWatchers := s.sandbox.ueventWatchers ++ [some (m, i)] },
            s.waiters.set i ⟨m, .waiting s.sandbox.ueventWatchers.length none⟩⟩ := rfl

omit [UeventMatcher M] in
theorem takeWatcher_eq (i : Nat) (m : M) (idx : Nat) :
    s.takeWatcher i m idx =
      match s.sandbox.ueventWatchers[idx]? with
      | some (some (m', _)) =>
          ⟨{ s.sandbox with ueventWatchers := s.sandbox.ueventWatchers.set idx none },
            s.waiters.set i ⟨m, .returned (.error (.timeout m'))⟩⟩
      | _ => { s with waiters := s.waiters.set i ⟨m, .panicked⟩ } := rfl

theorem step_call (i : Nat) :
    s.step (.call i) =
      match s.waiters[i]? with
      | some ⟨m, .start⟩ => some (s.waitForUevent i m)
      | _ => none := rfl

theorem step_uevent (u : Uevent) : s.step (.uevent u) = some (s.process u) := rfl

theorem step_fire (i : Nat) :
    s.step (.fire i) =
      match s.waiters[i]? with
      | some ⟨m, .waiting idx none⟩ => some { s with waiters := s.waiters.set i ⟨m, .timedOut idx⟩ }
      | _ => none := rfl

theorem step_receive (i : Nat) :
    s.step (.receive i) =
      match s.waiters[i]? with
      | some ⟨m, .waiting _ (some u)⟩ => some { s with waiters := s.waiters.set i ⟨m, .returned (.ok u)⟩ }
      | _ => none := rfl

theorem step_expire (i : Nat) :
    s.step (.expire i) =
      match s.waiters[i]? with
      | some ⟨m, .timedOut idx⟩ => some (s.takeWatcher i m idx)
      | _ => none := rfl

theorem run_nil : s.run [] = some s := rfl

theorem run_cons (l : Label) (ls : List Label) : s.run (l :: ls) = (s.step l).bind (run · ls) := rfl

end UeventState

/-! ### The watchers a uevent takes -/

/-- What a send does to the call holding the receiver. -/
def Waiter.deliver (u : Uevent) (w : Waiter M) : Waiter M :=
  match w.pc with
  | .waiting idx none => ⟨w.matcher, .waiting idx (some u)⟩
  | _ => w

omit [UeventMatcher M] in
@[simp] theorem Waiter.deliver_deliver (u : Uevent) (w : Waiter M) :
    (w.deliver u).deliver u = w.deliver u := by
  obtain ⟨m, pc⟩ := w
  cases pc with
  | waiting idx rx => cases rx <;> rfl
  | _ => rfl

omit [UeventMatcher M] in
theorem getElem?_send (ws : List (Waiter M)) (u : Uevent) (j k : Nat) :
    (send ws u j)[k]? = if j = k then ws[k]?.map (Waiter.deliver u) else ws[k]? := by
  rw [send_eq]
  split
  case h_1 m idx heq =>
    rw [List.getElem?_set]
    split_ifs with hjk hlt
    · subst hjk
      simp [heq, Waiter.deliver]
    · exact absurd (List.getElem?_eq_some_iff.mp heq).1 hlt
    · rfl
  case h_2 hne =>
    split_ifs with hjk
    · subst hjk
      cases hw : ws[j]? with
      | none => rfl
      | some w =>
          obtain ⟨m, pc⟩ := w
          cases pc with
          | waiting idx rx =>
              cases rx with
              | none => exact absurd hw (hne m idx)
              | some u' => rfl
          | _ => rfl
    · rfl

theorem notifyWatchers_fst (u : Uevent) (watchers : List (Option (M × Nat))) (ws : List (Waiter M)) :
    (notifyWatchers u watchers ws).1 = watchers.map (Option.filter fun e => !isMatch e.1 u) := by
  induction watchers generalizing ws with
  | nil => rfl
  | cons o watchers ih =>
      rcases o with _ | ⟨m, j⟩
      · simp [notifyWatchers_none, ih]
      · by_cases h : isMatch m u <;> simp [notifyWatchers_some, h, ih, Option.filter_some]

/-- A call is sent the uevent when some watcher that matches it answers it. -/
theorem notifyWatchers_snd (u : Uevent) (watchers : List (Option (M × Nat))) (ws : List (Waiter M))
    (k : Nat) :
    (notifyWatchers u watchers ws).2[k]? =
      if watchers.any (fun o => o.any fun e => e.2 == k && isMatch e.1 u) then
        ws[k]?.map (Waiter.deliver u)
      else ws[k]? := by
  induction watchers generalizing ws with
  | nil => rfl
  | cons o watchers ih =>
      rcases o with _ | ⟨m, j⟩
      · simp [notifyWatchers_none, ih]
      · by_cases h : isMatch m u
        · simp only [notifyWatchers_some, h, if_true, ih, getElem?_send]
          by_cases hjk : j = k
          · subst hjk
            simp [h, Option.map_map, Function.comp_def]
          · simp [hjk]
        · simp [notifyWatchers_some, h, ih]

/-! ### What every reachable state keeps -/

/-- The watcher slot a call refers to. -/
def WaitPc.slot : WaitPc M → Option Nat
  | .waiting idx _ => some idx
  | .timedOut idx => some idx
  | _ => none

/-- What the watcher slots hold for call `i`, given where it is: its own watcher while it waits
empty, a taken slot once its receiver holds a value, one of the two once it timed out. -/
def Waiter.Consistent (watchers : List (Option (M × Nat))) (i : Nat) (w : Waiter M) : Prop :=
  match w.pc with
  | .waiting idx none => watchers[idx]? = some (some (w.matcher, i))
  | .waiting idx (some u) => isMatch w.matcher u = true ∧ watchers[idx]? = some none
  | .timedOut idx => watchers[idx]? = some (some (w.matcher, i)) ∨ watchers[idx]? = some none
  | .returned (.ok u) => isMatch w.matcher u = true
  | _ => True

namespace Waiter

variable {watchers watchers' : List (Option (M × Nat))} {i : Nat} {w : Waiter M}

theorem consistent_congr (h : ∀ idx, w.pc.slot = some idx → watchers'[idx]? = watchers[idx]?) :
    w.Consistent watchers' i ↔ w.Consistent watchers i := by
  obtain ⟨m, pc⟩ := w
  cases pc with
  | waiting idx rx =>
      have hidx := h idx rfl
      cases rx <;> simp [Consistent, hidx]
  | timedOut idx =>
      have hidx := h idx rfl
      simp [Consistent, hidx]
  | returned r => cases r <;> exact Iff.rfl
  | _ => exact Iff.rfl

theorem Consistent.slot_lt (hw : w.Consistent watchers i) {idx : Nat} (h : w.pc.slot = some idx) :
    idx < watchers.length := by
  obtain ⟨m, pc⟩ := w
  cases pc with
  | waiting idx' rx =>
      cases h
      cases rx with
      | none => exact (List.getElem?_eq_some_iff.mp hw).1
      | some u => exact (List.getElem?_eq_some_iff.mp hw.2).1
  | timedOut idx' =>
      cases h
      rcases hw with hw | hw <;> exact (List.getElem?_eq_some_iff.mp hw).1
  | _ => cases h

/-- The slot a call refers to holds its own watcher or has been taken. -/
theorem Consistent.slot_cases (hw : w.Consistent watchers i) {idx : Nat} (h : w.pc.slot = some idx) :
    watchers[idx]? = some (some (w.matcher, i)) ∨ watchers[idx]? = some none := by
  obtain ⟨m, pc⟩ := w
  cases pc with
  | waiting idx' rx =>
      cases h
      cases rx with
      | none => exact .inl hw
      | some u => exact .inr hw.2
  | timedOut idx' =>
      cases h
      exact hw
  | _ => cases h

/-- A watcher in the slot a call refers to answers that call. -/
theorem Consistent.eq_of_slot (hw : w.Consistent watchers i) {idx : Nat} (h : w.pc.slot = some idx)
    {m : M} {j : Nat} (hslot : watchers[idx]? = some (some (m, j))) : j = i := by
  rcases hw.slot_cases h with h' | h'
  · rw [h'] at hslot
    simp only [Option.some.injEq, Prod.mk.injEq] at hslot
    exact hslot.2.symm
  · simp [h'] at hslot

end Waiter

namespace UeventState

/-- Every call agrees with the watcher slots, and every watcher answers a call that waits on it,
empty or timed out. -/
structure Inv (s : UeventState M) : Prop where
  consistent : ∀ i (w : Waiter M), s.waiters[i]? = some w → w.Consistent s.sandbox.ueventWatchers i
  owner : ∀ idx (m : M) (j : Nat), s.sandbox.ueventWatchers[idx]? = some (some (m, j)) →
    s.waiters[j]? = some ⟨m, .waiting idx none⟩ ∨ s.waiters[j]? = some ⟨m, .timedOut idx⟩

variable {s : UeventState M}

theorem inv_init (matchers : List M) : (init matchers : UeventState M).Inv := by
  constructor
  · intro i w hw
    simp only [init_waiters, List.getElem?_map, Option.map_eq_some_iff] at hw
    obtain ⟨m, -, rfl⟩ := hw
    trivial
  · intro idx m j hslot
    simp at hslot

/-- Two watchers answering one call sit in one slot. -/
theorem Inv.owner_slot (hd : s.Inv) {idx idx' j : Nat} {m m' : M}
    (h : s.sandbox.ueventWatchers[idx]? = some (some (m, j)))
    (h' : s.sandbox.ueventWatchers[idx']? = some (some (m', j))) : idx = idx' ∧ m = m' := by
  rcases hd.owner idx m j h with hw | hw <;> rcases hd.owner idx' m' j h' with hw' | hw' <;>
    · have heq := hw.symm.trans hw'
      simp only [Option.some.injEq, Waiter.mk.injEq, WaitPc.waiting.injEq, WaitPc.timedOut.injEq,
        reduceCtorEq, and_false] at heq
      try exact ⟨heq.2.1, heq.1⟩
      try exact ⟨heq.2, heq.1⟩

/-- Moving call `i` to `w'` keeps the invariant when `w'` agrees with the slots and a watcher
answering `i` is one that `w'` waits on. -/
theorem Inv.setWaiter (hd : s.Inv) {i : Nat} {w w' : Waiter M} (hi : s.waiters[i]? = some w)
    (hc : w'.Consistent s.sandbox.ueventWatchers i)
    (ho : ∀ idx m, s.sandbox.ueventWatchers[idx]? = some (some (m, i)) →
      w' = ⟨m, .waiting idx none⟩ ∨ w' = ⟨m, .timedOut idx⟩) :
    ({ s with waiters := s.waiters.set i w' } : UeventState M).Inv := by
  have hlt : i < s.waiters.length := (List.getElem?_eq_some_iff.mp hi).1
  constructor
  · intro k wk hk
    rw [List.getElem?_set] at hk
    split_ifs at hk with hik
    · subst hik
      simp only [Option.some.injEq] at hk
      subst hk
      exact hc
    · exact hd.consistent k wk hk
  · intro idx m j hslot
    by_cases hij : i = j
    · subst hij
      simp only [List.getElem?_set_self hlt, Option.some.injEq]
      exact ho idx m hslot
    · simp only [List.getElem?_set_ne hij]
      exact hd.owner idx m j hslot

/-- Registering call `i` at the next slot keeps the invariant: every slot a call refers to is
below the length, so the new slot is nobody else's. -/
theorem Inv.register (hd : s.Inv) {i : Nat} {m : M} (hi : s.waiters[i]? = some ⟨m, .start⟩) :
    (⟨{ s.sandbox with ueventWatchers := s.sandbox.ueventWatchers ++ [some (m, i)] },
      s.waiters.set i ⟨m, .waiting s.sandbox.ueventWatchers.length none⟩⟩ : UeventState M).Inv := by
  have hlt : i < s.waiters.length := (List.getElem?_eq_some_iff.mp hi).1
  constructor
  · intro k wk hk
    dsimp only
    rw [List.getElem?_set] at hk
    split_ifs at hk with hik
    · subst hik
      simp only [Option.some.injEq] at hk
      subst hk
      exact List.getElem?_concat_length
    · have hc := hd.consistent k wk hk
      refine (Waiter.consistent_congr fun idx hidx => ?_).mpr hc
      exact List.getElem?_append_left (hc.slot_lt hidx)
  · intro idx m' j hslot
    dsimp only at hslot ⊢
    rw [List.getElem?_append] at hslot
    split_ifs at hslot with hidx
    · have hj : i ≠ j := by
        rintro rfl
        rcases hd.owner idx m' i hslot with h | h <;> simp [hi] at h
      simp only [List.getElem?_set_ne hj]
      exact hd.owner idx m' j hslot
    · have hzero : idx - s.sandbox.ueventWatchers.length = 0 := by
        cases hn : idx - s.sandbox.ueventWatchers.length with
        | zero => rfl
        | succ n => simp [hn] at hslot
      simp only [hzero, List.getElem?_cons_zero, Option.some.injEq, Prod.mk.injEq] at hslot
      obtain ⟨rfl, rfl⟩ := hslot
      have hidx' : idx = s.sandbox.ueventWatchers.length := by omega
      subst hidx'
      left
      simp [hlt]

/-- The timeout path taking the watcher of call `i` back keeps the invariant: the watcher
answers `i`, so no other call refers to its slot. -/
theorem Inv.take (hd : s.Inv) {i idx j : Nat} {m m' : M}
    (hi : s.waiters[i]? = some ⟨m, .timedOut idx⟩)
    (hslot : s.sandbox.ueventWatchers[idx]? = some (some (m', j))) :
    (⟨{ s.sandbox with ueventWatchers := s.sandbox.ueventWatchers.set idx none },
      s.waiters.set i ⟨m, .returned (.error (.timeout m'))⟩⟩ : UeventState M).Inv := by
  have hlt : i < s.waiters.length := (List.getElem?_eq_some_iff.mp hi).1
  have hji : j = i := (hd.consistent i _ hi).eq_of_slot rfl hslot
  rw [hji] at hslot
  constructor
  · intro k wk hk
    dsimp only
    rw [List.getElem?_set] at hk
    split_ifs at hk with hik
    · subst hik
      simp only [Option.some.injEq] at hk
      subst hk
      trivial
    · have hc := hd.consistent k wk hk
      refine (Waiter.consistent_congr fun idx' hidx' => ?_).mpr hc
      have hne : idx ≠ idx' := by
        rintro rfl
        exact hik (hc.eq_of_slot hidx' hslot)
      exact List.getElem?_set_ne hne
  · intro idx' m'' j' hslot'
    dsimp only at hslot' ⊢
    have hne : idx ≠ idx' := by
      rintro rfl
      simp [List.getElem?_set_self (List.getElem?_eq_some_iff.mp hslot).1] at hslot'
    rw [List.getElem?_set_ne hne] at hslot'
    have hj : i ≠ j' := by
      rintro rfl
      rcases hd.owner idx' m'' i hslot' with h | h <;> simp [hi] at h
      exact hne h.2
    simp only [List.getElem?_set_ne hj]
    exact hd.owner idx' m'' j' hslot'

/-- `process_add` keeps the invariant: a watcher it takes answers a call that waits on it, and
that call is sent the uevent or has dropped its receiver; a call none of whose watchers match
keeps its slot. -/
theorem Inv.processAdd (hd : s.Inv) (u : Uevent) : (s.processAdd u).Inv := by
  rw [processAdd_eq]
  split_ifs with hmem
  · exact hd
  constructor
  · intro k wk hk
    dsimp only at hk ⊢
    rw [notifyWatchers_fst]
    rw [notifyWatchers_snd] at hk
    split_ifs at hk with hany
    · obtain ⟨o, hmemo, ho⟩ := List.any_eq_true.mp hany
      rcases o with _ | ⟨m', j⟩
      · cases ho
      simp only [Option.any_some, Bool.and_eq_true, beq_iff_eq] at ho
      obtain ⟨rfl, hmatch⟩ := ho
      obtain ⟨idx, hidx⟩ := List.mem_iff_getElem?.mp hmemo
      have htaken : (s.sandbox.ueventWatchers.map (Option.filter fun e => !isMatch e.1 u))[idx]? =
          some none := by
        simp [hidx, Option.filter_some, hmatch]
      rcases hd.owner idx m' j hidx with hw | hw <;>
        · simp only [hw, Option.map_some, Option.some.injEq] at hk
          subst hk
          simp [Waiter.deliver, Waiter.Consistent, htaken, hmatch]
    · have hc := hd.consistent k wk hk
      have hno : ∀ (idx : Nat) (m' : M), s.sandbox.ueventWatchers[idx]? = some (some (m', k)) →
          isMatch m' u = false := by
        intro idx m' h
        have hnot := List.any_eq_false.mp (Bool.eq_false_iff.mpr hany) _ (List.mem_of_getElem? h)
        simpa using hnot
      refine (Waiter.consistent_congr fun idx hidx => ?_).mpr hc
      rw [List.getElem?_map]
      rcases hc.slot_cases hidx with h | h
      · simp [h, Option.filter_some, hno idx _ h]
      · simp [h]
  · intro idx m' j hslot
    dsimp only at hslot ⊢
    rw [notifyWatchers_fst, List.getElem?_map] at hslot
    obtain ⟨o, ho, hfo⟩ := Option.map_eq_some_iff.mp hslot
    rcases o with _ | ⟨m'', j'⟩
    · cases hfo
    simp only [Option.filter_some, Bool.not_eq_eq_eq_not, Bool.not_true] at hfo
    split_ifs at hfo with hnm
    simp only [Option.some.injEq, Prod.mk.injEq] at hfo
    obtain ⟨rfl, rfl⟩ := hfo
    have hany : (s.sandbox.ueventWatchers.any fun o => o.any fun e => e.2 == j' && isMatch e.1 u) =
        false := by
      rw [List.any_eq_false]
      intro o' ho' hmatch
      rcases o' with _ | ⟨m₂, j₂⟩
      · cases hmatch
      simp only [Option.any_some, Bool.and_eq_true, beq_iff_eq] at hmatch
      obtain ⟨rfl, hmatch⟩ := hmatch
      obtain ⟨idx', hidx'⟩ := List.mem_iff_getElem?.mp ho'
      obtain ⟨-, rfl⟩ := hd.owner_slot ho hidx'
      simp [hmatch] at hnm
    rw [notifyWatchers_snd, hany]
    exact hd.owner idx m'' j' ho

theorem Inv.step (hd : s.Inv) {l : Label} {s' : UeventState M} (h : s.step l = some s') :
    s'.Inv := by
  cases l with
  | call i =>
      rw [step_call] at h
      split at h
      case h_1 m hi =>
        cases h
        rw [waitForUevent_eq]
        split
        case h_1 uev hfind =>
          refine hd.setWaiter hi (List.find?_some hfind) ?_
          intro idx m' hslot
          rcases hd.owner idx m' i hslot with h | h <;> simp [hi] at h
        case h_2 => exact hd.register hi
      case h_2 => cases h
  | uevent u =>
      rw [step_uevent, Option.some.injEq] at h
      subst h
      rw [process_eq]
      split_ifs
      · exact hd.processAdd u
      · exact ⟨hd.consistent, hd.owner⟩
      · exact hd
  | fire i =>
      rw [step_fire] at h
      split at h
      case h_1 m idx hi =>
        cases h
        refine hd.setWaiter hi (.inl (hd.consistent i _ hi)) ?_
        intro idx' m' hslot
        rcases hd.owner idx' m' i hslot with h | h <;> simp [hi] at h
        obtain ⟨rfl, rfl⟩ := h
        exact .inr rfl
      case h_2 => cases h
  | receive i =>
      rw [step_receive] at h
      split at h
      case h_1 m idx u hi =>
        cases h
        refine hd.setWaiter hi (hd.consistent i _ hi).1 ?_
        intro idx' m' hslot
        rcases hd.owner idx' m' i hslot with h | h <;> simp [hi] at h
      case h_2 => cases h
  | expire i =>
      rw [step_expire] at h
      split at h
      case h_1 m idx hi =>
        cases h
        rw [takeWatcher_eq]
        split
        case h_1 m' j hslot => exact hd.take hi hslot
        case h_2 hnone =>
          refine hd.setWaiter hi trivial ?_
          intro idx' m' hslot
          rcases hd.owner idx' m' i hslot with h | h <;> simp [hi] at h
          obtain ⟨rfl, rfl⟩ := h
          exact absurd hslot (hnone _ _)
      case h_2 => cases h

theorem Inv.run (hd : s.Inv) {ls : List Label} {s' : UeventState M} (h : s.run ls = some s') :
    s'.Inv := by
  induction ls generalizing s with
  | nil =>
      rw [run_nil, Option.some.injEq] at h
      subst h
      exact hd
  | cons l ls ih =>
      rw [run_cons, Option.bind_eq_some_iff] at h
      obtain ⟨s₁, h₁, h₂⟩ := h
      exact ih (hd.step h₁) h₂

theorem Reachable.inv (hs : s.Reachable) : s.Inv := by
  obtain ⟨matchers, ls, h⟩ := hs
  exact (inv_init matchers).run h

/-- A call returns `Ok` only with a uevent its matcher matches. -/
theorem Reachable.returned_ok_isMatch (hs : s.Reachable) {i : Nat} {m : M} {u : Uevent}
    (h : s.waiters[i]? = some ⟨m, .returned (.ok u)⟩) : isMatch m u = true :=
  hs.inv.consistent i _ h

/-! ### An `add` while a call waits -/

section Add

variable {u : Uevent} (hadd : u.action = uEventActionAdd)
  (hmem : u.onlinePath.startsWith sysfsMemoryOnlinePath = false)
include hadd hmem

theorem process_watchers :
    (s.process u).sandbox.ueventWatchers =
      s.sandbox.ueventWatchers.map (Option.filter fun e => !isMatch e.1 u) := by
  simp [process_eq, hadd, processAdd_eq, hmem, notifyWatchers_fst]

theorem process_waiters (k : Nat) :
    (s.process u).waiters[k]? =
      if s.sandbox.ueventWatchers.any (fun o => o.any fun e => e.2 == k && isMatch e.1 u) then
        s.waiters[k]?.map (Waiter.deliver u)
      else s.waiters[k]? := by
  simp only [process_eq, hadd, beq_self_eq_true, if_true, processAdd_eq, hmem, Bool.false_eq_true,
    if_false]
  exact notifyWatchers_snd u _ _ k

/-- The watcher of a call is taken by a matching `add`. -/
theorem process_takes_watcher {i idx : Nat} {m : M}
    (hslot : s.sandbox.ueventWatchers[idx]? = some (some (m, i))) (hm : isMatch m u = true) :
    (s.process u).sandbox.ueventWatchers[idx]? = some none := by
  rw [process_watchers hadd hmem, List.getElem?_map, hslot]
  simp [Option.filter_some, hm]

/-- A matching `add` processed while call `i` waits reaches it: its timeout can no longer fire,
and it returns that uevent. -/
theorem Reachable.add_reaches_waiting (hs : s.Reachable) {i idx : Nat} {m : M}
    (hw : s.waiters[i]? = some ⟨m, .waiting idx none⟩) (hm : isMatch m u = true) :
    (s.process u).waiters[i]? = some ⟨m, .waiting idx (some u)⟩ ∧
      (s.process u).step (.fire i) = none ∧
      ∃ s', (s.process u).step (.receive i) = some s' ∧
        s'.waiters[i]? = some ⟨m, .returned (.ok u)⟩ := by
  have hslot : s.sandbox.ueventWatchers[idx]? = some (some (m, i)) := hs.inv.consistent i _ hw
  have hany : s.sandbox.ueventWatchers.any (fun o => o.any fun e => e.2 == i && isMatch e.1 u) :=
    List.any_eq_true.mpr ⟨_, List.mem_of_getElem? hslot, by simp [hm]⟩
  have hw' : (s.process u).waiters[i]? = some ⟨m, .waiting idx (some u)⟩ := by
    rw [process_waiters hadd hmem, if_pos hany, hw]
    rfl
  have hlt : i < (s.process u).waiters.length := (List.getElem?_eq_some_iff.mp hw').1
  refine ⟨hw', by simp [step_fire, hw'], ?_⟩
  exact ⟨⟨(s.process u).sandbox, (s.process u).waiters.set i ⟨m, .returned (.ok u)⟩⟩,
    by simp [step_receive, hw'], List.getElem?_set_self hlt⟩

/-- The race of the timeout arm with `process_add`: once the timeout of a waiting call has fired,
a matching `add` processed before the call takes the lock again takes its watcher, and the
`unwrap` of the empty slot panics. -/
theorem wait_for_uevent_panics_after_late_add (hs : s.Reachable) {i idx : Nat} {m : M}
    (hw : s.waiters[i]? = some ⟨m, .waiting idx none⟩) (hm : isMatch m u = true) :
    ∃ s', s.run [.fire i, .uevent u, .expire i] = some s' ∧
      s'.waiters[i]? = some ⟨m, .panicked⟩ := by
  have hslot : s.sandbox.ueventWatchers[idx]? = some (some (m, i)) := hs.inv.consistent i _ hw
  have hlt : i < s.waiters.length := (List.getElem?_eq_some_iff.mp hw).1
  set s₁ : UeventState M := { s with waiters := s.waiters.set i ⟨m, .timedOut idx⟩ } with hs₁
  have h₁ : s.step (.fire i) = some s₁ := by simp [step_fire, hw, s₁]
  have hw₁ : s₁.waiters[i]? = some ⟨m, .timedOut idx⟩ := List.getElem?_set_self hlt
  -- the receiver is dropped, so the send of the listener is lost
  have hw₂ : (s₁.process u).waiters[i]? = some ⟨m, .timedOut idx⟩ := by
    rw [process_waiters hadd hmem, hw₁]
    split_ifs <;> rfl
  have hslot₂ : (s₁.process u).sandbox.ueventWatchers[idx]? = some none :=
    process_takes_watcher (s := s₁) hadd hmem hslot hm
  have hlt₂ : i < (s₁.process u).waiters.length := (List.getElem?_eq_some_iff.mp hw₂).1
  refine ⟨⟨(s₁.process u).sandbox, (s₁.process u).waiters.set i ⟨m, .panicked⟩⟩, ?_,
    List.getElem?_set_self hlt₂⟩
  simp only [run_cons, run_nil]
  rw [h₁, Option.bind_some]
  simp only [step_uevent, step_expire, Option.bind_some, hw₂, takeWatcher_eq, hslot₂]

end Add

end UeventState

/-- The matcher of the module's tests. -/
structure AlwaysMatch

instance : UeventMatcher AlwaysMatch := ⟨fun _ _ => true⟩

/-- The uevent of `test_wait_for_uevent`. -/
def testUevent : Uevent := ⟨uEventActionAdd, "/test/sysfs/path", "testdevname", "test", "", ""⟩

/-- One call with `AlwaysMatch`, registered while the map is empty. -/
def oneWatcher : UeventState AlwaysMatch := ⟨⟨[], [some (⟨⟩, 0)]⟩, [⟨⟨⟩, .waiting 0 none⟩]⟩

theorem oneWatcher_reachable : oneWatcher.Reachable := ⟨[⟨⟩], [.call 0], rfl⟩

theorem testUevent_not_memory : testUevent.onlinePath.startsWith sysfsMemoryOnlinePath = false := by
  with_unfolding_all decide

theorem wait_for_uevent_panics_in_test_setup :
    testUevent.action = uEventActionAdd ∧
      testUevent.onlinePath.startsWith sysfsMemoryOnlinePath = false ∧ oneWatcher.Reachable ∧
      oneWatcher.waiters[0]? = some ⟨⟨⟩, .waiting 0 none⟩ ∧ isMatch (⟨⟩ : AlwaysMatch) testUevent ∧
      ∃ s', oneWatcher.run [.fire 0, .uevent testUevent, .expire 0] = some s' ∧
        s'.waiters[0]? = some ⟨⟨⟩, .panicked⟩ :=
  ⟨rfl, testUevent_not_memory, oneWatcher_reachable, rfl, rfl,
    UeventState.wait_for_uevent_panics_after_late_add rfl testUevent_not_memory oneWatcher_reachable
      rfl rfl⟩

/-- The uevent of the test reaches the call waiting for it: its timeout can no longer fire. -/
theorem add_reaches_waiting_in_test_setup :
    testUevent.action = uEventActionAdd ∧
      testUevent.onlinePath.startsWith sysfsMemoryOnlinePath = false ∧ oneWatcher.Reachable ∧
      oneWatcher.waiters[0]? = some ⟨⟨⟩, .waiting 0 none⟩ ∧ isMatch (⟨⟩ : AlwaysMatch) testUevent ∧
      (oneWatcher.process testUevent).step (.fire 0) = none :=
  ⟨rfl, testUevent_not_memory, oneWatcher_reachable, rfl, rfl,
    (UeventState.Reachable.add_reaches_waiting rfl testUevent_not_memory oneWatcher_reachable
      rfl rfl).2.1⟩

/-- The call of the test once the uevent has reached it and it has read it. -/
def returnedOne : UeventState AlwaysMatch :=
  ⟨⟨[(testUevent.devpath, testUevent)], [none]⟩, [⟨⟨⟩, .returned (.ok testUevent)⟩]⟩

theorem returned_ok_isMatch_in_test_setup :
    (UeventState.init [(⟨⟩ : AlwaysMatch)]).run [.call 0, .uevent testUevent, .receive 0] =
        some returnedOne ∧
      returnedOne.waiters[0]? = some ⟨⟨⟩, .returned (.ok testUevent)⟩ ∧
      isMatch (⟨⟩ : AlwaysMatch) testUevent = true := by
  have hr : (UeventState.init [(⟨⟩ : AlwaysMatch)]).run [.call 0, .uevent testUevent, .receive 0] =
      some returnedOne := by
    have hadd : testUevent.action = uEventActionAdd := rfl
    have hm : isMatch (⟨⟩ : AlwaysMatch) testUevent = true := rfl
    simp [UeventState.run_cons, UeventState.run_nil, UeventState.step_call,
      UeventState.step_uevent, UeventState.step_receive, UeventState.waitForUevent_eq,
      UeventState.process_eq, UeventState.processAdd_eq, testUevent_not_memory, notifyWatchers_some,
      notifyWatchers_nil, send_eq, returnedOne, hadd, hm]
  have hw : returnedOne.waiters[0]? = some ⟨⟨⟩, .returned (.ok testUevent)⟩ := rfl
  exact ⟨hr, hw, UeventState.Reachable.returned_ok_isMatch ⟨_, _, hr⟩ hw⟩

end KataContainers.Agent
