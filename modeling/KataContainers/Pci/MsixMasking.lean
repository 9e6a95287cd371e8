import KataContainers.Pci.MsixControl

/-!
# MSI-X masking

The vectors of an MSI-X device as the interrupt group sees them, along any run of
`MsixState::set_msg_ctl` and `MsixState::write_table` calls that return `Ok`. The group is one
mask bit per vector: `mask` and `unmask` set and clear a bit, and the `reset` of the manager
clears them all. What the manager holds of each vector is its MSI configuration, which
`set_msi_high_address`, `set_msi_low_address` and `set_msi_data` write. A call runs with every
call on the group succeeding (`kvmOk`); a call that returns an error or panics ends the run.
-/

namespace KataContainers.Pci

open PciConfiguration Interrupt

/-- A call that changes the group's mask bits. -/
inductive GroupCall where
  | reset
  | mask (idx : Nat)
  | unmask (idx : Nat)
deriving DecidableEq, Repr

def GroupCall.apply (bits : Nat → Bool) : GroupCall → Nat → Bool
  | .reset => fun _ => false
  | .mask idx => Function.update bits idx true
  | .unmask idx => Function.update bits idx false

namespace MsixState

/-- The group calls of a `groupLoop` over the vectors that `p` selects, from index `idx` on. -/
def groupLoopCalls (call : Nat → GroupCall) (p : MsixTableEntry → Bool) :
    Nat → List MsixTableEntry → List GroupCall
  | _, [] => []
  | idx, vector :: vectors =>
      (if p vector then [call idx] else []) ++ groupLoopCalls call p (idx + 1) vectors

/-- The group calls of `set_msg_ctl`, arm by arm: `reset` stands for the manager's `reset`. -/
def setMsgCtlGroupCalls (st : MsixState) (reg : UInt16) : List GroupCall :=
  let newMasked := reg &&& functionMaskMask != 0
  let newEnabled := reg &&& msixEnableMask != 0
  if st.enabled == newEnabled && st.masked == newMasked then []
  else
    match st.enabled, newEnabled with
    | false, true =>
        .reset :: groupLoopCalls .mask (fun v => newMasked || v.masked) 0 st.tableEntries
    | true, false => [.reset]
    | true, true =>
        if st.masked && !newMasked then groupLoopCalls .unmask (fun v => !v.masked) 0 st.tableEntries
        else if !st.masked && newMasked then
          groupLoopCalls .mask (fun v => !v.masked) 0 st.tableEntries
        else []
    | false, false => []

end MsixState

/-- One manager call of `write_table` on the manager and the group; `none` when it fails, and
when `mask` or `unmask` find no group to `unwrap`. -/
def IntrOp.apply (mgr : DeviceInterruptManager) (bits : Nat → Bool) :
    IntrOp → Option (DeviceInterruptManager × (Nat → Bool))
  | .setMsiHighAddress index value =>
      match mgr.setMsiHighAddress index value with
      | (mgr, .ok ()) => some (mgr, bits)
      | _ => none
  | .setMsiLowAddress index value =>
      match mgr.setMsiLowAddress index value with
      | (mgr, .ok ()) => some (mgr, bits)
      | _ => none
  | .setMsiData index value =>
      match mgr.setMsiData index value with
      | (mgr, .ok ()) => some (mgr, bits)
      | _ => none
  | .update index =>
      match mgr.update index true with
      | .ok (.ok ()) => some (mgr, bits)
      | _ => none
  | .mask index =>
      match mgr.getGroup with
      | .ok (some _) => some (mgr, Function.update bits index.toNat true)
      | _ => none
  | .unmask index =>
      match mgr.getGroup with
      | .ok (some _) => some (mgr, Function.update bits index.toNat false)
      | _ => none

def IntrOp.applyAll (mgr : DeviceInterruptManager) (bits : Nat → Bool) :
    List IntrOp → Option (DeviceInterruptManager × (Nat → Bool))
  | [] => some (mgr, bits)
  | op :: ops => do
      let (mgr, bits) ← op.apply mgr bits
      applyAll mgr bits ops

/-- An MSI-X device: its state, its interrupt manager, and the mask bits of its group. -/
structure MsixDevice where
  state : MsixState
  mgr : DeviceInterruptManager
  maskBits : Nat → Bool

inductive MsixCall where
  | setMsgCtl (reg : UInt16)
  | writeTable (offset : UInt64) (data : List UInt8)

namespace MsixDevice

/-- A call that returns `Ok`; `none` for an error or a panic. -/
def step (d : MsixDevice) : MsixCall → Option MsixDevice
  | .setMsgCtl reg =>
      match d.state.setMsgCtl reg d.mgr kvmOk with
      | some (st, mgr, .ok ()) =>
          some ⟨st, mgr, (d.state.setMsgCtlGroupCalls reg).foldl GroupCall.apply d.maskBits⟩
      | _ => none
  | .writeTable offset data =>
      match d.state.writeTable offset data with
      | some (st, ops) => (IntrOp.applyAll d.mgr d.maskBits ops).map fun (mgr, bits) => ⟨st, mgr, bits⟩
      | none => none

def run (d : MsixDevice) : List MsixCall → Option MsixDevice
  | [] => some d
  | call :: calls => do run (← d.step call) calls

theorem step_setMsgCtl (d : MsixDevice) (reg : UInt16) :
    d.step (.setMsgCtl reg) =
      match d.state.setMsgCtl reg d.mgr kvmOk with
      | some (st, mgr, .ok ()) =>
          some ⟨st, mgr, (d.state.setMsgCtlGroupCalls reg).foldl GroupCall.apply d.maskBits⟩
      | _ => none := rfl

theorem step_writeTable (d : MsixDevice) (offset : UInt64) (data : List UInt8) :
    d.step (.writeTable offset data) =
      match d.state.writeTable offset data with
      | some (st, ops) => (IntrOp.applyAll d.mgr d.maskBits ops).map fun (mgr, bits) => ⟨st, mgr, bits⟩
      | none => none := rfl

end MsixDevice

/-- The manager holds the message of the table entry `e` for the vector `i`. -/
def Programmed (mgr : DeviceInterruptManager) (i : Nat) (e : MsixTableEntry) : Prop :=
  ∃ c, mgr.msiConfig[i]? = some (.MsiIrq c) ∧
    c.highAddr = e.msgAddrHi ∧ c.lowAddr = e.msgAddrLo ∧ c.data = e.msgData

/-! ### The group calls -/

theorem foldl_groupLoopCalls {call : Nat → GroupCall} {b : Bool}
    (hcall : ∀ i bits, GroupCall.apply bits (call i) = Function.update bits i b)
    (p : MsixTableEntry → Bool) :
    ∀ (es : List MsixTableEntry) (idx : Nat) (bits : Nat → Bool) (j : Nat),
      (MsixState.groupLoopCalls call p idx es).foldl GroupCall.apply bits j =
        if idx ≤ j ∧ (es[j - idx]?).any p = true then b else bits j := by
  intro es
  induction es with
  | nil => intro idx bits j; simp [MsixState.groupLoopCalls]
  | cons v vs ih =>
      intro idx bits j
      rw [MsixState.groupLoopCalls, List.foldl_append, ih]
      have hhead : (if p v then [call idx] else []).foldl GroupCall.apply bits =
          if p v then Function.update bits idx b else bits := by
        split <;> simp [hcall]
      rw [hhead]
      have hother : j ≠ idx → (if p v then Function.update bits idx b else bits) j = bits j := by
        intro hj
        split <;> simp [Function.update_of_ne hj]
      by_cases hj : j = idx
      · subst hj
        by_cases hp : p v <;> simp [hp]
      · rw [hother hj]
        by_cases hlt : idx < j
        · have hget : (v :: vs)[j - idx]? = vs[j - (idx + 1)]? := by
            rw [show j - idx = j - (idx + 1) + 1 by omega, List.getElem?_cons_succ]
          simp only [hget, show idx + 1 ≤ j from hlt, Nat.le_of_lt hlt, true_and]
        · simp [show ¬idx ≤ j by omega, show ¬idx + 1 ≤ j by omega]

theorem foldl_groupLoopCalls_entry {call : Nat → GroupCall} {b : Bool}
    (hcall : ∀ i bits, GroupCall.apply bits (call i) = Function.update bits i b)
    (p : MsixTableEntry → Bool) {es : List MsixTableEntry} {i : Nat} {e : MsixTableEntry}
    (he : es[i]? = some e) (bits : Nat → Bool) :
    (MsixState.groupLoopCalls call p 0 es).foldl GroupCall.apply bits i =
      if p e then b else bits i := by
  rw [foldl_groupLoopCalls hcall p es 0 bits i]
  simp [he]

/-- The mask bit of a vector after the group calls of `set_msg_ctl`, when it followed the
state before. -/
theorem setMsgCtlGroupCalls_bit {st : MsixState} {reg : UInt16} {bits : Nat → Bool} {i : Nat}
    {e : MsixTableEntry} (he : st.tableEntries[i]? = some e)
    (hbit : bits i = (st.enabled && (st.masked || e.masked))) :
    (st.setMsgCtlGroupCalls reg).foldl GroupCall.apply bits i =
      ((reg &&& msixEnableMask != 0) && ((reg &&& functionMaskMask != 0) || e.masked)) := by
  have hmask := @foldl_groupLoopCalls_entry GroupCall.mask true (fun _ _ => rfl)
  have hunmask := @foldl_groupLoopCalls_entry GroupCall.unmask false (fun _ _ => rfl)
  unfold MsixState.setMsgCtlGroupCalls
  dsimp only
  generalize (reg &&& msixEnableMask != 0) = newEnabled
  generalize (reg &&& functionMaskMask != 0) = newMasked
  split
  case isTrue hsame =>
    simp only [Bool.and_eq_true, beq_iff_eq] at hsame
    rw [List.foldl_nil, hbit, hsame.1, hsame.2]
  case isFalse hsame =>
    split
    · -- `(false, true)`: reset, then the vectors to mask
      rw [List.foldl_cons, hmask _ he]
      simp [GroupCall.apply]
    · simp [GroupCall.apply]
    · -- `(true, true)`: the vectors not masked on their own follow the function mask
      rename_i hen
      rw [hen] at hbit hsame
      split
      case isTrue hm =>
        simp only [Bool.and_eq_true, Bool.not_eq_true'] at hm
        rw [hunmask _ he, hbit, hm.1, hm.2]
        cases e.masked <;> rfl
      case isFalse hm =>
        split
        case isTrue hnm =>
          simp only [Bool.and_eq_true, Bool.not_eq_true'] at hnm
          rw [hmask _ he, hbit, hnm.1, hnm.2]
          cases e.masked <;> rfl
        case isFalse hnm =>
          -- the masks differ, or nothing would have changed
          cases hsm : st.masked <;> cases newMasked <;> simp_all
    · rename_i hen
      rw [List.foldl_nil, hbit, hen]
      rfl

/-! ### The bytes of a table entry -/

theorem shiftLeft_eight_or_toNat (a : UInt32) (b : UInt8) (ha : a.toNat < 2 ^ 24) :
    ((a <<< 8) ||| b.toUInt32).toNat = a.toNat * 256 + b.toNat := by
  have hb : b.toNat < 2 ^ 8 := b.toNat_lt
  have h8 : (8 : UInt32).toNat % 32 = 8 := rfl
  rw [UInt32.toNat_or, UInt32.toNat_shiftLeft, UInt8.toNat_toUInt32, h8,
    Nat.mod_eq_of_lt (by rw [Nat.shiftLeft_eq]; omega), ← Nat.shiftLeft_add_eq_or_of_lt hb,
    Nat.shiftLeft_eq]

theorem toNat_toUInt8_shiftRight (v k : UInt32) (hk : k.toNat < 32) :
    (v >>> k).toUInt8.toNat = v.toNat / 2 ^ k.toNat % 256 := by
  rw [UInt32.toNat_toUInt8, UInt32.toNat_shiftRight, Nat.mod_eq_of_lt hk, Nat.shiftRight_eq_div_pow]

/-- The little-endian bytes of a double word read back as it. -/
theorem u32OfBytes_bytesOfU32 (v : UInt32) : u32OfBytes (bytesOfU32 v) = v := by
  have hv := v.toNat_lt
  have b0 : v.toUInt8.toNat = v.toNat % 256 := UInt32.toNat_toUInt8 v
  have b1 := toNat_toUInt8_shiftRight v 8 (by decide)
  have b2 := toNat_toUInt8_shiftRight v 16 (by decide)
  have b3 := toNat_toUInt8_shiftRight v 24 (by decide)
  simp only [UInt32.reduceToNat] at b1 b2 b3
  -- the accumulator of the fold, from the high byte down
  have h3 : ((0 : UInt32) <<< 8 ||| (v >>> 24).toUInt8.toUInt32).toNat = v.toNat / 2 ^ 24 % 256 := by
    rw [shiftLeft_eight_or_toNat _ _ (by simp), b3, UInt32.toNat_zero]
    omega
  have h2 : (((0 : UInt32) <<< 8 ||| (v >>> 24).toUInt8.toUInt32) <<< 8 |||
      (v >>> 16).toUInt8.toUInt32).toNat = v.toNat / 2 ^ 24 % 256 * 256 + v.toNat / 2 ^ 16 % 256 := by
    rw [shiftLeft_eight_or_toNat _ _ (by rw [h3]; omega), h3, b2]
  have h1 : ((((0 : UInt32) <<< 8 ||| (v >>> 24).toUInt8.toUInt32) <<< 8 |||
      (v >>> 16).toUInt8.toUInt32) <<< 8 ||| (v >>> 8).toUInt8.toUInt32).toNat =
      (v.toNat / 2 ^ 24 % 256 * 256 + v.toNat / 2 ^ 16 % 256) * 256 + v.toNat / 2 ^ 8 % 256 := by
    rw [shiftLeft_eight_or_toNat _ _ (by rw [h2]; omega), h2, b1]
  apply UInt32.toNat_inj.mp
  simp only [u32OfBytes, bytesOfU32, List.foldr]
  rw [shiftLeft_eight_or_toNat _ _ (by rw [h1]; omega), h1, b0]
  omega

namespace MsixTableEntry

theorem length_asSlice (e : MsixTableEntry) : e.asSlice.length = 16 := by
  simp [asSlice, bytesOfU32]

theorem ofSlice_asSlice (e : MsixTableEntry) : ofSlice e.asSlice = e := by
  have h := u32OfBytes_bytesOfU32
  simp only [bytesOfU32] at h
  simp [ofSlice, asSlice, bytesOfU32, h]

theorem ofSlice_vectorCtl_of_drop {A B : List UInt8} (h : B.drop 12 = A.drop 12) :
    (ofSlice B).vectorCtl = (ofSlice A).vectorCtl := by
  simp only [ofSlice, h]

theorem ofSlice_msg_of_take {A B : List UInt8} (h : B.take 12 = A.take 12) :
    (ofSlice B).msgAddrLo = (ofSlice A).msgAddrLo ∧ (ofSlice B).msgAddrHi = (ofSlice A).msgAddrHi ∧
      (ofSlice B).msgData = (ofSlice A).msgData := by
  have hn : ∀ n ≤ 12, B.take n = A.take n := fun n hn => by
    rw [← Nat.min_eq_left hn, ← List.take_take, h, List.take_take]
  have hd : ∀ k, k + 4 ≤ 12 → (B.drop k).take 4 = (A.drop k).take 4 := fun k hk => by
    have hB : (B.drop k).take 4 = (B.take (k + 4)).drop k := by rw [List.drop_take]; simp
    have hA : (A.drop k).take 4 = (A.take (k + 4)).drop k := by rw [List.drop_take]; simp
    rw [hB, hA, hn (k + 4) hk]
  simp only [ofSlice, hn 4 (by omega), hd 4 (by omega), hd 8 (by omega), and_self]

/-- A write of `data` at byte `mo` of the entry `e`, as `write_table` makes it. -/
theorem vectorCtl_write {e : MsixTableEntry} {mo : Nat} {data : List UInt8}
    (h : mo + data.length ≤ 12) :
    (ofSlice (e.asSlice.take mo ++ data ++ e.asSlice.drop (mo + data.length))).vectorCtl =
      e.vectorCtl := by
  have hlen : (e.asSlice.take mo ++ data).length = mo + data.length := by
    simp [length_asSlice]
    omega
  have hdrop : (e.asSlice.take mo ++ data ++ e.asSlice.drop (mo + data.length)).drop 12 =
      e.asSlice.drop 12 := by
    rw [List.drop_append, hlen, List.drop_eq_nil_of_le (by omega), List.nil_append, List.drop_drop]
    congr 1
    omega
  rw [ofSlice_vectorCtl_of_drop hdrop, ofSlice_asSlice]

theorem msg_write {e : MsixTableEntry} {mo : Nat} {data : List UInt8} (h : 12 ≤ mo) (h' : mo ≤ 16) :
    let c := ofSlice (e.asSlice.take mo ++ data ++ e.asSlice.drop (mo + data.length))
    c.msgAddrLo = e.msgAddrLo ∧ c.msgAddrHi = e.msgAddrHi ∧ c.msgData = e.msgData := by
  have hlen : (e.asSlice.take mo).length = mo := by
    simp [length_asSlice]
    omega
  have htake : (e.asSlice.take mo ++ data ++ e.asSlice.drop (mo + data.length)).take 12 =
      e.asSlice.take 12 := by
    rw [List.append_assoc, List.take_append_of_le_length (by omega), List.take_take]
    congr 1
    omega
  have := ofSlice_msg_of_take htake
  rw [ofSlice_asSlice] at this
  exact this

end MsixTableEntry

/-! ### What the manager keeps of a message -/

section Manager

variable {mgr mgr' : DeviceInterruptManager}

theorem setMsiConfig_ok {index : UInt32} {f : MsiIrqSourceConfig → MsiIrqSourceConfig}
    (h : mgr.setMsiConfig index f = (mgr', .ok ())) :
    ∃ c, mgr.msiConfig[index.toNat]? = some (.MsiIrq c) ∧
      mgr' = { mgr with msiConfig := mgr.msiConfig.set index.toNat (.MsiIrq (f c)) } := by
  unfold DeviceInterruptManager.setMsiConfig at h
  split at h
  case h_1 c hc =>
    simp only [Prod.mk.injEq] at h
    exact ⟨c, hc, h.1.symm⟩
  case h_2 => simp at h

/-- The three setters of a vector's message, one after another, as `set_msg_ctl` and
`write_table` call them. -/
theorem setMsiMessage_ok {index hi lo data : UInt32} {m₁ m₂ : DeviceInterruptManager}
    (h₁ : mgr.setMsiHighAddress index hi = (m₁, .ok ()))
    (h₂ : m₁.setMsiLowAddress index lo = (m₂, .ok ()))
    (h₃ : m₂.setMsiData index data = (mgr', .ok ())) :
    ∃ c, mgr.msiConfig[index.toNat]? = some (.MsiIrq c) ∧
      mgr' = { mgr with
        msiConfig := mgr.msiConfig.set index.toNat (.MsiIrq ⟨hi, lo, data, c.msgCtl, c.deviceId⟩) } := by
  obtain ⟨c, hc, rfl⟩ := setMsiConfig_ok h₁
  obtain ⟨c₂, hc₂, rfl⟩ := setMsiConfig_ok h₂
  obtain ⟨c₃, hc₃, rfl⟩ := setMsiConfig_ok h₃
  have hlt : index.toNat < mgr.msiConfig.length := (List.getElem?_eq_some_iff.mp hc).1
  simp only [List.getElem?_set_self hlt, Option.some.injEq, InterruptSourceConfig.MsiIrq.injEq]
    at hc₂
  simp only [List.set_set, List.getElem?_set_self (by simpa using hlt), Option.some.injEq,
    InterruptSourceConfig.MsiIrq.injEq] at hc₃
  subst hc₂ hc₃
  exact ⟨c, hc, by simp⟩

theorem programmed_set_self {i : Nat} {e : MsixTableEntry} {c : MsiIrqSourceConfig}
    (hlt : i < mgr.msiConfig.length) :
    Programmed { mgr with
      msiConfig := mgr.msiConfig.set i (.MsiIrq ⟨e.msgAddrHi, e.msgAddrLo, e.msgData, c.msgCtl, c.deviceId⟩) }
      i e :=
  ⟨_, List.getElem?_set_self hlt, rfl, rfl, rfl⟩

/-- `programVectors` from `idx` gives every vector its message and leaves the vectors below
`idx`. -/
theorem programVectors_ok (es : List MsixTableEntry) :
    ∀ (idx : Nat) (mgr mgr' : DeviceInterruptManager), idx + es.length ≤ 2 ^ 32 →
      MsixState.programVectors mgr idx es = (mgr', .ok ()) →
      (∀ j, j < idx → mgr'.msiConfig[j]? = mgr.msiConfig[j]?) ∧
        ∀ k e, es[k]? = some e → Programmed mgr' (idx + k) e := by
  induction es with
  | nil =>
      intro idx mgr mgr' _ h
      simp only [MsixState.programVectors, Prod.mk.injEq] at h
      obtain ⟨rfl, -⟩ := h
      exact ⟨fun _ _ => rfl, fun _ _ he => by simp at he⟩
  | cons v vs ih =>
      intro idx mgr mgr' hlen h
      have hidx : (UInt32.ofNat idx).toNat = idx := by
        rw [UInt32.toNat_ofNat']
        exact Nat.mod_eq_of_lt (by simp at hlen; omega)
      unfold MsixState.programVectors at h
      split at h
      · simp at h
      rename_i m₁ h₁
      split at h
      · simp at h
      rename_i m₂ h₂
      split at h
      · simp at h
      rename_i m₃ h₃
      obtain ⟨c, hc, rfl⟩ := setMsiMessage_ok h₁ h₂ h₃
      rw [hidx] at hc
      have hlt : idx < mgr.msiConfig.length := (List.getElem?_eq_some_iff.mp hc).1
      obtain ⟨hframe, hprog⟩ := ih (idx + 1) _ _ (by simp at hlen ⊢; omega) h
      refine ⟨fun j hj => ?_, fun k e he => ?_⟩
      · rw [hframe j (by omega)]
        simp [hidx, List.getElem?_set_ne (Ne.symm (Nat.ne_of_lt hj))]
      · cases k with
        | zero =>
            simp only [List.getElem?_cons_zero, Option.some.injEq] at he
            subst he
            obtain ⟨c', hc', h1, h2, h3⟩ := programmed_set_self (e := v) (c := c) hlt
            refine ⟨c', ?_, h1, h2, h3⟩
            rw [Nat.add_zero, hframe idx (by omega)]
            simpa [hidx] using hc'
        | succ k =>
            rw [show idx + (k + 1) = idx + 1 + k by omega]
            exact hprog k e (by simpa using he)

theorem Programmed.of_msiConfig {i : Nat} {e : MsixTableEntry}
    (h : mgr'.msiConfig[i]? = mgr.msiConfig[i]?) (hp : Programmed mgr i e) : Programmed mgr' i e := by
  rw [Programmed, h]
  exact hp

/-- `enable` changes the stage and the mode, never the MSI configuration. -/
theorem enable_msiConfig {g : Bool} {r : Except Error Unit} (h : mgr.enable g = .ok (mgr', r)) :
    mgr'.msiConfig = mgr.msiConfig := by
  unfold DeviceInterruptManager.enable at h
  split at h
  · simp only [Except.ok.injEq, Prod.mk.injEq] at h
    rw [h.1]
  generalize hx : (if (mgr.mode == .Disabled && mgr.modeIdx .LegacyIrq != usizeMax) = true then
    mgr.setWorkingMode .LegacyIrq else (mgr, .ok ())) = x at h
  obtain ⟨m₁, r₁⟩ := x
  have h₁ : m₁.msiConfig = mgr.msiConfig := by
    split at hx
    · have := congrArg (·.1.msiConfig) hx
      simp only [DeviceInterruptManager.setWorkingMode_msiConfig] at this
      exact this.symm
    · obtain ⟨rfl, -⟩ := Prod.mk.inj hx
      rfl
  rw [← h₁]
  dsimp only at h
  split at h
  · simp only [Except.ok.injEq, Prod.mk.injEq] at h
    rw [h.1]
  split at h
  · simp only [Except.ok.injEq, Prod.mk.injEq] at h
    rw [h.1]
  simp only [bind, Except.bind] at h
  split at h
  · simp at h
  split at h
  · simp at h
  split at h
  · simp only [Except.ok.injEq, Prod.mk.injEq] at h
    rw [← h.1]
  · simp only [Except.ok.injEq, Prod.mk.injEq] at h
    rw [h.1]

end Manager

namespace MsixState

theorem andThen_ok {x : DeviceInterruptManager × Except Error Unit}
    {f : DeviceInterruptManager → Option (DeviceInterruptManager × Except Error Unit)}
    {mgr : DeviceInterruptManager} (h : andThen x f = some (mgr, .ok ())) :
    ∃ m₁, x = (m₁, .ok ()) ∧ f m₁ = some (mgr, .ok ()) := by
  unfold andThen at h
  split at h
  case h_1 m₁ => exact ⟨m₁, rfl, h⟩
  case h_2 => simp at h

/-- The `(false, true)` arm that returns `Ok` leaves every vector with its message. -/
theorem enableMsix_programmed {st : MsixState} {newMasked : Bool} {mgr mgr' : DeviceInterruptManager}
    {kvm : GroupCalls} (hlen : st.tableEntries.length ≤ 2 ^ 32)
    (h : st.enableMsix newMasked mgr kvm = some (mgr', .ok ())) :
    ∀ i e, st.tableEntries[i]? = some e → Programmed mgr' i e := by
  unfold enableMsix at h
  obtain ⟨⟨m₁, r₁⟩, -, h⟩ := Option.bind_eq_some_iff.mp h
  obtain ⟨m₂, -, h⟩ := andThen_ok h
  obtain ⟨m₃, -, h⟩ := andThen_ok h
  obtain ⟨m₄, h₄, h⟩ := andThen_ok h
  obtain ⟨⟨m₅, r₅⟩, h₅, h⟩ := Option.bind_eq_some_iff.mp h
  obtain ⟨m₆, hm₆, h⟩ := andThen_ok h
  have hprog := (programVectors_ok st.tableEntries 0 m₃ m₄ (by omega) h₄).2
  have henable : m₅.msiConfig = m₄.msiConfig := by
    cases he : m₄.enable kvm.enableOk with
    | error p => simp [he, Except.toOption] at h₅
    | ok res =>
        simp only [he, Except.toOption, Option.some.injEq] at h₅
        exact enable_msiConfig (h₅ ▸ he)
  obtain ⟨rfl, -⟩ := Prod.mk.inj hm₆
  have hmgr : mgr' = m₅ := by
    simp only [bind, Option.bind_eq_some_iff] at h
    obtain ⟨o, -, h⟩ := h
    split at h
    · simp only [pure, Option.some.injEq, Prod.mk.injEq] at h
      exact h.1.symm
    · simp at h
  intro i e he
  rw [hmgr]
  exact (by simpa using hprog i e he : Programmed m₄ i e).of_msiConfig (by rw [henable])

/-- The `(true, true)` arm calls the group only. -/
theorem maskMsix_mgr {st : MsixState} {newMasked : Bool} {mgr mgr' : DeviceInterruptManager}
    {kvm : GroupCalls} {r : Except Error Unit} (h : st.maskMsix newMasked mgr kvm = some (mgr', r)) :
    mgr' = mgr := by
  unfold maskMsix at h
  simp only [bind, Option.bind_eq_some_iff] at h
  obtain ⟨o, -, h⟩ := h
  split at h
  · split at h
    · simp only [pure, Option.some.injEq, Prod.mk.injEq] at h
      exact h.1.symm
    · split at h <;> simp only [pure, Option.some.injEq, Prod.mk.injEq] at h <;> exact h.1.symm
  · simp at h

/-- A successful `set_msg_ctl` takes the new bits; the manager is changed only by the arms
that reset it. -/
theorem setMsgCtl_ok {st st' : MsixState} {reg : UInt16} {mgr mgr' : DeviceInterruptManager}
    {kvm : GroupCalls} (h : st.setMsgCtl reg mgr kvm = some (st', mgr', .ok ())) :
    st' = { st with enabled := reg &&& msixEnableMask != 0, masked := reg &&& functionMaskMask != 0 } ∧
      (st.enabled = (reg &&& msixEnableMask != 0) → mgr' = mgr) ∧
      (st.enabled = false → (reg &&& msixEnableMask != 0) = true →
        st.enableMsix (reg &&& functionMaskMask != 0) mgr kvm = some (mgr', .ok ())) := by
  unfold setMsgCtl at h
  dsimp only at h
  generalize (reg &&& msixEnableMask != 0) = newEnabled at h ⊢
  generalize (reg &&& functionMaskMask != 0) = newMasked at h ⊢
  by_cases hsame : (st.enabled == newEnabled && st.masked == newMasked) = true
  · rw [if_pos hsame] at h
    simp only [Bool.and_eq_true, beq_iff_eq] at hsame
    simp only [pure, Option.some.injEq, Prod.mk.injEq] at h
    obtain ⟨rfl, rfl, -⟩ := h
    refine ⟨by rw [← hsame.1, ← hsame.2], fun _ => rfl, fun he hne => ?_⟩
    rw [hsame.1, hne] at he
    exact absurd he (by decide)
  · rw [if_neg hsame] at h
    -- every arm ends in the same match on the result of its calls
    split at h
    all_goals
      rename_i hen
      simp only [bind, Option.bind_eq_some_iff] at h
      obtain ⟨⟨m₁, r₁⟩, harm, h⟩ := h
      obtain e | u := r₁
      · simp [pure] at h
      simp only [pure, Option.some.injEq, Prod.mk.injEq] at h
      obtain ⟨rfl, rfl, -⟩ := h
    · exact ⟨rfl, fun h => absurd (hen.symm.trans h) (by decide), fun _ _ => harm⟩
    · exact ⟨rfl, fun h => absurd (hen.symm.trans h) (by decide),
        fun h => absurd (hen.symm.trans h) (by decide)⟩
    · exact ⟨rfl, fun _ => maskMsix_mgr harm, fun h => absurd (hen.symm.trans h) (by decide)⟩
    · simp only [Option.some.injEq, Prod.mk.injEq] at harm
      exact ⟨rfl, fun _ => harm.1.symm, fun _ h => absurd h (by decide)⟩

/-- A table write that does not panic writes the entry `offset / 16` and asks the manager for
the calls of its two blocks. -/
theorem writeTable_eq_some {st st' : MsixState} {offset : UInt64} {data : List UInt8}
    {ops : List IntrOp} (h : st.writeTable offset data = some (st', ops)) :
    ∃ old config, st.tableEntries[offset.toNat / 16]? = some old ∧
      offset.toNat % 16 + data.length ≤ 16 ∧
      config = MsixTableEntry.ofSlice (old.asSlice.take (offset.toNat % 16) ++ data ++
        old.asSlice.drop (offset.toNat % 16 + data.length)) ∧
      st' = { st with tableEntries := st.tableEntries.set (offset.toNat / 16) config } ∧
      ops = (if st.enabled ∧ offset.toNat % 16 < 0xc then
          [IntrOp.setMsiHighAddress (UInt32.ofNat (offset.toNat / 16)) config.msgAddrHi,
            .setMsiLowAddress (UInt32.ofNat (offset.toNat / 16)) config.msgAddrLo,
            .setMsiData (UInt32.ofNat (offset.toNat / 16)) config.msgData,
            .update (UInt32.ofNat (offset.toNat / 16))] else []) ++
        (if st.enabled ∧ 0xc ≤ offset.toNat % 16 + data.length ∧ !st.masked then
          if !old.masked && config.masked then [IntrOp.mask (UInt32.ofNat (offset.toNat / 16))]
          else if old.masked && !config.masked then [IntrOp.unmask (UInt32.ofNat (offset.toNat / 16))]
          else []
        else []) := by
  have hmod : msixTableEntriesModulo.toNat = 16 := rfl
  simp only [writeTable, UInt64.toNat_div, UInt64.toNat_mod, hmod] at h
  split at h
  · simp at h
  rename_i hassert
  split at h
  · split at h
    · simp at h
    rename_i old hold
    simp only [Option.some.injEq, Prod.mk.injEq] at h
    obtain ⟨rfl, rfl⟩ := h
    exact ⟨old, _, hold, by omega, rfl, rfl, rfl⟩
  · rename_i hout
    simp at hassert
    omega

end MsixState

/-! ### The manager calls of a table write -/

namespace IntrOp

variable {mgr mgr' : DeviceInterruptManager} {bits bits' : Nat → Bool}

/- The equations of `apply` for the calls a table write makes, and of `applyAll`: the proofs
below rewrite with these rather than unfold the definitions. -/

theorem apply_setMsiHighAddress (index value : UInt32) :
    apply mgr bits (.setMsiHighAddress index value) =
      match mgr.setMsiHighAddress index value with
      | (mgr, .ok ()) => some (mgr, bits)
      | _ => none := rfl

theorem apply_setMsiLowAddress (index value : UInt32) :
    apply mgr bits (.setMsiLowAddress index value) =
      match mgr.setMsiLowAddress index value with
      | (mgr, .ok ()) => some (mgr, bits)
      | _ => none := rfl

theorem apply_setMsiData (index value : UInt32) :
    apply mgr bits (.setMsiData index value) =
      match mgr.setMsiData index value with
      | (mgr, .ok ()) => some (mgr, bits)
      | _ => none := rfl

theorem apply_update (index : UInt32) :
    apply mgr bits (.update index) =
      match mgr.update index true with
      | .ok (.ok ()) => some (mgr, bits)
      | _ => none := rfl

theorem apply_mask (index : UInt32) :
    apply mgr bits (.mask index) =
      match mgr.getGroup with
      | .ok (some _) => some (mgr, Function.update bits index.toNat true)
      | _ => none := rfl

theorem apply_unmask (index : UInt32) :
    apply mgr bits (.unmask index) =
      match mgr.getGroup with
      | .ok (some _) => some (mgr, Function.update bits index.toNat false)
      | _ => none := rfl

theorem applyAll_nil : applyAll mgr bits [] = some (mgr, bits) := rfl

theorem applyAll_cons (op : IntrOp) (ops : List IntrOp) :
    applyAll mgr bits (op :: ops) =
      (op.apply mgr bits).bind fun (mgr, bits) => applyAll mgr bits ops := rfl

theorem applyAll_append {ops ops' : List IntrOp}
    (h : applyAll mgr bits (ops ++ ops') = some (mgr', bits')) :
    ∃ m₁ b₁, applyAll mgr bits ops = some (m₁, b₁) ∧ applyAll m₁ b₁ ops' = some (mgr', bits') := by
  induction ops generalizing mgr bits with
  | nil => exact ⟨mgr, bits, rfl, h⟩
  | cons op ops ih =>
      simp only [List.cons_append, applyAll_cons, Option.bind_eq_some_iff] at h ⊢
      obtain ⟨⟨m₁, b₁⟩, h₁, h⟩ := h
      obtain ⟨m₂, b₂, h₂, h₃⟩ := ih h
      exact ⟨m₂, b₂, ⟨(m₁, b₁), h₁, h₂⟩, h₃⟩

/-- The four calls that give a vector its message: the group's mask bits stay. -/
theorem applyAll_message {idx hi lo data : UInt32}
    (h : applyAll mgr bits [.setMsiHighAddress idx hi, .setMsiLowAddress idx lo, .setMsiData idx data,
      .update idx] = some (mgr', bits')) :
    bits' = bits ∧ ∃ c, mgr.msiConfig[idx.toNat]? = some (.MsiIrq c) ∧
      mgr' = { mgr with
        msiConfig := mgr.msiConfig.set idx.toNat (.MsiIrq ⟨hi, lo, data, c.msgCtl, c.deviceId⟩) } := by
  simp only [applyAll_cons, applyAll_nil, apply_setMsiHighAddress, apply_setMsiLowAddress,
    apply_setMsiData, apply_update, Option.bind_eq_some_iff] at h
  obtain ⟨⟨m₁, b₁⟩, h₁, ⟨m₂, b₂⟩, h₂, ⟨m₃, b₃⟩, h₃, ⟨m₄, b₄⟩, h₄, h⟩ := h
  split at h₁
  case h_2 => simp at h₁
  case h_1 n₁ hn₁ =>
    simp only [Option.some.injEq, Prod.mk.injEq] at h₁
    obtain ⟨rfl, rfl⟩ := h₁
    split at h₂
    case h_2 => simp at h₂
    case h_1 n₂ hn₂ =>
      simp only [Option.some.injEq, Prod.mk.injEq] at h₂
      obtain ⟨rfl, rfl⟩ := h₂
      split at h₃
      case h_2 => simp at h₃
      case h_1 n₃ hn₃ =>
        simp only [Option.some.injEq, Prod.mk.injEq] at h₃
        obtain ⟨rfl, rfl⟩ := h₃
        split at h₄
        case h_2 => simp at h₄
        case h_1 =>
          simp only [Option.some.injEq, Prod.mk.injEq] at h₄ h
          obtain ⟨rfl, rfl⟩ := h₄
          obtain ⟨rfl, rfl⟩ := h
          exact ⟨rfl, setMsiMessage_ok hn₁ hn₂ hn₃⟩

theorem applyAll_mask {idx : UInt32} (h : applyAll mgr bits [.mask idx] = some (mgr', bits')) :
    mgr' = mgr ∧ bits' = Function.update bits idx.toNat true := by
  simp only [applyAll_cons, applyAll_nil, apply_mask, Option.bind_eq_some_iff] at h
  obtain ⟨⟨m₁, b₁⟩, h₁, h⟩ := h
  split at h₁
  · simp only [Option.some.injEq, Prod.mk.injEq] at h₁ h
    obtain ⟨rfl, rfl⟩ := h₁
    exact ⟨h.1.symm, h.2.symm⟩
  · simp at h₁

theorem applyAll_unmask {idx : UInt32} (h : applyAll mgr bits [.unmask idx] = some (mgr', bits')) :
    mgr' = mgr ∧ bits' = Function.update bits idx.toNat false := by
  simp only [applyAll_cons, applyAll_nil, apply_unmask, Option.bind_eq_some_iff] at h
  obtain ⟨⟨m₁, b₁⟩, h₁, h⟩ := h
  split at h₁
  · simp only [Option.some.injEq, Prod.mk.injEq] at h₁ h
    obtain ⟨rfl, rfl⟩ := h₁
    exact ⟨h.1.symm, h.2.symm⟩
  · simp at h₁

end IntrOp

/-! ### The invariant of a run -/

namespace MsixDevice

/-- What every call that returns `Ok` keeps: the table within the vector count, the mask bit of
every vector as the state says, and while MSI-X is enabled every vector's message with the
manager. -/
structure MaskInv (d : MsixDevice) : Prop where
  length_le : d.state.tableEntries.length ≤ maxMsixVectorsPerDevice
  masked : ∀ i e, d.state.tableEntries[i]? = some e →
    d.maskBits i = (d.state.enabled && (d.state.masked || e.masked))
  programmed : d.state.enabled = true → ∀ i e, d.state.tableEntries[i]? = some e →
    Programmed d.mgr i e

theorem MaskInv.setMsgCtl {d d' : MsixDevice} {reg : UInt16} (hd : d.MaskInv)
    (h : d.step (.setMsgCtl reg) = some d') : d'.MaskInv := by
  rw [step_setMsgCtl] at h
  split at h
  case h_2 => simp at h
  case h_1 st mgr hset =>
    simp only [Option.some.injEq] at h
    subst h
    obtain ⟨rfl, hsame, hon⟩ := MsixState.setMsgCtl_ok hset
    refine ⟨hd.length_le, fun i e he => setMsgCtlGroupCalls_bit he (hd.masked i e he), ?_⟩
    intro hen i e he
    cases hold : d.state.enabled
    · -- enabled by this call: the `(false, true)` arm gave every vector its message
      exact MsixState.enableMsix_programmed (Nat.le_trans hd.length_le (by decide)) (hon hold hen)
        i e he
    · rw [hsame (hold.trans hen.symm)]
      exact hd.programmed hold i e he

theorem MaskInv.writeTable {d d' : MsixDevice} {offset : UInt64} {data : List UInt8}
    (hd : d.MaskInv) (h : d.step (.writeTable offset data) = some d') : d'.MaskInv := by
  rw [step_writeTable] at h
  split at h
  case h_2 => simp at h
  case h_1 st ops hwrite =>
  obtain ⟨⟨mgr', bits'⟩, happly, rfl⟩ := Option.map_eq_some_iff.mp h
  obtain ⟨old, config, hold, hfit, hconfig, rfl, rfl⟩ := MsixState.writeTable_eq_some hwrite
  obtain ⟨m₁, b₁, hvec, hmask⟩ := IntrOp.applyAll_append happly
  generalize offset.toNat / 16 = index at *
  generalize offset.toNat % 16 = mo at *
  have hlt : index < d.state.tableEntries.length := (List.getElem?_eq_some_iff.mp hold).1
  have hidx : (UInt32.ofNat index).toNat = index := by
    rw [UInt32.toNat_ofNat']
    exact Nat.mod_eq_of_lt (by have := hd.length_le; unfold maxMsixVectorsPerDevice at this; omega)
  have hctl : mo + data.length ≤ 12 → config.vectorCtl = old.vectorCtl := fun hle =>
    hconfig ▸ MsixTableEntry.vectorCtl_write hle
  -- the block of the message: the bits stay, and vector `index` gets the new message
  have hblock : b₁ = d.maskBits ∧ (∀ j, j ≠ index → m₁.msiConfig[j]? = d.mgr.msiConfig[j]?) ∧
      (d.state.enabled = true → Programmed m₁ index config) := by
    split at hvec
    case isTrue hon =>
      obtain ⟨rfl, c, hc, rfl⟩ := IntrOp.applyAll_message hvec
      rw [hidx] at hc ⊢
      refine ⟨rfl, fun j hj => by simp [List.getElem?_set_ne (Ne.symm hj)], fun _ => ?_⟩
      exact programmed_set_self (List.getElem?_eq_some_iff.mp hc).1
    case isFalse hoff =>
      simp only [IntrOp.applyAll_nil, Option.some.injEq, Prod.mk.injEq] at hvec
      obtain ⟨rfl, rfl⟩ := hvec
      refine ⟨rfl, fun _ _ => rfl, fun hen => ?_⟩
      have hmo : 12 ≤ mo := by simp only [hen, true_and, not_lt] at hoff; exact hoff
      obtain ⟨c, hc, h1, h2, h3⟩ := hd.programmed hen index old hold
      have hmsg := hconfig ▸ @MsixTableEntry.msg_write old mo data hmo (by omega)
      exact ⟨c, hc, h1.trans hmsg.2.1.symm, h2.trans hmsg.1.symm, h3.trans hmsg.2.2.symm⟩
  obtain ⟨rfl, hframe, hprog⟩ := hblock
  -- the block of the mask: only the bit of `index`, and only while the function is unmasked
  have hbits : mgr' = m₁ ∧ (∀ j, j ≠ index → bits' j = d.maskBits j) ∧
      bits' index = (d.state.enabled && (d.state.masked || config.masked)) := by
    have hbit := hd.masked index old hold
    split at hmask
    case isTrue hon =>
      obtain ⟨hen, hle, hm⟩ := hon
      simp only [Bool.not_eq_true'] at hm
      rw [hen, hm] at hbit ⊢
      split at hmask
      case isTrue hup =>
        obtain ⟨rfl, rfl⟩ := IntrOp.applyAll_mask hmask
        simp only [Bool.and_eq_true, Bool.not_eq_true'] at hup
        refine ⟨rfl, fun j hj => by rw [hidx, Function.update_of_ne hj], ?_⟩
        simp [hidx, hup.2]
      case isFalse hup =>
        split at hmask
        case isTrue hdown =>
          obtain ⟨rfl, rfl⟩ := IntrOp.applyAll_unmask hmask
          simp only [Bool.and_eq_true, Bool.not_eq_true'] at hdown
          refine ⟨rfl, fun j hj => by rw [hidx, Function.update_of_ne hj], ?_⟩
          simp [hidx, hdown.2]
        case isFalse hdown =>
          simp only [IntrOp.applyAll_nil, Option.some.injEq, Prod.mk.injEq] at hmask
          obtain ⟨rfl, rfl⟩ := hmask
          refine ⟨rfl, fun _ _ => rfl, ?_⟩
          rw [hbit]
          cases hc : config.masked <;> cases ho : old.masked <;> simp_all
    case isFalse hoff =>
      simp only [IntrOp.applyAll_nil, Option.some.injEq, Prod.mk.injEq] at hmask
      obtain ⟨rfl, rfl⟩ := hmask
      refine ⟨rfl, fun _ _ => rfl, ?_⟩
      rw [hbit]
      cases hen : d.state.enabled
      · rfl
      · cases hm : d.state.masked
        · -- the write ends before the vector control, which keeps its mask bit
          have hle : mo + data.length ≤ 12 := by
            rw [hen, hm] at hoff
            simp at hoff
            omega
          simp [MsixTableEntry.masked, hctl hle]
        · rfl
  obtain ⟨rfl, hother, hat⟩ := hbits
  refine ⟨by simpa using hd.length_le, fun j e he => ?_, fun hen j e he => ?_⟩
  · dsimp only at he ⊢
    by_cases hj : j = index
    · subst hj
      rw [List.getElem?_set_self hlt, Option.some.injEq] at he
      subst he
      exact hat
    · rw [List.getElem?_set_ne (Ne.symm hj)] at he
      rw [hother j hj]
      exact hd.masked j e he
  · dsimp only at he hen ⊢
    by_cases hj : j = index
    · subst hj
      rw [List.getElem?_set_self hlt, Option.some.injEq] at he
      subst he
      exact hprog hen
    · rw [List.getElem?_set_ne (Ne.symm hj)] at he
      exact (hd.programmed hen j e he).of_msiConfig (hframe j hj)

theorem MaskInv.step {d d' : MsixDevice} {call : MsixCall} (hd : d.MaskInv)
    (h : d.step call = some d') : d'.MaskInv := by
  cases call with
  | setMsgCtl reg => exact hd.setMsgCtl h
  | writeTable offset data => exact hd.writeTable h

theorem MaskInv.run {d d' : MsixDevice} {calls : List MsixCall} (hd : d.MaskInv)
    (h : d.run calls = some d') : d'.MaskInv := by
  induction calls generalizing d with
  | nil =>
      simp only [MsixDevice.run, Option.some.injEq] at h
      exact h ▸ hd
  | cons call calls ih =>
      simp only [MsixDevice.run, bind, Option.bind_eq_some_iff] at h
      obtain ⟨d₁, h₁, h⟩ := h
      exact ih (hd.step h₁) h

/-- A new state with a group whose vectors are all unmasked, whatever the manager. -/
theorem maskInv_new {n : UInt16} {st : MsixState} (hnew : MsixState.new n = some st)
    (mgr : DeviceInterruptManager) : (⟨st, mgr, fun _ => false⟩ : MsixDevice).MaskInv := by
  unfold MsixState.new at hnew
  split at hnew
  case isFalse => simp at hnew
  case isTrue hle =>
    simp only [Option.some.injEq] at hnew
    subst hnew
    refine ⟨by simpa using hle, fun _ _ _ => rfl, ?_⟩
    intro hen
    cases hen

end MsixDevice

/-- Along every run of `set_msg_ctl` and `write_table` calls that return `Ok`, from a new
MSI-X state and a group with no vector masked, a vector is masked in the group exactly when
MSI-X is enabled and the function or the vector's own entry is masked; and while MSI-X is
enabled the manager holds every vector's table message. -/
theorem msix_group_follows_table {n : UInt16} {st : MsixState} {mgr : DeviceInterruptManager}
    {calls : List MsixCall} {d : MsixDevice} (hnew : MsixState.new n = some st)
    (hrun : (⟨st, mgr, fun _ => false⟩ : MsixDevice).run calls = some d) :
    ∀ i e, d.state.tableEntries[i]? = some e →
      d.maskBits i = (d.state.enabled && (d.state.masked || e.masked)) ∧
        (d.state.enabled = true → Programmed d.mgr i e) := by
  have hinv := (MsixDevice.maskInv_new hnew mgr).run hrun
  exact fun i e he => ⟨hinv.masked i e he, fun hen => hinv.programmed hen i e he⟩

/-- A new interrupt manager of one PCI MSI-X interrupt, and the device after the low address
word of its only vector is written while MSI-X is disabled. -/
def oneVectorManager : DeviceInterruptManager := DeviceInterruptManager.new [.MsiIrq .PciMsix 24 1]

def loWrittenDevice : MsixDevice := ⟨⟨[⟨1, 0, 0, 0⟩], false, false⟩, oneVectorManager, fun _ => false⟩

theorem disabled_write_run :
    MsixDevice.run ⟨⟨[default], false, false⟩, oneVectorManager, fun _ => false⟩
      [.writeTable 0 [1, 0, 0, 0]] = some loWrittenDevice := rfl

theorem msix_group_follows_table_after_write :
    MsixState.new 1 = some ⟨[default], false, false⟩ ∧
      MsixDevice.run ⟨⟨[default], false, false⟩, oneVectorManager, fun _ => false⟩
        [.writeTable 0 [1, 0, 0, 0]] = some loWrittenDevice ∧
      ∀ i e, loWrittenDevice.state.tableEntries[i]? = some e →
        loWrittenDevice.maskBits i =
            (loWrittenDevice.state.enabled && (loWrittenDevice.state.masked || e.masked)) ∧
          (loWrittenDevice.state.enabled = true → Programmed loWrittenDevice.mgr i e) :=
  have hnew : MsixState.new 1 = some ⟨[default], false, false⟩ := rfl
  ⟨hnew, disabled_write_run, msix_group_follows_table hnew disabled_write_run⟩

/-- While MSI-X is disabled, `write_table` changes the entry but not the manager's message:
the manager keeps the default configuration that `new` gave the vector. -/
theorem disabled_write_table_keeps_stale_message :
    ∃ d, MsixDevice.run ⟨⟨[default], false, false⟩, oneVectorManager, fun _ => false⟩
        [.writeTable 0 [1, 0, 0, 0]] = some d ∧ d.state.enabled = false ∧
      d.state.tableEntries[0]? = some ⟨1, 0, 0, 0⟩ ∧ ¬ Programmed d.mgr 0 ⟨1, 0, 0, 0⟩ := by
  refine ⟨loWrittenDevice, disabled_write_run, rfl, rfl, ?_⟩
  rintro ⟨c, hc, -, hlo, -⟩
  have hcfg : loWrittenDevice.mgr.msiConfig[0]? = some (.MsiIrq .default) := by decide
  rw [hcfg, Option.some.injEq, InterruptSourceConfig.MsiIrq.injEq] at hc
  subst hc
  simp [MsiIrqSourceConfig.default] at hlo

end KataContainers.Pci
