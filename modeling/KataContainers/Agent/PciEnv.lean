import KataContainers.Lib.RustStd

/-!
# PCI addresses in the environment of a container

`pci::Address` of the agent is `DDDD:BB:SS.F`, read by `from_str` with
`from_str_radix(_, 16)` for each field (the function may be left out, and is then 0) and
printed by `Display` as `{:04x}:{:02x}:{:02x}.{:01x}`. `update_env_pci` rewrites the
`PCIDEVICE_<r>` variables that the SR-IOV device plugin sets, in two passes over the OCI
environment: the first translates each listed host address through the container's host to
guest map and records, for `PCIDEVICE_<r>_INFO`, the host string to guest string pairs; the
second applies `str::replace` once per pair to each `_INFO` variable, in the order in which its
`HashMap` yields them. That order is an input here. Environment entries are strings; the first
pass changes entries in place, so entries before an error stay changed.
-/

namespace KataContainers.Agent

open RustStd

def slotBits : UInt8 := 5

def slotMax : UInt8 := (1 <<< slotBits) - 1

def functionBits : UInt8 := 3

def functionMax : UInt8 := (1 <<< functionBits) - 1

/-- `SlotFn(u8)`: the slot in the high five bits, the function in the low three. -/
structure SlotFn where
  val : UInt8
deriving DecidableEq, Repr

namespace SlotFn

/-- `SlotFn::new` on two `isize`s. -/
def new (ss f : Int) : Except String SlotFn :=
  if 0 ≤ ss ∧ ss ≤ slotMax.toNat then
    if 0 ≤ f ∧ f ≤ functionMax.toNat then
      .ok ⟨(ss.toNat.toUInt8 <<< functionBits) ||| f.toNat.toUInt8⟩
    else .error s!"PCI function {f} should be in range [0..0x7]"
  else .error s!"PCI slot {ss} should be in range [0..0x1f]"

def slot (s : SlotFn) : UInt8 := s.val >>> functionBits

def function (s : SlotFn) : UInt8 := s.val &&& functionMax

def fromStr (s : List Char) : Except String SlotFn := do
  match s.splitOn '.' with
  | [slot] =>
      let slot ← (fromStrRadix16Signed 64 slot).mapError IntErrorKind.description
      new slot 0
  | [slot, func] =>
      let slot ← (fromStrRadix16Signed 64 slot).mapError IntErrorKind.description
      let func ← (fromStrRadix16Signed 64 func).mapError IntErrorKind.description
      new slot func
  | _ => .error ("PCI slot/function " ++ String.ofList s ++ " should have the format SS.F")

def toString (s : SlotFn) : List Char :=
  formatHex 2 s.slot.toNat ++ '.' :: formatHex 1 s.function.toNat

end SlotFn

structure Address where
  domain : UInt16
  bus : UInt8
  slotfn : SlotFn
deriving DecidableEq, Repr

namespace Address

def fromStr (s : List Char) : Except String Address := do
  match s.splitOn ':' with
  | [domain, bus, slotfn] =>
      let domain ← (fromStrRadix16 16 domain).mapError IntErrorKind.description
      let bus ← (fromStrRadix16 8 bus).mapError IntErrorKind.description
      let slotfn ← SlotFn.fromStr slotfn
      pure ⟨domain.toUInt16, bus.toUInt8, slotfn⟩
  | _ => .error ("PCI address " ++ String.ofList s ++ " should have the format DDDD:BB:SS.F")

/-- `Display for Address`. -/
def toString (a : Address) : List Char :=
  formatHex 4 a.domain.toNat ++ ':' :: formatHex 2 a.bus.toNat ++ ':' :: a.slotfn.toString

example : fromStr "0000:3b:01".toList = .ok ⟨0, 0x3b, ⟨8⟩⟩ := by decide
example : toString ⟨0, 0x3b, ⟨8⟩⟩ = "0000:3b:01.0".toList := by decide

end Address

/-- `HashMap::insert`: the entry of `k` replaced, or added. -/
def mapInsert {α : Type} (m : List (List Char × α)) (k : List Char) (v : α) :
    List (List Char × α) :=
  (k, v) :: m.filter (·.1 ≠ k)

def pcideviceKey : List Char := "PCIDEVICE_".toList

def infoSuffix : List Char := "_INFO".toList

/-- The loop over `val.split(',')` of one `PCIDEVICE_<r>` variable: the guest addresses in order,
and the map of host strings to guest strings. -/
def translateAddrs (cid : String) (name : List Char)
    (pcimap : List (String × List (Address × Address))) :
    List (List Char) → List (List Char) → List (List Char × List Char) →
      Except String (List (List Char) × List (List Char × List Char))
  | [], guestAddrs, addrMap => .ok (guestAddrs, addrMap)
  | hostAddrStr :: rest, guestAddrs, addrMap =>
      match Address.fromStr hostAddrStr with
      | .error _ => .error ("Can't parse " ++ String.ofList name ++ " environment variable")
      | .ok hostAddr =>
          match pcimap.lookup cid with
          | none => .error ("No PCI mapping found for container " ++ cid)
          | some hostGuest =>
              match hostGuest.lookup hostAddr with
              | none => .error ("Unable to translate host PCI address " ++
                  String.ofList hostAddr.toString)
              | some guestAddr =>
                  translateAddrs cid name pcimap rest (guestAddrs ++ [guestAddr.toString])
                    (mapInsert addrMap hostAddrStr guestAddr.toString)

/-- `envvar.split_at(envvar.find('=')?)`: the name, and the value after the `=`. -/
def splitEnv (envvar : List Char) : Option (List Char × List Char) :=
  match envvar.dropWhile (· ≠ '=') with
  | [] => none
  | _ :: val => some (envvar.takeWhile (· ≠ '='), val)

def malformed (envvar : List Char) : String :=
  "Malformed OCI env entry " ++ String.ofList (debugStr envvar)

/-- The first pass, with the `_INFO` map built so far. -/
def firstPass (cid : String) (pcimap : List (String × List (Address × Address))) :
    List (List Char × List (List Char × List Char)) → List (List Char) →
      List (List Char) × Except String (List (List Char × List (List Char × List Char)))
  | pciDevMap, [] => ([], .ok pciDevMap)
  | pciDevMap, envvar :: rest =>
      match splitEnv envvar with
      | none => (envvar :: rest, .error (malformed envvar))
      | some (name, val) =>
          if !pcideviceKey.isPrefixOf name || infoSuffix.isSuffixOf name then
            let (rest, r) := firstPass cid pcimap pciDevMap rest
            (envvar :: rest, r)
          else
            match translateAddrs cid name pcimap (val.splitOn ',') [] [] with
            | .error e => (envvar :: rest, .error e)
            | .ok (guestAddrs, addrMap) =>
                let (rest, r) := firstPass cid pcimap (mapInsert pciDevMap (name ++ infoSuffix)
                  addrMap) rest
                ((name ++ '=' :: [','].intercalate guestAddrs) :: rest, r)

/-- One variable of the second pass: an `_INFO` variable with a map gets its pairs replaced in
turn, in the order `iterOrder` gives. -/
def rewriteInfo (pciDevMap : List (List Char × List (List Char × List Char)))
    (iterOrder : List (List Char × List Char) → List (List Char × List Char))
    (name envvar : List Char) : List Char :=
  if !(pcideviceKey.isPrefixOf name && infoSuffix.isSuffixOf name) then envvar
  else
    match pciDevMap.lookup name with
    | some addrMap => (iterOrder addrMap).foldl (fun envvar p => replace envvar p.1 p.2) envvar
    | none => envvar

/-- The second pass. -/
def secondPass (pciDevMap : List (List Char × List (List Char × List Char)))
    (iterOrder : List (List Char × List Char) → List (List Char × List Char)) :
    List (List Char) → List (List Char) × Except String Unit
  | [] => ([], .ok ())
  | envvar :: rest =>
      match splitEnv envvar with
      | none => (envvar :: rest, .error (malformed envvar))
      | some (name, _) =>
          let (rest, r) := secondPass pciDevMap iterOrder rest
          (rewriteInfo pciDevMap iterOrder name envvar :: rest, r)

def updateEnvPci (cid : String) (env : List (List Char))
    (pcimap : List (String × List (Address × Address)))
    (iterOrder : List (List Char × List Char) → List (List Char × List Char)) :
    List (List Char) × Except String Unit :=
  match firstPass cid pcimap [] env with
  | (env, .error e) => (env, .error e)
  | (env, .ok pciDevMap) => secondPass pciDevMap iterOrder env

/-! ### The first pass -/

/-- The container's map translates the host address `h` to the guest address printed as `g`. -/
def Translates (cid : String) (pcimap : List (String × List (Address × Address)))
    (h g : List Char) : Prop :=
  ∃ hostAddr hostGuest guestAddr, Address.fromStr h = .ok hostAddr ∧
    pcimap.lookup cid = some hostGuest ∧ hostGuest.lookup hostAddr = some guestAddr ∧
    g = guestAddr.toString

section Translate

variable {cid : String} {name : List Char} {pcimap : List (String × List (Address × Address))}

/-- The loop over the host addresses succeeds exactly when each one translates; it appends
their guest addresses in order and records each host string with its guest string. -/
theorem translateAddrs_eq_ok_iff : ∀ {hosts gs₀ : List (List Char)}
    {am₀ : List (List Char × List Char)} {gs : List (List Char)} {am : List (List Char × List Char)},
    translateAddrs cid name pcimap hosts gs₀ am₀ = .ok (gs, am) ↔
      ∃ gs', List.Forall₂ (Translates cid pcimap) hosts gs' ∧ gs = gs₀ ++ gs' ∧
        am = (hosts.zip gs').foldl (fun m p => mapInsert m p.1 p.2) am₀
  | [], gs₀, am₀, gs, am => by
      simp only [translateAddrs, Except.ok.injEq, Prod.mk.injEq, List.forall₂_nil_left_iff,
        exists_eq_left, List.append_nil, List.zip_nil_left, List.foldl_nil]
      constructor <;> rintro ⟨rfl, rfl⟩ <;> exact ⟨rfl, rfl⟩
  | h :: hs, gs₀, am₀, gs, am => by
      -- a failed translation of `h` is an error on both sides
      have hfail : ¬ (∃ g, Translates cid pcimap h g) →
          ¬ ∃ gs', List.Forall₂ (Translates cid pcimap) (h :: hs) gs' ∧ gs = gs₀ ++ gs' ∧
            am = ((h :: hs).zip gs').foldl (fun m p => mapInsert m p.1 p.2) am₀ := by
        rintro hno ⟨gs', hF, -⟩
        cases hF with
        | cons hhg _ => exact hno ⟨_, hhg⟩
      rw [translateAddrs]
      cases hparse : Address.fromStr h with
      | error e =>
          simp only [reduceCtorEq, false_iff]
          refine hfail ?_
          rintro ⟨g, hostAddr, -, -, hp, -⟩
          rw [hparse] at hp
          cases hp
      | ok hostAddr =>
          cases hcid : pcimap.lookup cid with
          | none =>
              simp only [reduceCtorEq, false_iff]
              refine hfail ?_
              rintro ⟨g, hostAddr', hostGuest, -, -, hc, -⟩
              rw [hcid] at hc
              cases hc
          | some hostGuest =>
              simp only
              split
              case h_1 hg =>
                  simp only [reduceCtorEq, false_iff]
                  refine hfail ?_
                  rintro ⟨g, hostAddr', hostGuest', guestAddr, hp, hc, hl, -⟩
                  rw [hparse] at hp
                  rw [hcid] at hc
                  cases hp
                  cases hc
                  rw [hg] at hl
                  cases hl
              case h_2 guestAddr hg =>
                  rw [translateAddrs_eq_ok_iff]
                  have htr : Translates cid pcimap h guestAddr.toString :=
                    ⟨hostAddr, hostGuest, guestAddr, hparse, hcid, hg, rfl⟩
                  constructor
                  · rintro ⟨gs', hF, rfl, rfl⟩
                    exact ⟨guestAddr.toString :: gs', .cons htr hF, by simp, rfl⟩
                  · rintro ⟨gs', hF, rfl, rfl⟩
                    cases hF with
                    | cons hhg hF =>
                        rename_i g gs''
                        obtain ⟨hostAddr', hostGuest', guestAddr', hp, hc, hl, rfl⟩ := hhg
                        rw [hparse] at hp
                        rw [hcid] at hc
                        cases hp
                        cases hc
                        rw [hg] at hl
                        cases hl
                        exact ⟨gs'', hF, by simp, rfl⟩

end Translate

/-- What the first pass does to one variable: a variable it skips stays as it is, and a
`PCIDEVICE_<r>` variable gets the guest addresses of its host addresses, in their order. -/
def FirstPassed (cid : String) (pcimap : List (String × List (Address × Address)))
    (envvar envvar' : List Char) : Prop :=
  ∃ name val, splitEnv envvar = some (name, val) ∧
    (((!pcideviceKey.isPrefixOf name || infoSuffix.isSuffixOf name) = true ∧ envvar' = envvar) ∨
      ((!pcideviceKey.isPrefixOf name || infoSuffix.isSuffixOf name) = false ∧
        ∃ gs, List.Forall₂ (Translates cid pcimap) (val.splitOn ',') gs ∧
          envvar' = name ++ '=' :: [','].intercalate gs))

theorem firstPass_ok {cid : String} {pcimap : List (String × List (Address × Address))} :
    ∀ {pciDevMap : List (List Char × List (List Char × List Char))} {env env' : List (List Char)}
      {pciDevMap' : List (List Char × List (List Char × List Char))},
      firstPass cid pcimap pciDevMap env = (env', .ok pciDevMap') →
        List.Forall₂ (FirstPassed cid pcimap) env env'
  | _, [], env', _, h => by
      rw [firstPass, Prod.mk.injEq] at h
      rw [← h.1]
      exact .nil
  | pciDevMap, envvar :: rest, env', pciDevMap', h => by
      rw [firstPass] at h
      split at h
      case h_1 => simp at h
      case h_2 name val hsplit =>
        split_ifs at h with hskip
        · -- a skipped variable
          obtain ⟨hrest, hr⟩ := Prod.mk.inj h
          rw [← hrest]
          exact .cons ⟨name, val, hsplit, .inl ⟨hskip, rfl⟩⟩ (firstPass_ok (Prod.ext rfl hr))
        · split at h
          case h_1 => simp at h
          case h_2 guestAddrs addrMap htrans =>
            obtain ⟨hrest, hr⟩ := Prod.mk.inj h
            rw [← hrest]
            obtain ⟨gs, hF, hgs, -⟩ := translateAddrs_eq_ok_iff.mp htrans
            rw [List.nil_append] at hgs
            refine .cons ⟨name, val, hsplit, .inr ⟨Bool.eq_false_iff.mpr hskip, gs, hF, by rw [hgs]⟩⟩
              (firstPass_ok (Prod.ext rfl hr))

theorem splitEnv_append {name : List Char} (hname : '=' ∉ name) (val : List Char) :
    splitEnv (name ++ '=' :: val) = some (name, val) := by
  have hne : ∀ c ∈ name, decide (c ≠ '=') = true := fun c hc => by
    simp only [ne_eq, decide_eq_true_eq]
    exact fun h => hname (h ▸ hc)
  unfold splitEnv
  rw [List.dropWhile_append_of_pos hne, List.takeWhile_append_of_pos hne]
  simp

theorem not_mem_of_splitEnv {envvar name val : List Char} (h : splitEnv envvar = some (name, val)) :
    '=' ∉ name := by
  unfold splitEnv at h
  split at h
  · cases h
  · cases h
    intro hmem
    have := List.mem_takeWhile_imp hmem
    simp at this

/-- After the first pass every variable still splits, under the same name. -/
theorem FirstPassed.splitEnv {cid : String} {pcimap : List (String × List (Address × Address))}
    {envvar envvar' : List Char} (h : FirstPassed cid pcimap envvar envvar') :
    ∃ name val val', splitEnv envvar = some (name, val) ∧ splitEnv envvar' = some (name, val') := by
  obtain ⟨name, val, hsplit, ⟨-, rfl⟩ | ⟨-, gs, -, rfl⟩⟩ := h
  · exact ⟨name, val, val, hsplit, hsplit⟩
  · exact ⟨name, val, _, hsplit, splitEnv_append (not_mem_of_splitEnv hsplit) _⟩

/-! ### The second pass -/

theorem secondPass_ok {pciDevMap : List (List Char × List (List Char × List Char))}
    {iterOrder : List (List Char × List Char) → List (List Char × List Char)} :
    ∀ {env : List (List Char)}, (∀ e ∈ env, ∃ name val, splitEnv e = some (name, val)) →
      ∃ env', secondPass pciDevMap iterOrder env = (env', .ok ()) ∧
        List.Forall₂ (fun e e' => ∃ name val, splitEnv e = some (name, val) ∧
          e' = rewriteInfo pciDevMap iterOrder name e) env env'
  | [], _ => ⟨[], rfl, .nil⟩
  | e :: rest, h => by
      obtain ⟨name, val, hsplit⟩ := h e List.mem_cons_self
      obtain ⟨rest', hrest, hF⟩ := secondPass_ok fun e' he' => h e' (List.mem_cons_of_mem e he')
      refine ⟨rewriteInfo pciDevMap iterOrder name e :: rest', ?_, .cons ⟨name, val, hsplit, rfl⟩ hF⟩
      rw [secondPass, hsplit]
      simp only [hrest]

/-- When the first pass succeeds, `update_env_pci` succeeds: each variable is what the first
pass made of it, with each `_INFO` variable then rewritten by its pairs in turn. -/
theorem updateEnvPci_of_firstPass {cid : String} {pcimap : List (String × List (Address × Address))}
    {iterOrder : List (List Char × List Char) → List (List Char × List Char)}
    {env env₁ : List (List Char)} {pciDevMap : List (List Char × List (List Char × List Char))}
    (h : firstPass cid pcimap [] env = (env₁, .ok pciDevMap)) :
    ∃ env', updateEnvPci cid env pcimap iterOrder = (env', .ok ()) ∧
      List.Forall₂ (FirstPassed cid pcimap) env env₁ ∧
      List.Forall₂ (fun e e' => ∃ name val, splitEnv e = some (name, val) ∧
        e' = rewriteInfo pciDevMap iterOrder name e) env₁ env' := by
  have hF := firstPass_ok h
  have hsplit : ∀ e ∈ env₁, ∃ name val, splitEnv e = some (name, val) := by
    clear h
    induction hF with
    | nil => simp
    | cons he₀ _ ih =>
        intro e he
        rcases List.mem_cons.mp he with rfl | he
        · obtain ⟨name, -, val', -, hs⟩ := he₀.splitEnv
          exact ⟨name, val', hs⟩
        · exact ih e he
  obtain ⟨env', hsecond, hF'⟩ := @secondPass_ok pciDevMap iterOrder env₁ hsplit
  refine ⟨env', ?_, hF, hF'⟩
  rw [updateEnvPci, h]
  exact hsecond

/-- The address `0000:00:SS.0`. -/
def slotAddress (slot : UInt8) : Address := ⟨0, 0, ⟨slot <<< functionBits⟩⟩

/-- Container `c` maps the host slot 1 to the guest slot 2, and the host slot 2 to the guest
slot 3. -/
def chainedPcimap : List (String × List (Address × Address)) :=
  [("c", [(slotAddress 1, slotAddress 2), (slotAddress 2, slotAddress 3)])]

def sriovEnv : List (List Char) :=
  ["PCIDEVICE_X=0000:00:01.0,0000:00:02.0".toList,
    "PCIDEVICE_X_INFO=0000:00:01.0 0000:00:02.0".toList]

/-- The host addresses of `sriovEnv` translate through `chainedPcimap`, so `update_env_pci`
succeeds, with the first pass's guest addresses and the `_INFO` map it records, the pair of
the last host address first. -/
theorem updateEnvPci_of_firstPass_sriov :
    firstPass "c" chainedPcimap [] sriovEnv =
        (["PCIDEVICE_X=0000:00:02.0,0000:00:03.0".toList,
          "PCIDEVICE_X_INFO=0000:00:01.0 0000:00:02.0".toList],
          .ok [("PCIDEVICE_X_INFO".toList,
            [("0000:00:02.0".toList, "0000:00:03.0".toList),
              ("0000:00:01.0".toList, "0000:00:02.0".toList)])]) ∧
      ∃ env', updateEnvPci "c" sriovEnv chainedPcimap id = (env', .ok ()) := by
  have henv : (firstPass "c" chainedPcimap [] sriovEnv).1 =
      ["PCIDEVICE_X=0000:00:02.0,0000:00:03.0".toList,
        "PCIDEVICE_X_INFO=0000:00:01.0 0000:00:02.0".toList] := by
    decide
  -- the map is compared through `toOption`, which has decidable equality
  have hmap : (firstPass "c" chainedPcimap [] sriovEnv).2.toOption =
      some [("PCIDEVICE_X_INFO".toList,
        [("0000:00:02.0".toList, "0000:00:03.0".toList),
          ("0000:00:01.0".toList, "0000:00:02.0".toList)])] := by
    decide
  have h : firstPass "c" chainedPcimap [] sriovEnv =
      (["PCIDEVICE_X=0000:00:02.0,0000:00:03.0".toList,
        "PCIDEVICE_X_INFO=0000:00:01.0 0000:00:02.0".toList],
        .ok [("PCIDEVICE_X_INFO".toList,
          [("0000:00:02.0".toList, "0000:00:03.0".toList),
            ("0000:00:01.0".toList, "0000:00:02.0".toList)])]) := by
    refine Prod.ext henv ?_
    cases hr : (firstPass "c" chainedPcimap [] sriovEnv).2 with
    | error e => simp [hr, Except.toOption] at hmap
    | ok v =>
        simp only [hr, Except.toOption, Option.some.injEq] at hmap
        rw [hmap]
  obtain ⟨env', hupdate, -⟩ := @updateEnvPci_of_firstPass _ _ id _ _ _ h
  exact ⟨h, env', hupdate⟩

/-- The `_INFO` variable depends on the order of the pairs: replacing host slot 1 first turns it
into guest slot 2, which the pair of host slot 2 then turns into slot 3. -/
theorem updateEnvPci_depends_on_iteration_order :
    updateEnvPci "c" sriovEnv chainedPcimap id =
        (["PCIDEVICE_X=0000:00:02.0,0000:00:03.0".toList,
          "PCIDEVICE_X_INFO=0000:00:02.0 0000:00:03.0".toList], .ok ()) ∧
      updateEnvPci "c" sriovEnv chainedPcimap List.reverse =
        (["PCIDEVICE_X=0000:00:02.0,0000:00:03.0".toList,
          "PCIDEVICE_X_INFO=0000:00:03.0 0000:00:03.0".toList], .ok ()) := by
  decide

end KataContainers.Agent
