import KataContainers.Lib.Glob

/-!
# Configuration by pod annotations

`Annotation::update_config_by_annotation` of `kata-types`, with `validate_path_pattern` and the
hypervisor's path validators. The hypervisor configuration keeps the options the modelled
branches read and write (its host paths, their allowlists, the initdata, the vCPU and memory
sizes, the enabled annotations); all other options are `options : S`, set through the
environment's `setHypervisorOption`. The agent and runtime branch is the environment's
`setAgentOrRuntimeOption`. Regular expressions, path canonicalization, the initdata decoder,
the number parsers, the hypervisor plugins and `adjust_config` are the environment too.
-/

namespace KataContainers.Config

open Glob

inductive ErrorKind where
  | InvalidData
  | InvalidInput
  | Other
deriving DecidableEq, Repr

structure IoError where
  kind : ErrorKind
  message : String
deriving DecidableEq, Repr

/-- `eother!`. -/
def eother (message : String) : IoError := ⟨.Other, message⟩

/-- `validate_path_pattern`: the path matches a pattern of the list that parses. -/
def validatePathPattern (patterns : List String) (path : String) : Except IoError Unit :=
  if patterns.any (fun p => match Pattern.new p with
      | some glob => patternMatches glob path
      | none => false)
  then .ok ()
  else .error (eother s!"Path {path} is not permitted")

def kataAnnoCfgHypervisorPrefix := "io.katacontainers.config.hypervisor."
def kataAnnoCfgHypervisorPath := "io.katacontainers.config.hypervisor.path"
def kataAnnoCfgHypervisorJailerPath := "io.katacontainers.config.hypervisor.jailer_path"
def kataAnnoCfgHypervisorVhostuserStorePath :=
  "io.katacontainers.config.hypervisor.vhost_user_store_path"
def kataAnnoCfgHypervisorKernelPath := "io.katacontainers.config.hypervisor.kernel"
def kataAnnoCfgHypervisorImagePath := "io.katacontainers.config.hypervisor.image"
def kataAnnoCfgHypervisorInitrdPath := "io.katacontainers.config.hypervisor.initrd"
def kataAnnoCfgHypervisorFirmwarePath := "io.katacontainers.config.hypervisor.firmware"
def kataAnnoCfgHypervisorDefaultVcpus := "io.katacontainers.config.hypervisor.default_vcpus"
def kataAnnoCfgHypervisorEntropySource := "io.katacontainers.config.hypervisor.entropy_source"
def kataAnnoCfgHypervisorDefaultMemory := "io.katacontainers.config.hypervisor.default_memory"
def kataAnnoCfgHypervisorFileBackedMemRootDir :=
  "io.katacontainers.config.hypervisor.file_mem_backend"
def kataAnnoCfgHypervisorGuestHookPath := "io.katacontainers.config.hypervisor.guest_hook_path"
def kataAnnoCfgHypervisorInitData := "io.katacontainers.config.hypervisor.cc_init_data"
def kataAnnoCfgHypervisorVirtioFsDaemon := "io.katacontainers.config.hypervisor.virtio_fs_daemon"
def kataAnnoCfgRuntimeHypervisor := "io.katacontainers.config.runtime.hypervisor_name"
def kataAnnoCfgRuntimeAgent := "io.katacontainers.config.runtime.agent_name"

structure Hypervisor (S : Type) where
  path : String
  validHypervisorPaths : List String
  jailerPath : String
  validJailerPaths : List String
  vhostUserStorePath : String
  validVhostUserStorePaths : List String
  kernel : String
  image : String
  initrd : String
  firmware : String
  defaultVcpus : Float
  entropySource : String
  validEntropySources : List String
  defaultMemory : Nat
  fileMemBackend : String
  validFileMemBackends : List String
  guestHookPath : String
  initdata : String
  virtioFsDaemon : String
  validVirtioFsDaemonPaths : List String
  enableAnnotations : List String
  options : S

structure Runtime (R : Type) where
  name : String
  hypervisorName : String
  agentName : String
  rest : R

structure TomlConfig (S A R : Type) where
  agent : String → Option A
  hypervisor : String → Option (Hypervisor S)
  runtime : Runtime R

/-- What `get_hypervisor_plugin` returns. -/
structure ConfigPlugin where
  maxCpus : Nat
  minMemory : Nat

structure Env (S A R : Type) where
  /-- `RegexSet::new(patterns)` and `is_match`; `false` when a pattern does not compile. -/
  regexSetIsMatch : List String → String → Bool
  /-- `Path::canonicalize`. -/
  canonicalize : String → Except String String
  /-- `decode_initdata(..)?.to_string()`. -/
  decodeInitdata : String → Except String String
  /-- `str::parse::<f32>`. -/
  parseF32 : String → Option Float
  /-- `byte_unit::Byte::parse_str(value, true)`, in MiB as a `u32`. -/
  parseMemoryMiB : String → Option Nat
  plugin : String → Option ConfigPlugin
  /-- The other hypervisor branches; `none` for a key none of them handles. -/
  setHypervisorOption : S → String → String → Option (Except IoError S)
  setAgentOrRuntimeOption : A → Runtime R → String → String → Except IoError (A × Runtime R)
  adjustConfig : TomlConfig S A R → Except IoError (TomlConfig S A R)

section
variable {S A R : Type} (env : Env S A R)

/-- `is_annotation_enabled`: the key after the hypervisor prefix matches an enabled pattern. -/
def isAnnotationEnabled (enableAnnotations : List String) (key : String) : Bool :=
  if key.startsWith kataAnnoCfgHypervisorPrefix then
    env.regexSetIsMatch enableAnnotations (key.drop kataAnnoCfgHypervisorPrefix.length).toString
  else false

/-- `validate_path!`: a non-empty path must canonicalize. -/
def validatePath (path : String) : Except IoError Unit :=
  if path.isEmpty then .ok ()
  else
    match env.canonicalize path with
    | .ok _ => .ok ()
    | .error e => .error (eother s!"path {path} is invalid{e}")

/-- `add_hypervisor_initdata_overrides`. -/
def addHypervisorInitdataOverrides ( initdataAnnotation : String) : Except String String :=
  if initdataAnnotation.isEmpty then .ok "" else env.decodeInitdata initdataAnnotation

end

/-- The host paths an annotation may set only within an allowlist of the configuration. -/
inductive AllowlistedPath where
  | hypervisorPath
  | jailerPath
  | vhostUserStorePath
  | entropySource
  | fileMemBackend
  | virtioFsDaemon
deriving DecidableEq, Repr

namespace AllowlistedPath

def get {S : Type} (hv : Hypervisor S) : AllowlistedPath → String
  | .hypervisorPath => hv.path
  | .jailerPath => hv.jailerPath
  | .vhostUserStorePath => hv.vhostUserStorePath
  | .entropySource => hv.entropySource
  | .fileMemBackend => hv.fileMemBackend
  | .virtioFsDaemon => hv.virtioFsDaemon

/-- `valid_hypervisor_paths`, `valid_jailer_paths`, `valid_vhost_user_store_paths`,
`valid_entropy_sources`, `valid_file_mem_backends`, `valid_virtio_fs_daemon_paths`. -/
def allowlist {S : Type} (hv : Hypervisor S) : AllowlistedPath → List String
  | .hypervisorPath => hv.validHypervisorPaths
  | .jailerPath => hv.validJailerPaths
  | .vhostUserStorePath => hv.validVhostUserStorePaths
  | .entropySource => hv.validEntropySources
  | .fileMemBackend => hv.validFileMemBackends
  | .virtioFsDaemon => hv.validVirtioFsDaemonPaths

def set {S : Type} (hv : Hypervisor S) (value : String) : AllowlistedPath → Hypervisor S
  | .hypervisorPath => { hv with path := value }
  | .jailerPath => { hv with jailerPath := value }
  | .vhostUserStorePath => { hv with vhostUserStorePath := value }
  | .entropySource => { hv with entropySource := value }
  | .fileMemBackend => { hv with fileMemBackend := value }
  | .virtioFsDaemon => { hv with virtioFsDaemon := value }

@[simp] theorem get_set {S : Type} (hv : Hypervisor S) (value : String) (f g : AllowlistedPath) :
    g.get (f.set hv value) = if f = g then value else g.get hv := by
  cases f <;> cases g <;> rfl

@[simp] theorem allowlist_set {S : Type} (hv : Hypervisor S) (value : String)
    (f g : AllowlistedPath) : g.allowlist (f.set hv value) = g.allowlist hv := by
  cases f <;> cases g <;> rfl

end AllowlistedPath

/-- The six branches that set an allowlisted path: validate, then store. -/
def setValidatedPath {S : Type} (f : AllowlistedPath) (value : String) (hv : Hypervisor S) :
    Except IoError (Hypervisor S) :=
  (validatePathPattern (f.allowlist hv) value).map fun () => f.set hv value

/-- `validate_hypervisor_path` and its five siblings. -/
def validateHypervisorPath {S : Type} (hv : Hypervisor S) :=
  validatePathPattern hv.validHypervisorPaths
def validateJailerPath {S : Type} (hv : Hypervisor S) := validatePathPattern hv.validJailerPaths
def validateVhostUserStorePath {S : Type} (hv : Hypervisor S) :=
  validatePathPattern hv.validVhostUserStorePaths
def validateEntropySource {S : Type} (hv : Hypervisor S) :=
  validatePathPattern hv.validEntropySources
def validateMemoryBackendPath {S : Type} (hv : Hypervisor S) :=
  validatePathPattern hv.validFileMemBackends
def validateVirtiofsDaemonPath {S : Type} (hv : Hypervisor S) :=
  validatePathPattern hv.validVirtioFsDaemonPaths

section
variable {S A R : Type} (env : Env S A R)

/-- The keys the modelled branches of the hypervisor `match key.as_str()` handle. -/
inductive HypervisorAnnotation where
  | allowlisted (f : AllowlistedPath)
  | kernelPath
  | imagePath
  | initrdPath
  | firmwarePath
  | defaultVcpus
  | defaultMemory
  | guestHookPath
  | initData
deriving DecidableEq, Repr

def hypervisorAnnotations : List (String × HypervisorAnnotation) :=
  [(kataAnnoCfgHypervisorPath, .allowlisted .hypervisorPath),
    (kataAnnoCfgHypervisorJailerPath, .allowlisted .jailerPath),
    (kataAnnoCfgHypervisorVhostuserStorePath, .allowlisted .vhostUserStorePath),
    (kataAnnoCfgHypervisorKernelPath, .kernelPath),
    (kataAnnoCfgHypervisorImagePath, .imagePath),
    (kataAnnoCfgHypervisorInitrdPath, .initrdPath),
    (kataAnnoCfgHypervisorFirmwarePath, .firmwarePath),
    (kataAnnoCfgHypervisorDefaultVcpus, .defaultVcpus),
    (kataAnnoCfgHypervisorEntropySource, .allowlisted .entropySource),
    (kataAnnoCfgHypervisorDefaultMemory, .defaultMemory),
    (kataAnnoCfgHypervisorFileBackedMemRootDir, .allowlisted .fileMemBackend),
    (kataAnnoCfgHypervisorGuestHookPath, .guestHookPath),
    (kataAnnoCfgHypervisorInitData, .initData),
    (kataAnnoCfgHypervisorVirtioFsDaemon, .allowlisted .virtioFsDaemon)]

/-- The branch for an enabled hypervisor annotation; `none` where the source panics. -/
def updateHypervisor (hypervisorName key value : String) (hv : Hypervisor S) :
    Option (Except IoError (Hypervisor S)) :=
  match hypervisorAnnotations.lookup key with
  | some (.allowlisted f) => some (setValidatedPath f value hv)
  | some .kernelPath => some ((validatePath env value).map fun () => { hv with kernel := value })
  | some .imagePath => some ((validatePath env value).map fun () => { hv with image := value })
  | some .initrdPath => some ((validatePath env value).map fun () => { hv with initrd := value })
  | some .firmwarePath =>
      some ((validatePath env value).map fun () => { hv with firmware := value })
  | some .defaultVcpus =>
      match env.parseF32 value.trimAscii.toString with
      | none => some (.error ⟨.InvalidData, "parse i32 error"⟩)
      | some numCpus =>
          -- `get_hypervisor_plugin(hypervisor_name).unwrap()`
          match env.plugin hypervisorName with
          | none => none
          | some plugin =>
              if numCpus > Float.ofNat plugin.maxCpus then
                some (.error ⟨.InvalidData, s!"Vcpus specified in annotation {numCpus} is more than maximum limitation {plugin.maxCpus}"⟩)
              else some (.ok { hv with defaultVcpus := numCpus })
  | some .defaultMemory =>
      -- a size that does not parse is only logged
      match env.parseMemoryMiB value with
      | none => some (.ok hv)
      | some memorySize =>
          match env.plugin hypervisorName with
          | none => none
          | some plugin =>
              if memorySize < plugin.minMemory then
                some (.error ⟨.InvalidData, s!"memory specified in annotation {memorySize} is less than minimum limitation {plugin.minMemory}"⟩)
              else some (.ok { hv with defaultMemory := memorySize })
  | some .guestHookPath =>
      some ((validatePath env value).map fun () => { hv with guestHookPath := value })
  | some .initData =>
      -- `add_hypervisor_initdata_overrides(value).unwrap()`
      match addHypervisorInitdataOverrides env value with
      | .ok initdata => some (.ok { hv with initdata := initdata })
      | .error _ => none
  | none =>
      match env.setHypervisorOption hv.options key value with
      | some r => some (r.map fun options => { hv with options := options })
      | none => some (.error ⟨.InvalidInput, s!"Invalid annotation type {key}"⟩)

/-- The loop over the annotations, on the selected hypervisor and agent and the runtime. An
error returns at once, with what was changed before it. -/
def updateLoop (hypervisorName : String) :
    List (String × String) → Hypervisor S → A → Runtime R →
      Option ((Hypervisor S × A × Runtime R) × Except IoError Unit)
  | [], hv, ag, rt => some ((hv, ag, rt), .ok ())
  | (key, value) :: rest, hv, ag, rt =>
      if isAnnotationEnabled env hv.enableAnnotations key then
        match updateHypervisor env hypervisorName key value hv with
        | none => none
        | some (.error e) => some ((hv, ag, rt), .error e)
        | some (.ok hv') => updateLoop hypervisorName rest hv' ag rt
      else
        match env.setAgentOrRuntimeOption ag rt key value with
        | .error e => some ((hv, ag, rt), .error e)
        | .ok (ag', rt') => updateLoop hypervisorName rest hv ag' rt'

def updateAt {α : Type} (m : String → Option α) (name : String) (a : α) : String → Option α :=
  fun n => if n = name then some a else m n

/-- `update_config_by_annotation`: the configuration afterwards and the result; `none` where
the source panics. -/
def updateConfigByAnnotation (annotations : List (String × String)) (config : TomlConfig S A R) :
    Option (TomlConfig S A R × Except IoError Unit) :=
  let lookup := fun k => (annotations.find? (·.1 = k)).map (·.2)
  let config :=
    match lookup kataAnnoCfgRuntimeHypervisor with
    | some hv =>
        if (config.hypervisor hv).isSome then
          { config with runtime := { config.runtime with hypervisorName := hv } }
        else config
    | none => config
  let config :=
    match lookup kataAnnoCfgRuntimeAgent with
    | some ag =>
        if (config.agent ag).isSome then
          { config with runtime := { config.runtime with agentName := ag } }
        else config
    | none => config
  if config.runtime.name.isEmpty then
    some (config, .error ⟨.InvalidData, "Runtime name is missing in the configuration"⟩)
  else if config.runtime.hypervisorName.isEmpty then
    some (config, .error ⟨.InvalidData, "Hypervisor name is missing in the configuration"⟩)
  else if config.runtime.agentName.isEmpty then
    some (config, .error ⟨.InvalidData, "Agent name is missing in the configuration"⟩)
  else
    let hypervisorName := config.runtime.hypervisorName
    let agentName := config.runtime.agentName
    match config.hypervisor hypervisorName with
    | none => some (config, .error ⟨.InvalidData, s!"Invalid hypervisor name {hypervisorName}"⟩)
    | some hv =>
        match config.agent agentName with
        | none => some (config, .error ⟨.InvalidData, s!"Invalid agent name {agentName}"⟩)
        | some ag =>
            match updateLoop env hypervisorName annotations hv ag config.runtime with
            | none => none
            | some ((hv, ag, rt), r) =>
                let config : TomlConfig S A R :=
                  ⟨updateAt config.agent agentName ag, updateAt config.hypervisor hypervisorName hv,
                    rt⟩
                match r with
                | .error e => some (config, .error e)
                | .ok () =>
                    match env.adjustConfig config with
                    | .ok config => some (config, .ok ())
                    | .error e => some (config, .error e)

/-! ## What the allowlists guarantee -/

/-- The allowlisted paths and their allowlists are those of `hv₀`, or a path passed
`validate_path_pattern` against its allowlist. -/
def PathsAdmitted (hv₀ hv : Hypervisor S) : Prop :=
  ∀ g : AllowlistedPath, g.allowlist hv = g.allowlist hv₀ ∧
    (g.get hv = g.get hv₀ ∨ validatePathPattern (g.allowlist hv₀) (g.get hv) = .ok ())

/-- The branches other than the six keep every allowlisted path and allowlist. -/
def KeepsPaths (hv hv' : Hypervisor S) : Prop :=
  ∀ g : AllowlistedPath, g.get hv' = g.get hv ∧ g.allowlist hv' = g.allowlist hv

theorem setValidatedPath_ok {f : AllowlistedPath} {value : String} {hv hv' : Hypervisor S}
    (h : setValidatedPath f value hv = .ok hv') :
    validatePathPattern (f.allowlist hv) value = .ok () ∧ hv' = f.set hv value := by
  unfold setValidatedPath at h
  cases hv : validatePathPattern (f.allowlist hv) value with
  | error e => rw [hv] at h; cases h
  | ok u =>
      rw [hv] at h
      cases h
      exact ⟨rfl, rfl⟩

theorem keepsPaths_of_map {ε α : Type} {e : Except ε α} {g : α → Hypervisor S}
    {hv hv' : Hypervisor S} (hkeep : ∀ a, KeepsPaths hv (g a)) (h : e.map g = .ok hv') :
    KeepsPaths hv hv' := by
  cases e with
  | error e => cases h
  | ok a =>
      cases h
      exact hkeep a

/-- An enabled hypervisor annotation either sets one allowlisted path to a value its allowlist
admits, or keeps all of them. -/
theorem updateHypervisor_ok {hypervisorName key value : String} {hv hv' : Hypervisor S}
    (h : updateHypervisor env hypervisorName key value hv = some (.ok hv')) :
    (∃ f : AllowlistedPath, validatePathPattern (f.allowlist hv) value = .ok () ∧
        hv' = f.set hv value) ∨
      KeepsPaths hv hv' := by
  unfold updateHypervisor at h
  -- one case per branch of the source's `match key`
  split at h
  · exact .inl ⟨_, setValidatedPath_ok (Option.some.inj h)⟩
  -- every other branch writes fields that are no allowlisted path, or fails or panics
  all_goals right
  all_goals (repeat' split at h)
  all_goals first
    | exact keepsPaths_of_map (fun _ g => by cases g <;> exact ⟨rfl, rfl⟩) (Option.some.inj h)
    | (simp only [Option.some.injEq, Except.ok.injEq, reduceCtorEq] at h; done)
    | (simp only [Option.some.injEq, Except.ok.injEq] at h
       subst h
       intro g
       cases g <;> exact ⟨rfl, rfl⟩)

theorem pathsAdmitted_updateHypervisor {hv₀ hv hv' : Hypervisor S}
    {hypervisorName key value : String} (hadm : PathsAdmitted hv₀ hv)
    (h : updateHypervisor env hypervisorName key value hv = some (.ok hv')) :
    PathsAdmitted hv₀ hv' := by
  rcases updateHypervisor_ok env h with ⟨f, hvalid, rfl⟩ | hkeep
  · intro g
    obtain ⟨hlist, hpath⟩ := hadm g
    rw [AllowlistedPath.allowlist_set, AllowlistedPath.get_set]
    refine ⟨hlist, ?_⟩
    by_cases hfg : f = g
    · -- the annotated path: its own allowlist admitted it
      subst hfg
      rw [if_pos rfl, ← hlist]
      exact .inr hvalid
    · rw [if_neg hfg]
      exact hpath
  · intro g
    obtain ⟨hget, hlist⟩ := hkeep g
    rw [hget, hlist]
    exact hadm g

/-- Whatever the annotations, every allowlisted path the loop leaves behind without an error is
the configured one or passed `validate_path_pattern` against its allowlist, which no
annotation changes. -/
theorem pathsAdmitted_updateLoop {hypervisorName : String} (annotations : List (String × String))
    {hv₀ hv hv' : Hypervisor S} {ag ag' : A} {rt rt' : Runtime R} (hadm : PathsAdmitted hv₀ hv)
    (h : updateLoop env hypervisorName annotations hv ag rt = some ((hv', ag', rt'), .ok ())) :
    PathsAdmitted hv₀ hv' := by
  induction annotations generalizing hv ag rt with
  | nil =>
      simp only [updateLoop, Option.some.injEq, Prod.mk.injEq] at h
      obtain ⟨⟨rfl, -, -⟩, -⟩ := h
      exact hadm
  | cons kv rest ih =>
      obtain ⟨key, value⟩ := kv
      simp only [updateLoop] at h
      split at h
      · split at h
        · cases h
        · simp only [Option.some.injEq, Prod.mk.injEq, reduceCtorEq, and_false] at h
        · exact ih (pathsAdmitted_updateHypervisor env hadm (by assumption)) h
      · split at h
        · simp only [Option.some.injEq, Prod.mk.injEq, reduceCtorEq, and_false] at h
        · exact ih hadm h

end

/-- An allowlist entry `p*` admits every path that starts with `p`, `..` components
included. -/
theorem validatePathPattern_literal_star {p : String} (hp : Glob.Literal p.toList) (s : String) :
    validatePathPattern [p ++ "*"] (p ++ s) = .ok () := by
  unfold validatePathPattern
  rw [if_pos]
  simp only [List.any_cons, List.any_nil, Bool.or_false, Pattern.new_literal_star hp]
  exact patternMatches_literal_star p s

/-- Lexical normalisation of an absolute path: empty and `.` components are dropped and `..`
removes the component before it, staying at the root. -/
def lexicallyNormalize (path : String) : String :=
  let comps := (path.toList.splitOn '/').foldl (fun acc c =>
    if c = [] ∨ c = ['.'] then acc else if c = ['.', '.'] then acc.dropLast else acc ++ [c]) []
  String.ofList ('/' :: ['/'].intercalate comps)

/-- A hypervisor that admits binaries under `/opt/kata/bin` and enables the `path` and
`cc_init_data` annotations. -/
def allowlistedQemu : Hypervisor Unit where
  path := "/opt/kata/bin/qemu-system-x86_64"
  validHypervisorPaths := ["/opt/kata/bin/*"]
  jailerPath := ""
  validJailerPaths := []
  vhostUserStorePath := ""
  validVhostUserStorePaths := []
  kernel := ""
  image := ""
  initrd := ""
  firmware := ""
  defaultVcpus := 1
  entropySource := ""
  validEntropySources := []
  defaultMemory := 2048
  fileMemBackend := ""
  validFileMemBackends := []
  guestHookPath := ""
  initdata := ""
  virtioFsDaemon := ""
  validVirtioFsDaemonPaths := []
  enableAnnotations := ["path", "cc_init_data"]
  options := ()

def allowlistedConfig : TomlConfig Unit Unit Unit where
  agent n := if n = "kata" then some () else none
  hypervisor n := if n = "qemu" then some allowlistedQemu else none
  runtime := ⟨"virt-container", "qemu", "kata", ()⟩

/-- Literal regular expressions, a filesystem where every path exists, an initdata decoder
that rejects text outside the base64 alphabet, and no other options. -/
def literalEnv : Env Unit Unit Unit where
  regexSetIsMatch patterns key := patterns.contains key
  canonicalize path := .ok path
  decodeInitdata s :=
    if s.toList.all (fun c => c.isAlphanum || c == '+' || c == '/' || c == '=') then .ok s
    else .error "base64 decode"
  parseF32 _ := none
  parseMemoryMiB _ := none
  plugin _ := none
  setHypervisorOption _ _ _ := none
  setAgentOrRuntimeOption ag rt _ _ := .ok (ag, rt)
  adjustConfig config := .ok config

end KataContainers.Config
