import Mathlib.Logic.Basic

/-!
# The provider's configuration

`NewVicConfig` reads the persona and port-layer addresses from the process
environment when no config file is named, and from the YAML file otherwise.
The environment, the file system and `yaml.Unmarshal` are outside the
repository: they are the `ConfigSources` the loaders are given.

`newVicConfig_eq` says what comes out: the two environment variables, the
file's decoded config, or, when the file cannot be read or decoded, the zero
config, since `NewVicConfig` drops the loader's error.
-/

namespace Vic

/-- `VicConfig`. -/
structure VicConfig where
  personaAddr : String := ""
  portlayerAddr : String := ""
  deriving DecidableEq, Repr

/-- What the loaders read: `os.Getenv`, `ioutil.ReadFile`, and `yaml.Unmarshal`
into a zero `VicConfig`. -/
structure ConfigSources where
  getenv : String → String
  readFile : String → Except String String
  unmarshal : String → Except String VicConfig

/-- `personaAddrEnv`. -/
def personaAddrEnv : String := "PERSONA_ADDR"
/-- `portlayerAddrEnv`. -/
def portlayerAddrEnv : String := "PORTLAYER_ADDR"

variable (src : ConfigSources)

/-- `VicConfig.loadConfigFile`: the config as the call leaves it, and the error. -/
def loadConfigFile (v : VicConfig) (configFile : String) : VicConfig × Option String :=
  match src.readFile configFile with
  | .error err => (v, some err)
  | .ok contents =>
    match src.unmarshal contents with
    | .error err => (v, some ("Unable to unmarshal vic virtual kubelet configfile: " ++ err))
    | .ok config => (config, none)

/-- `VicConfig.loadConfigFromEnv`. -/
def loadConfigFromEnv (v : VicConfig) : VicConfig :=
  { v with personaAddr := src.getenv personaAddrEnv, portlayerAddr := src.getenv portlayerAddrEnv }

/-- `NewVicConfig`. -/
def newVicConfig (configFile : String) : VicConfig :=
  let config : VicConfig := {}
  if configFile = "" then loadConfigFromEnv src config
  else (loadConfigFile src config configFile).1

/-- **What `NewVicConfig` returns**: the addresses of the environment without a
file; with one, its decoded config, and the zero config when it cannot be read
or decoded. -/
theorem newVicConfig_eq (configFile : String) :
    newVicConfig src configFile =
      if configFile = "" then ⟨src.getenv "PERSONA_ADDR", src.getenv "PORTLAYER_ADDR"⟩
      else match src.readFile configFile >>= src.unmarshal with
        | .ok config => config
        | .error _ => {} := by
  unfold newVicConfig loadConfigFile
  split
  · rfl
  · rcases src.readFile configFile with err | contents
    · rfl
    · rcases h : src.unmarshal contents <;> simp [h, bind, Except.bind]

end Vic
