import Mathlib.Data.Finset.Basic
import VicProvider.Environment

/-!
# Filling a container config from its image

`setCreateConfigOptions` completes a Docker `container.Config` with the values
its image supplies where the user gave none: command, working directory,
entrypoint, user, volumes and environment.  A `Volumes` map has empty structs as
values, so it is a set of keys; a nil map is `none`.

The main result is that filling twice from the same image is filling once.  For
the environment this rests on `setEnvFromImageConfig_idem`: after one merge the
environment already has a path, a `TERM` for a terminal, and every variable of
the image.
-/

namespace Vic

/-- `container.Config`, with the fields the pod proxy reads or writes. -/
structure Config where
  image : String
  cmd : List String
  workingDir : String
  entrypoint : List String
  volumes : Option (Finset String)
  user : String
  env : List String
  tty : Bool
  openStdin : Bool
  stdinOnce : Bool
  deriving DecidableEq

/-- `setCreateConfigOptions`: each field the user left empty takes the image's
value, the image's volumes are added to the user's, and the environment is
merged by `setEnvFromImageConfig`. -/
def setCreateConfigOptions (config imageConfig : Config) : Config :=
  { config with
    cmd := if config.cmd.length = 0 then imageConfig.cmd else config.cmd
    workingDir := if config.workingDir = "" then imageConfig.workingDir else config.workingDir
    entrypoint :=
      if config.entrypoint.length = 0 then imageConfig.entrypoint else config.entrypoint
    volumes := match config.volumes with
      | none => imageConfig.volumes
      | some volumes => some (volumes ∪ imageConfig.volumes.getD ∅)
    user := if config.user = "" then imageConfig.user else config.user
    env := setEnvFromImageConfig config.tty config.env imageConfig.env }

/-- Filling a config from its image a second time changes nothing. -/
theorem setCreateConfigOptions_idem (config imageConfig : Config) :
    setCreateConfigOptions (setCreateConfigOptions config imageConfig) imageConfig =
      setCreateConfigOptions config imageConfig := by
  obtain ⟨image, cmd, workingDir, entrypoint, volumes, user, env, tty, openStdin, stdinOnce⟩ :=
    config
  simp only [setCreateConfigOptions, setEnvFromImageConfig_idem, Config.mk.injEq, and_true,
    true_and]
  refine ⟨by split_ifs <;> simp_all, by split_ifs <;> simp_all, by split_ifs <;> simp_all, ?_,
    by split_ifs <;> simp_all⟩
  rcases volumes with _ | volumes <;> rcases imageConfig.volumes with _ | imageVolumes <;>
    simp [Finset.union_assoc]

end Vic
