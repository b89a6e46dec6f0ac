/-
**The configuration of a host.**

* `Config`: paths, launch arguments, the keyboard threshold and the render thread, with their defaults;
* `Config.launchArgs`: the arguments the engine is started with.
-/

namespace EngineHost

/-- How a host is set up. -/
structure Config where
  dataPath : String := "."
  archivePath : String := ""
  packagePath : String := ""
  extraArgs : List String := []
  keyboardThreshold : Float32 := 0.15
  renderThreadName : String := "april-render"
  demoteRenderThread : Bool := true
deriving DecidableEq, Repr, Inhabited

/-- The arguments of the engine: the package first, then the extra ones. -/
def Config.launchArgs (config : Config) : List String :=
  config.packagePath :: config.extraArgs

/-- Whether a configuration is the default one, its threshold compared as a number. -/
def Config.isDefault (config : Config) : Bool :=
  let standard : Config := {}
  config.keyboardThreshold == standard.keyboardThreshold &&
  decide ({ config with keyboardThreshold := standard.keyboardThreshold } = standard)

end EngineHost
