import PluginDescriptor.Settings.Configuration

/-!
# Planning a configuration

A plan collects sources and explicit settings before anything is read. The explicit settings are a
source of their own, above files and the environment; and the environment is always a source, even if
nobody adds it.

A plan that goes on after a configuration was built has no part in it here. In the program the two share
the paths of custom validators, so that a path set later is a change of what that configuration's sources
hold (`Configuration.Event.vary`).
-/

set_option autoImplicit false

namespace PluginDescriptor

/-- An explicit setting. -/
inductive Setting where
  /-- The search roots; none at all leave them as they are. -/
  | roots (roots : List String)
  /-- The version of the host. -/
  | host (version : String)
  /-- The path of a custom validator. -/
  | validator (name path : String)
  deriving Repr, DecidableEq

namespace Setting

/-- The search roots that are set. -/
def roots? : Setting → Option (List String)
  | roots row => if row.isEmpty then none else some row
  | _ => none

/-- The version that is set. -/
def host? : Setting → Option String
  | host version => some version
  | _ => none

/-- The validator that is set, with its path. -/
def validator? : Setting → Option (String × String)
  | validator name path => some (name, path)
  | _ => none

end Setting

/-- Sources and explicit settings of a configuration to be. -/
structure Plan where
  sources : List Source := []
  /-- Explicit settings of the framework. -/
  explicit : Entries := []
  deriving Inhabited

namespace Plan

/-- Add a source. -/
def withSource (p : Plan) (source : Source) : Plan := { p with sources := p.sources ++ [source] }

/-- Set the search roots; none at all leave them as they are. -/
def withRoots (p : Plan) (roots : List String) : Plan :=
  if roots.isEmpty then p
  else { p with explicit := Fields.put p.explicit (.str "plugin_search_paths") (.list (roots.map .str)) }

/-- Set the version of the host. -/
def withHost (p : Plan) (version : Value) : Plan :=
  { p with explicit := Fields.put p.explicit (.str "platform_version") version }

/-- Set the path of a custom validator. -/
def withValidator (p : Plan) (name path : Value) : Plan :=
  let validators : Entries := match Fields.find? p.explicit "validators" with
    | some (.map entries) => entries
    | _ => []
  { p with explicit := Fields.put p.explicit (.str "validators") (.map (validators.put name path)) }

/-- Make an explicit setting. -/
def set (p : Plan) : Setting → Plan
  | .roots roots => p.withRoots roots
  | .host version => p.withHost (.str version)
  | .validator name path => p.withValidator (.str name) (.str path)

/-- Make explicit settings one after the other. -/
def setAll (p : Plan) (settings : List Setting) : Plan := settings.foldl set p

/-- The sources of the configuration: those added, the environment, and the explicit settings. -/
def allSources (p : Plan) : List Source :=
  p.sources
    ++ (if p.sources.any Source.isEnvironment then [] else [Source.usualEnvironment])
    ++ (if p.explicit.isEmpty then [] else [.explicit p.explicit Source.explicitPriority])

/-- The configuration that a plan describes. -/
def build (around : Surroundings) (p : Plan) : Logged Configuration :=
  Configuration.ofSources around p.allSources

/-- The settings of the framework that a plan leads to. -/
def buildSettings (around : Surroundings) (p : Plan) : Logged Settings := do
  return (← p.build around).current.settings

end Plan

end PluginDescriptor
