import PluginDescriptor.Descriptor.Model

/-!
# Equality of registries

Two registries are alike when they declare the same about the same plugin. The order in which they
declare it does not count, except inside sequences.
-/

set_option autoImplicit false

namespace PluginDescriptor

/-- Each entry of one has an entry in the other with an equal key and something alike. -/
def Fields.alike {α : Type} (alikeParts : α → α → Bool) (as bs : Fields α) : Bool :=
  as.length == bs.length && as.all fun (k, a) =>
    match List.find? (fun b => k.alike b.1) bs with
    | some (_, b) => alikeParts a b
    | none => false

/-- Two arguments are declared alike. -/
def InputSpec.alike (a b : InputSpec) : Bool :=
  a.name.alike b.name && a.prompt.alike b.prompt && a.description.alike b.description
    && a.type == b.type && a.default.alike b.default && a.optional == b.optional
    && a.validation == b.validation && a.maxlength == b.maxlength
    && (match a.allowed, b.allowed with
      | some as, some bs => (Value.tuple as).alike (.tuple bs)
      | none, none => true
      | _, _ => false)
    && (Value.frozen a.extra).alike (.frozen b.extra)

/-- Two fields of results are declared alike. -/
def OutputSpec.alike (a b : OutputSpec) : Bool :=
  a.name.alike b.name && a.description.alike b.description && a.displayAs.alike b.displayAs
    && a.default.alike b.default

/-- Two entities are declared alike. -/
def Entity.alike (a b : Entity) : Bool :=
  a.name == b.name && a.kind == b.kind && a.description.alike b.description && a.display == b.display
    && Fields.alike InputSpec.alike a.inputs b.inputs
    && Fields.alike OutputSpec.alike a.outputs b.outputs

/-- Two registries declare the same. -/
def Registry.alike (a b : Registry) : Bool :=
  let entities (r : Registry) : Fields Entity := r.entities.map fun e => (.str e.name, e)
  a.pluginName == b.pluginName && a.pluginKind == b.pluginKind && a.path == b.path
    && (Value.frozen a.metadata).alike (.frozen b.metadata) && a.minimum == b.minimum
    && Fields.alike Entity.alike (entities a) (entities b) && a.usage == b.usage

end PluginDescriptor
