import PluginDescriptor.Descriptor.Problem
import PluginDescriptor.Named

/-!
# The shape of a descriptor

A descriptor is a list of steps. Each step is a mapping with one key, the name of a primitive, and
what stands under it has a form that the primitive lays down. All misfits are found first. Of these
the one nearest to the root is reported; of several equally near, the last in the document.
-/

set_option autoImplicit false

namespace PluginDescriptor

namespace Shape

/-- A place that does not have the form laid down for it. -/
structure Misfit where
  /-- The positions and keys that lead to the place. -/
  path : List Value
  text : String
  /-- The values that the text shows. -/
  shown : List Value
  /-- The value there is of the wrong kind altogether. -/
  wrongKind : Bool
  deriving Repr, Inhabited

/-- A value that is not of a kind. -/
def notOfKind (path : List Value) (v : Value) (kind : String) : Misfit :=
  { path, text := s!"{v.expression} is not of type '{kind}'", shown := [v], wrongKind := true }

/-- The misfits of a value that has to be a mapping. -/
def mapping (path : List Value) (v : Value) : List Misfit :=
  match v with
  | .map _ => []
  | v => [notOfKind path v "object"]

/-- The misfits of a value that has to be a text. -/
def text (path : List Value) (v : Value) : List Misfit :=
  match v with
  | .str _ => []
  | v => [notOfKind path v "string"]

/-- A mapping that must not be empty. -/
def nonEmpty (path : List Value) (entries : Entries) : List Misfit :=
  if entries.isEmpty then
    [{ path, text := s!"{(Value.map entries).expression} should be non-empty",
       shown := [.map entries], wrongKind := false }]
  else []

/-- The misfits of declared arguments or results: a mapping from names to mappings, with at least one
entry. -/
def arguments (path : List Value) (v : Value) : List Misfit :=
  match v with
  | .map entries =>
    nonEmpty path entries
      ++ entries.flatMap (fun e => text path e.1)
      ++ entries.flatMap (fun e => mapping (path ++ [e.1]) e.2)
  | v => [notOfKind path v "object"]

/-- The misfits of what stands under the key of a primitive. -/
def argument (path : List Value) (v : Value) : Primitive → List Misfit
  | .metadata | .requires | .action | .dataquery => mapping path v
  | .usage => text path v
  | .input | .output => arguments path v

/-- The key is the name of a primitive. -/
def isPrimitive : Value → Bool
  | .str s => (Primitive.ofText? s).isSome
  | _ => false

/-- The misfit of keys that name no primitive. -/
def strangers (path : List Value) (entries : Entries) : List Misfit :=
  let extra := (entries.map (·.1)).filter fun k => !isPrimitive k
  let sorted := extra.mergeSort fun a b => a.text ≤ b.text
  match sorted with
  | [] => []
  | keys =>
    let listed := Text.join ", " (keys.map Value.expression)
    let verb := if keys.length = 1 then "was" else "were"
    [{ path, text := s!"Additional properties are not allowed ({listed} {verb} unexpected)",
       shown := keys, wrongKind := false }]

/-- The misfits of a step. -/
def step (path : List Value) (v : Value) : List Misfit :=
  match v with
  | .map entries =>
    nonEmpty path entries
      ++ (if 1 < entries.length then
          [{ path, text := s!"{(Value.map entries).expression} has too many properties",
             shown := [.map entries], wrongKind := false }]
        else [])
      ++ Primitive.all.flatMap (fun p =>
          match Fields.find? entries p.text with
          | some v => argument (path ++ [.str p.text]) v p
          | none => [])
      ++ strangers path entries
  | v => [notOfKind path v "object"]

/-- The misfits of a document. -/
def misfits (document : Value) : List Misfit :=
  match document with
  | .list steps =>
    steps.zipIdx.flatMap fun (v, i) => step [.int i] v
  | v => [notOfKind [] v "array"]

/-- The values that the texts of all misfits show. -/
def shown (document : Value) : List Value := (misfits document).flatMap (·.shown)

/-! ## The misfit to report -/

/-- The order of two positions or two keys. -/
def placeOrder : Value → Value → Ordering
  | .int a, .int b => compare a b
  | .str a, .str b => compare a b
  | _, _ => .eq

/-- The order of two paths, by their first difference. -/
def pathOrder : List Value → List Value → Ordering
  | a :: as, b :: bs => (placeOrder a b).then (pathOrder as bs)
  | [], [] => .eq
  | [], _ => .lt
  | _, [] => .gt

/-- The first misfit is worth reporting more than the second. -/
def Misfit.outranks (a b : Misfit) : Bool :=
  if a.path.length ≠ b.path.length then a.path.length < b.path.length
  else
    match pathOrder a.path b.path with
    | .gt => true
    | .lt => false
    | .eq => a.wrongKind && !b.wrongKind

/-- The misfit to report: the first of those that no other one outranks. -/
def worst? : List Misfit → Option Misfit
  | [] => none
  | m :: rest => some (rest.foldl (fun best m => if m.outranks best then m else best) m)

/-- The place of a misfit. -/
def Misfit.location (m : Misfit) : String :=
  if m.path.isEmpty then "<root>" else Text.join "." (m.path.map Value.text)

/-- A document that has the shape of a descriptor, or why it has not. A text without a document is a
descriptor without steps. -/
def check (document : Value) : Except Problem (List Value) :=
  match document with
  | .null => .ok []
  | document =>
    match worst? (misfits document), document with
    | some m, _ => .error (.badShape m.location m.text)
    | none, .list steps => .ok steps
    | none, _ => .ok []

end Shape

/-! ## Steps -/

/-- A step of a descriptor. -/
inductive Step where
  | metadata (fields : Entries)
  | requires (requirements : Entries)
  | usage (text : String)
  | action (properties : Entries)
  | dataquery (properties : Entries)
  | input (arguments : Named Entries)
  | output (arguments : Named Entries)
  deriving Repr, Inhabited

namespace Step

/-- The primitive that a step runs. -/
def primitive : Step → Primitive
  | metadata _ => .metadata
  | requires _ => .requires
  | usage _ => .usage
  | action _ => .action
  | dataquery _ => .dataquery
  | input _ => .input
  | output _ => .output

/-- Names with their properties, when all names are texts and all properties mappings. -/
def arguments? (entries : Entries) : Option (Named Entries) :=
  entries.mapM fun (name, v) =>
    match name, v with
    | .str name, .map properties => some (name, properties)
    | _, _ => none

/-- The step of a primitive with what stands under its key. -/
def ofPrimitive? (p : Primitive) (v : Value) : Option Step :=
  match p, v with
  | .metadata, .map fields => some (metadata fields)
  | .requires, .map requirements => some (requires requirements)
  | .usage, .str text => some (usage text)
  | .action, .map properties => some (action properties)
  | .dataquery, .map properties => some (dataquery properties)
  | .input, .map entries => (arguments? entries).map input
  | .output, .map entries => (arguments? entries).map output
  | _, _ => none

/-- The step that a value writes down. -/
def ofValue? : Value → Option Step
  | .map [(.str key, v)] => do ofPrimitive? (← Primitive.ofText? key) v
  | _ => none

end Step

end PluginDescriptor
