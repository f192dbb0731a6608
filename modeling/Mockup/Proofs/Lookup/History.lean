import Mockup.Proofs.Document.Format
import Mockup.Proofs.Json.Encoding
import Mockup.Proofs.Json.Reading

/-!
# Libraries and their histories

A library is built entry by entry. Its tables and its answers are those of the history of entries,
and both its own text and any text of tables, repeated keys included, are read as what the entries
build one after the other.
-/

namespace Mockup

open Json

namespace Library

/-- An entry of one of the tables. -/
inductive Entry where
  | ofInstance (node : NodeId) (component : String)
  | ofComponent (id name : String)
  | ofStyle (id : StyleId) (name : String)
  | ofVariable (id : VariableId) (name : String)
deriving DecidableEq, Repr

namespace Entry

def inInstances? : Entry → Option (NodeId × String)
  | ofInstance node component => some (node, component)
  | _ => none

def inComponents? : Entry → Option (String × String)
  | ofComponent id name => some (id, name)
  | _ => none

def inStyles? : Entry → Option (StyleId × String)
  | ofStyle id name => some (id, name)
  | _ => none

def inVariables? : Entry → Option (VariableId × String)
  | ofVariable id name => some (id, name)
  | _ => none

end Entry

def add (l : Library) : Entry → Library
  | .ofInstance node component => l.addInstance node component
  | .ofComponent id name => l.addComponent id name
  | .ofStyle id name => l.addStyle id name
  | .ofVariable id name => l.addVariable id name

/-- The library that entries make, from first to last. -/
def build (entries : List Entry) : Library :=
  entries.foldl add {}

/-- A table takes the entries that are meant for it, in their order. -/
theorem table_build {κ : Type} [DecidableEq κ] (table : Library → OrderedMap κ String)
    (tableEntry : Entry → Option (κ × String)) (hempty : table {} = .empty)
    (hadd : ∀ l e, table (l.add e) =
      (tableEntry e).toList.foldl (fun m entry => m.insert entry.1 entry.2) (table l))
    (entries : List Entry) : table (build entries) = .ofList (entries.filterMap tableEntry) := by
  have hfold (l : Library) : table (entries.foldl add l) =
      (entries.filterMap tableEntry).foldl (fun m entry => m.insert entry.1 entry.2) (table l) := by
    induction entries generalizing l with
    | nil => rfl
    | cons e entries ih =>
      rw [List.foldl_cons, ih, hadd, List.filterMap_cons]
      cases tableEntry e <;> rfl
  rw [build, hfold, hempty, OrderedMap.ofList]

private theorem build_eq (entries : List Entry) : build entries = {
    instances := .ofList (entries.filterMap Entry.inInstances?)
    components := .ofList (entries.filterMap Entry.inComponents?)
    styles := .ofList (entries.filterMap Entry.inStyles?)
    variableNames := .ofList (entries.filterMap Entry.inVariables?) } := by
  rw [← table_build (·.instances) Entry.inInstances? rfl (by intro l e; cases e <;> rfl),
    ← table_build (·.components) Entry.inComponents? rfl (by intro l e; cases e <;> rfl),
    ← table_build (·.styles) Entry.inStyles? rfl (by intro l e; cases e <;> rfl),
    ← table_build (·.variableNames) Entry.inVariables? rfl (by intro l e; cases e <;> rfl)]

/-- An object with texts as its members, of which several may have one name. -/
def tableOf (members : List (String × String)) : Value :=
  .object (members.map fun m => (m.1, .string m.2))

/-- The members that a library is written with. -/
def members (instances components styles variableNames : Value) : List (String × Value) := [
  ("instances", instances),
  ("components", components),
  ("styles", styles),
  ("variables", variableNames)]

/-- The entries of a table with texts for its keys. -/
def rows {κ : Type} (text : κ → String) (m : OrderedMap κ String) : List (String × String) :=
  m.entries.map fun entry => (text entry.1, entry.2)

private theorem encode_eq (l : Library) : l.encode = .object (members
    (tableOf (rows NodeId.text l.instances)) (tableOf (rows id l.components))
    (tableOf (rows StyleId.text l.styles)) (tableOf (rows VariableId.text l.variableNames))) := by
  simp [encode, encodeTable, members, tableOf, rows, Function.comp_def]

private theorem plain_tableOf (entries : List (String × String)) : (tableOf entries).Plain 1 := by
  refine .object fun m hm => ?_
  obtain ⟨entry, -, rfl⟩ := List.mem_map.1 hm
  exact .string entry.2

section

variable {κ : Type} [DecidableEq κ]

/-- The map that rows make one after the other. -/
def ofRows (key : String → κ) (entries : List (String × String)) : OrderedMap κ String :=
  .ofList (entries.map fun entry => (key entry.1, entry.2))

theorem decodeTable_tableOf (key : String → κ) (entries : List (String × String)) :
    decodeTable key (tableOf entries) = .ok (ofRows key entries) :=
  foldlM_insert_encode key (fun _ _ => rfl) .empty

private theorem ofRows_rows {text : κ → String} {key : String → κ} (hkey : ∀ k, key (text k) = k)
    (m : OrderedMap κ String) : ofRows key (rows text m) = m := by
  have hrows : (rows text m).map (fun entry => (key entry.1, entry.2)) = m.entries := by
    rw [rows, List.map_map]
    refine (List.map_congr_left fun entry _ => ?_).trans (List.map_id _)
    rw [Function.comp_apply, hkey, id]
  rw [ofRows, hrows, OrderedMap.ofList_entries]

end

theorem decode_members {l : Library} {instances components styles variableNames : Value}
    (hplain : ∀ m ∈ members instances components styles variableNames, m.2.Plain 1)
    (hinstances : decodeTable NodeId.mk instances = .ok l.instances)
    (hcomponents : decodeTable id components = .ok l.components)
    (hstyles : decodeTable StyleId.mk styles = .ok l.styles)
    (hvariables : decodeTable VariableId.mk variableNames = .ok l.variableNames) :
    Document.decode (.object (members instances components styles variableNames)) =
      .ok { root := none, library := l } := by
  have hsound : (Value.object (members instances components styles variableNames)).Sound :=
    .object fun m hm => (hplain m hm).sound
  refine (Document.decode_object_ok_iff hsound).2 (Document.forall_attributes.2 ⟨?_, ?_⟩)
  · exact Or.inl ⟨rfl, rfl⟩
  · simp only [fields, List.forall_mem_cons]
    exact ⟨Or.inr ⟨instances, rfl, hinstances⟩, Or.inr ⟨components, rfl, hcomponents⟩,
      Or.inr ⟨styles, rfl, hstyles⟩, Or.inr ⟨variableNames, rfl, hvariables⟩,
      List.forall_mem_nil _⟩

/-- The text of four tables is read as the library that their members make. -/
theorem ofText_members (instances components styles variableNames : List (String × String)) :
    Document.ofText (Value.object (members (tableOf instances) (tableOf components)
      (tableOf styles) (tableOf variableNames))).compact = .ok {
        root := none
        library := {
          instances := ofRows NodeId.mk instances
          components := ofRows id components
          styles := ofRows StyleId.mk styles
          variableNames := ofRows VariableId.mk variableNames } } := by
  have hplain : ∀ m ∈ members (tableOf instances) (tableOf components) (tableOf styles)
      (tableOf variableNames), m.2.Plain 1 := by
    simp only [members, List.forall_mem_cons]
    exact ⟨plain_tableOf _, plain_tableOf _, plain_tableOf _, plain_tableOf _,
      List.forall_mem_nil _⟩
  have hread := (Value.Plain.object hplain).readAs_compact.read_eq (by decide)
  rw [Document.ofText, decodeText, hread]
  have hdecode : Document.decode (.object (members (tableOf instances) (tableOf components)
      (tableOf styles) (tableOf variableNames))) = .ok {
        root := none
        library := {
          instances := ofRows NodeId.mk instances
          components := ofRows id components
          styles := ofRows StyleId.mk styles
          variableNames := ofRows VariableId.mk variableNames } } :=
    decode_members hplain (decodeTable_tableOf _ _) (decodeTable_tableOf _ _)
      (decodeTable_tableOf _ _) (decodeTable_tableOf _ _)
  simp only [hdecode]
  rfl

/-- The entries that the members of four tables stand for. -/
def entriesOf (instances components styles variableNames : List (String × String)) : List Entry :=
  instances.map (fun m => .ofInstance ⟨m.1⟩ m.2) ++
    components.map (fun m => .ofComponent m.1 m.2) ++
    styles.map (fun m => .ofStyle ⟨m.1⟩ m.2) ++
    variableNames.map fun m => .ofVariable ⟨m.1⟩ m.2

private theorem build_entriesOf
    (instances components styles variableNames : List (String × String)) :
    build (entriesOf instances components styles variableNames) = {
      instances := ofRows NodeId.mk instances
      components := ofRows id components
      styles := ofRows StyleId.mk styles
      variableNames := ofRows VariableId.mk variableNames } := by
  simp [build_eq, entriesOf, ofRows, List.filterMap_append, List.filterMap_map, Function.comp_def,
    Entry.inInstances?, Entry.inComponents?, Entry.inStyles?, Entry.inVariables?]

/-- A library remembers its history: each table has its keys in the order of their first entries,
each with its last value, and the answers are these values. The text of a library is read as a
document without a root and with its tables; any text of four tables is read as the library that
their members build in turn. -/
theorem build_remembers (entries : List Entry) :
    let l := build entries
    let instances := entries.filterMap Entry.inInstances?
    let components := entries.filterMap Entry.inComponents?
    let styles := entries.filterMap Entry.inStyles?
    let variableNames := entries.filterMap Entry.inVariables?
    (l.instances.Records instances ∧ l.components.Records components ∧
      l.styles.Records styles ∧ l.variableNames.Records variableNames) ∧
    ((∀ id, l.source.style id = .ok (styles.reverse.lookup id)) ∧
      (∀ id, l.source.boundVariable id = .ok (variableNames.reverse.lookup id)) ∧
      (∀ id, l.source.component id = .ok ((components.reverse.lookup id).map (Component.mk id))) ∧
      ∀ node, l.source.mainComponent node = .ok ((instances.reverse.lookup node).map fun id =>
        ⟨id, (components.reverse.lookup id).getD ""⟩)) ∧
    Document.ofText l.encode.compact = .ok { root := none, library := l } ∧
    ∀ instances components styles variableNames : List (String × String),
      Document.ofText (Value.object (members (tableOf instances) (tableOf components)
        (tableOf styles) (tableOf variableNames))).compact = .ok {
          root := none
          library := build (entriesOf instances components styles variableNames) } := by
  intro l instances components styles variableNames
  have hl : l = ⟨.ofList instances, .ofList components, .ofList styles, .ofList variableNames⟩ :=
    build_eq entries
  have hinstances : l.instances.Records instances := hl ▸ OrderedMap.records_ofList _
  have hcomponents : l.components.Records components := hl ▸ OrderedMap.records_ofList _
  have hstyles : l.styles.Records styles := hl ▸ OrderedMap.records_ofList _
  have hvariables : l.variableNames.Records variableNames := hl ▸ OrderedMap.records_ofList _
  refine ⟨⟨hinstances, hcomponents, hstyles, hvariables⟩, ⟨?style, ?boundVariable, ?component,
    ?mainComponent⟩, ?text, ?tables⟩
  case style =>
    intro id
    exact congrArg Except.ok (hstyles.get?_eq id)
  case boundVariable =>
    intro id
    exact congrArg Except.ok (hvariables.get?_eq id)
  case component =>
    intro id
    simp only [source, OrderedMap.contains, named, hcomponents.get?_eq]
    cases components.reverse.lookup id <;> rfl
  case mainComponent =>
    intro node
    simp only [source, hinstances.get?_eq]
    cases instances.reverse.lookup node with
    | none => rfl
    | some id => simp only [Option.map_some, named, hcomponents.get?_eq]
  case text =>
    rw [encode_eq, ofText_members, ofRows_rows (fun _ => rfl), ofRows_rows (fun _ => rfl),
      ofRows_rows (fun _ => rfl), ofRows_rows (fun _ => rfl)]
  case tables =>
    intro instances components styles variableNames
    rw [ofText_members, build_entriesOf]

end Library

end Mockup
