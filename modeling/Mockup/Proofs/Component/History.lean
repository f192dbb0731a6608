import Mockup.Component.Table
import Mockup.Proofs.OrderedMap

/-!
# Component tables and their histories

A table is extended rule by rule. What it says of a component is what the last rule for its
namespace or for its local id says, and a namespace with local ids hides the plain one for good.
-/

namespace Mockup.ComponentTable

/-- A rule of a table: the kind of a plain namespace, or that of a local id. -/
inductive Rule where
  | ofFamily (family : String) (kind : ComponentKind)
  | ofLocal (family localId : String) (kind : ComponentKind)
deriving DecidableEq, Repr

namespace Rule

def family : Rule → String
  | ofFamily family _ => family
  | ofLocal family _ _ => family

def isLocal : Rule → Bool
  | ofFamily _ _ => false
  | ofLocal _ _ _ => true

/-- The kind that the rule gives to a plain namespace. -/
def familyKind? (family : String) : Rule → Option ComponentKind
  | ofFamily name kind => if family = name then some kind else none
  | ofLocal _ _ _ => none

/-- The kind that the rule gives to a local id. -/
def localKind? (i : Identity) : Rule → Option ComponentKind
  | ofFamily _ _ => none
  | ofLocal family localId kind =>
    if i.family = family ∧ i.localId = localId then some kind else none

/-- The rule has the namespace looked up by local ids. -/
def Compounds (family : String) (r : Rule) : Prop :=
  r.isLocal = true ∧ r.family = family

instance (family : String) (r : Rule) : Decidable (r.Compounds family) :=
  inferInstanceAs (Decidable (_ ∧ _))

private theorem familyKind?_of_ne {family : String} {r : Rule} (h : r.family ≠ family) :
    r.familyKind? family = none := by
  cases r with
  | ofFamily name kind => exact if_neg (Ne.symm h)
  | ofLocal name localId kind => rfl

private theorem localKind?_of_ne {i : Identity} {r : Rule} (h : r.family ≠ i.family) :
    r.localKind? i = none := by
  cases r with
  | ofFamily name kind => rfl
  | ofLocal name localId kind => exact if_neg fun hi => h hi.1.symm

end Rule

def add (t : ComponentTable) : Rule → ComponentTable
  | .ofFamily family kind => t.setFamily family kind
  | .ofLocal family localId kind => t.setLocal family localId kind

/-- The table with rules added to it, from first to last. -/
def extend (t : ComponentTable) (rules : List Rule) : ComponentTable :=
  rules.foldl add t

def familyKind? (t : ComponentTable) (family : String) : Option ComponentKind :=
  t.families.get? family

def localKind? (t : ComponentTable) (i : Identity) : Option ComponentKind :=
  (t.localKinds.get? i.family).bind (·.get? i.localId)

def isCompound (t : ComponentTable) (family : String) : Bool :=
  t.localKinds.contains family

private theorem lookup_eq (t : ComponentTable) (i : Identity) :
    t.lookup i = (if t.isCompound i.family then t.localKind? i
      else t.familyKind? i.family).getD .container := by
  rw [lookup, isCompound, localKind?, familyKind?, OrderedMap.contains]
  cases t.localKinds.get? i.family <;> rfl

variable (t : ComponentTable) (r : Rule) (rules : List Rule)

private theorem familyKind?_add (family : String) :
    (t.add r).familyKind? family = (r.familyKind? family).or (t.familyKind? family) := by
  cases r with
  | ofFamily name kind =>
    rw [add, familyKind?, setFamily, OrderedMap.get?_insert, Rule.familyKind?]
    split <;> rfl
  | ofLocal name localId kind => rfl

private theorem localKind?_add (i : Identity) :
    (t.add r).localKind? i = (r.localKind? i).or (t.localKind? i) := by
  cases r with
  | ofFamily name kind => rfl
  | ofLocal name localId kind =>
    rw [add, localKind?, localKind?, setLocal, OrderedMap.get?_insert, Rule.localKind?]
    by_cases hfamily : i.family = name
    · rw [if_pos hfamily, Option.bind_some, OrderedMap.get?_insert, hfamily]
      by_cases hlocal : i.localId = localId
      · simp [hlocal]
      · cases t.localKinds.get? name <;> simp [hlocal, OrderedMap.get?, OrderedMap.empty]
    · simp [hfamily]

private theorem isCompound_add (family : String) :
    (t.add r).isCompound family = true ↔ t.isCompound family = true ∨ r.Compounds family := by
  cases r with
  | ofFamily name kind => simp [add, isCompound, setFamily, Rule.Compounds, Rule.isLocal]
  | ofLocal name localId kind =>
    rw [add, isCompound, isCompound, setLocal, OrderedMap.contains, OrderedMap.contains,
      OrderedMap.get?_insert, Rule.Compounds, Rule.isLocal, Rule.family]
    by_cases h : family = name
    · simp [h]
    · simp [h, Ne.symm h]

/-- What the last rule says that says anything counts, else what the table says. -/
theorem view_extend (view : ComponentTable → Option ComponentKind)
    {said : Rule → Option ComponentKind} (hadd : ∀ t r, view (add t r) = (said r).or (view t)) :
    view (t.extend rules) = (rules.reverse.findSome? said).or (view t) := by
  induction rules generalizing t with
  | nil => rfl
  | cons r rules ih =>
    have hrest : view ((t.add r).extend rules) = _ := ih (t.add r)
    rw [extend, List.foldl_cons, ← extend, hrest, hadd, List.reverse_cons, List.findSome?_append,
      Option.or_assoc]
    cases h : said r <;> simp [h]

private theorem isCompound_extend (family : String) :
    (t.extend rules).isCompound family = true ↔
      t.isCompound family = true ∨ ∃ r ∈ rules, r.Compounds family := by
  induction rules generalizing t with
  | nil => simp [extend]
  | cons r rules ih =>
    rw [extend, List.foldl_cons, ← extend, ih, isCompound_add, or_assoc, List.exists_mem_cons_iff]

theorem findSome?_filter {said : Rule → Option ComponentKind} {p : Rule → Bool}
    (h : ∀ r, p r = false → said r = none) (rules : List Rule) :
    (rules.filter p).findSome? said = rules.findSome? said := by
  induction rules with
  | nil => rfl
  | cons r rules ih =>
    cases hp : p r with
    | true => rw [List.filter_cons_of_pos hp, List.findSome?_cons, List.findSome?_cons, ih]
    | false =>
      rw [List.filter_cons_of_neg (by simp [hp]), List.findSome?_cons, h r hp, ih]

private theorem lookup_extend_eq (i : Identity) :
    (t.extend rules).lookup i =
      (if t.isCompound i.family = true ∨ ∃ r ∈ rules, r.Compounds i.family
        then (rules.reverse.findSome? (·.localKind? i)).or (t.localKind? i)
        else (rules.reverse.findSome? (·.familyKind? i.family)).or
          (t.familyKind? i.family)).getD .container := by
  simp only [lookup_eq, isCompound_extend]
  rw [view_extend t rules (localKind? · i) fun t r => localKind?_add t r i,
    view_extend t rules (familyKind? · i.family) fun t r => familyKind?_add t r i.family]

theorem lookup_extend_filter (i : Identity) :
    (t.extend (rules.filter (·.family = i.family))).lookup i = (t.extend rules).lookup i := by
  have hcompounds : (∃ r ∈ rules.filter (·.family = i.family), r.Compounds i.family) ↔
      ∃ r ∈ rules, r.Compounds i.family := by
    simp only [List.mem_filter, decide_eq_true_eq, Rule.Compounds]
    exact exists_congr fun r => ⟨fun h => ⟨h.1.1, h.2⟩, fun h => ⟨⟨h.1, h.2.2⟩, h.2⟩⟩
  rw [lookup_extend_eq, lookup_extend_eq, ← List.filter_reverse,
    findSome?_filter fun r hr => Rule.localKind?_of_ne (of_decide_eq_false hr),
    findSome?_filter fun r hr => Rule.familyKind?_of_ne (of_decide_eq_false hr)]
  simp only [hcompounds]

theorem add_comm {r s : Rule} (h : r.isLocal ≠ s.isLocal) :
    (t.add r).add s = (t.add s).add r := by
  cases r <;> cases s
  case ofFamily.ofFamily | ofLocal.ofLocal => exact absurd rfl h
  case ofFamily.ofLocal | ofLocal.ofFamily => rfl

private theorem extend_add {r : Rule} {rules : List Rule} (h : ∀ s ∈ rules, r.isLocal ≠ s.isLocal) :
    (t.add r).extend rules = (t.extend rules).add r := by
  induction rules generalizing t with
  | nil => rfl
  | cons s rules ih =>
    rw [List.forall_mem_cons] at h
    rw [extend, List.foldl_cons, ← extend, add_comm t h.1, ih _ h.2]
    rfl

/-- The rules for local ids may wait until all others are added. -/
theorem extend_eq : t.extend rules =
    (t.extend (rules.filter (!·.isLocal))).extend (rules.filter (·.isLocal)) := by
  induction rules generalizing t with
  | nil => rfl
  | cons r rules ih =>
    cases hr : r.isLocal with
    | false =>
      rw [List.filter_cons_of_pos (by simp [hr]), List.filter_cons_of_neg (by simp [hr])]
      exact ih (t.add r)
    | true =>
      rw [List.filter_cons_of_neg (by simp [hr]), List.filter_cons_of_pos hr]
      have hothers : ∀ s ∈ rules.filter (!·.isLocal), r.isLocal ≠ s.isLocal := by
        intro s hs
        simpa [hr] using (List.mem_filter.1 hs).2
      calc t.extend (r :: rules) = (t.add r).extend rules := rfl
        _ = ((t.add r).extend (rules.filter (!·.isLocal))).extend (rules.filter (·.isLocal)) :=
          ih (t.add r)
        _ = ((t.extend (rules.filter (!·.isLocal))).add r).extend (rules.filter (·.isLocal)) := by
          rw [extend_add t hothers]

/-- A table says what its history says. The kind of a component is the last one set for its local
id when its namespace has local ids, from the start or by any rule, and else the last one set for
its namespace; it is a container when there is none. Rules for other namespaces do not matter, nor
does the order between rules for namespaces and rules for local ids; and a namespace with local ids
is never looked up among the plain ones. -/
theorem lookup_extend (t : ComponentTable) (rules : List Rule) (i : Identity) :
    let compound := t.isCompound i.family = true ∨ ∃ r ∈ rules, r.Compounds i.family
    (t.extend rules).lookup i =
      (if compound then (rules.reverse.findSome? (·.localKind? i)).or (t.localKind? i)
        else (rules.reverse.findSome? (·.familyKind? i.family)).or
          (t.familyKind? i.family)).getD .container ∧
    (t.extend rules).lookup i = (t.extend (rules.filter (·.family = i.family))).lookup i ∧
    (∀ others : List Rule, others.filter (·.isLocal) = rules.filter (·.isLocal) →
      others.filter (!·.isLocal) = rules.filter (!·.isLocal) → t.extend others = t.extend rules) ∧
    (compound → ∀ families, ({ t with families }.extend rules).lookup i =
      (t.extend rules).lookup i) := by
  intro compound
  refine ⟨lookup_extend_eq t rules i, (lookup_extend_filter t rules i).symm, ?order, ?hides⟩
  case order =>
    intro others hlocals hfamilies
    rw [extend_eq t others, extend_eq t rules, hlocals, hfamilies]
  case hides =>
    intro hcompound families
    have hother : { t with families }.isCompound i.family = true ∨
        ∃ r ∈ rules, r.Compounds i.family := hcompound
    rw [lookup_extend_eq, lookup_extend_eq, if_pos hcompound, if_pos hother]
    rfl

/-- One local id takes the whole namespace away from its plain kind, also from a later one. -/
example : ((standard.extend [.ofLocal "159" "7" .icon, .ofFamily "159" .badge]).lookup
    ⟨"159", "1"⟩, standard.lookup ⟨"159", "1"⟩) = (.container, .button) := by decide

end Mockup.ComponentTable
