import Mathlib.Data.List.Forall2
import Mockup.Lookup.Library
import Mockup.Proofs.Json.Members

/-!
# Attributes

Which values a decoder accepts, and what an optional member of an object contributes to the record
that the object is decoded to.
-/

namespace Mockup.Json

theorem exists_forall₂_iff {α β : Type} {R : α → β → Prop} {items : List α} :
    (∃ as, List.Forall₂ R items as) ↔ ∀ item ∈ items, ∃ a, R item a := by
  induction items with
  | nil => simp
  | cons item items ih =>
    rw [List.forall_mem_cons, ← ih]
    simp only [List.forall₂_cons_left_iff]
    constructor
    · rintro ⟨_, a, as, ha, has, rfl⟩
      exact ⟨⟨a, ha⟩, as, has⟩
    · rintro ⟨⟨a, ha⟩, as, has⟩
      exact ⟨a :: as, a, as, ha, has, rfl⟩

theorem exists_mem_of_forall₂ {α β : Type} {R : α → β → Prop} {items : List α} {as : List β}
    (h : List.Forall₂ R items as) {item : α} (hitem : item ∈ items) : ∃ a ∈ as, R item a := by
  induction h with
  | nil => cases hitem
  | cons hfirst _ ih =>
    rcases List.mem_cons.1 hitem with rfl | hrest
    · exact ⟨_, List.mem_cons_self, hfirst⟩
    · obtain ⟨a, ha, hR⟩ := ih hrest
      exact ⟨a, List.mem_cons_of_mem _ ha, hR⟩

theorem decodeString_eq_ok_iff {v : Value} {s : String} :
    decodeString v = .ok s ↔ v = .string s := by
  cases v <;> simp [decodeString]

theorem Holds.string_iff {values : List Value} {slot : Option String} {s : String}
    (h : Holds decodeString values slot) : values = [.string s] ↔ slot = some s := by
  obtain ⟨rfl, rfl⟩ | ⟨v, t, rfl, ht, rfl⟩ := h
  · simp
  · rw [decodeString_eq_ok_iff.1 ht]
    simp

theorem decodeOptional_eq_some_iff {α : Type} {decode : Value → Except DecodeError α} {v : Value}
    {a : α} : decodeOptional decode v = .ok (some a) ↔ v ≠ .null ∧ decode v = .ok a := by
  cases v <;> simp [decodeOptional, map_eq_ok_iff]

theorem decodeList_eq_ok_iff {α : Type} {decode : Value → Except DecodeError α} {v : Value}
    {as : List α} :
    decodeList decode v = .ok as ↔
      ∃ items, v = .array items ∧ List.Forall₂ (fun item a => decode item = .ok a) items as := by
  have hmapM (items : List Value) : items.mapM decode = .ok as ↔
      List.Forall₂ (fun item a => decode item = .ok a) items as := by
    induction items generalizing as with
    | nil =>
      rw [List.mapM_nil, List.forall₂_nil_left_iff]
      exact ⟨fun h => by cases h; rfl, fun h => by rw [h]; rfl⟩
    | cons item items ih =>
      rw [List.mapM_cons, List.forall₂_cons_left_iff]
      constructor
      · intro h
        obtain ⟨a, ha, hrest⟩ := exists_of_bind_ok h
        obtain ⟨rest, hrests, hpure⟩ := exists_of_bind_ok hrest
        cases hpure
        exact ⟨a, rest, ha, ih.1 hrests, rfl⟩
      · rintro ⟨a, rest, ha, hrests, rfl⟩
        rw [ha, ih.2 hrests]
        rfl
  cases v <;> simp [decodeList, hmapM]

/-- A decoder with the values that it accepts. -/
structure Kind (α : Type) where
  decode : Value → Except DecodeError α
  accepts : Value → Prop
  accepts_of_decode {v : Value} {a : α} : decode v = .ok a → accepts v
  exists_decode {v : Value} : v.Sound → accepts v → ∃ a, decode v = .ok a

namespace Kind

variable {α β : Type}

def ofDecoder (decode : Value → Except DecodeError α) : Kind α where
  decode
  accepts v := ∃ a, decode v = .ok a
  accepts_of_decode h := ⟨_, h⟩
  exists_decode _ h := h

/-- A decoder that accepts the same values whatever they hold. -/
def ofIff (decode : Value → Except DecodeError α) (accepts : Value → Prop)
    (h : ∀ v, (∃ a, decode v = .ok a) ↔ accepts v) : Kind α where
  decode := decode
  accepts := accepts
  accepts_of_decode {v} {a} hv := (h v).1 ⟨a, hv⟩
  exists_decode {v} _ hv := (h v).2 hv

def text : Kind String :=
  ofIff decodeString (fun v => ∃ s, v = .string s) fun v => by simp only [decodeString_eq_ok_iff]

def number : Kind Float :=
  ofIff decodeFloat (fun v => ∃ n, v = .number n) fun v => by
    cases v with
    | number n => cases n <;> simp [decodeFloat]
    | _ => simp [decodeFloat]

/-- What is made of the values that a kind has. -/
def via (k : Kind α) (make : α → β) : Kind β where
  decode v := (k.decode v).map make
  accepts := k.accepts
  accepts_of_decode h := by
    obtain ⟨a, ha, -⟩ := map_eq_ok_iff.1 h
    exact k.accepts_of_decode ha
  exists_decode hv h := by
    obtain ⟨a, ha⟩ := k.exists_decode hv h
    exact ⟨make a, map_eq_ok_iff.2 ⟨a, ha, rfl⟩⟩

def nullable (k : Kind α) : Kind (Option α) where
  decode := decodeOptional k.decode
  accepts v := v = .null ∨ k.accepts v
  accepts_of_decode {v} {a?} h := by
    cases a? with
    | none => cases v <;> simp [decodeOptional, map_eq_ok_iff] at h ⊢
    | some a => exact Or.inr (k.accepts_of_decode (decodeOptional_eq_some_iff.1 h).2)
  exists_decode {v} hv h := by
    by_cases hnull : v = .null
    · exact ⟨none, by rw [hnull]; rfl⟩
    · obtain ⟨a, ha⟩ := k.exists_decode hv (h.resolve_left hnull)
      exact ⟨some a, decodeOptional_eq_some_iff.2 ⟨hnull, ha⟩⟩

theorem exists_decodeName_iff [Named α] (s : String) :
    (∃ a : α, decodeName s = .ok a) ↔ ∃ a ∈ (Named.all : List α), s = Named.name a := by
  have hfind : (∃ a : α, decodeName s = .ok a) ↔ (Named.ofName? s : Option α).isSome := by
    rw [decodeName]
    cases (Named.ofName? s : Option α) <;> simp
  rw [hfind, Named.ofName?, List.find?_isSome]
  simp only [beq_iff_eq]
  exact exists_congr fun a => and_congr_right fun _ => eq_comm

/-- One of the names of a type, by itself or as the only member of an object without content. -/
def named [Named α] : Kind α :=
  ofIff decodeNamedCollected (fun v => ∃ a ∈ (Named.all : List α), v = .string (Named.name a) ∨
    v = .object [(Named.name a, .null)] ∨ v = .object [(Named.name a, .object [])]) fun v => by
    rw [decodeNamedCollected]
    cases v with
    | string s => simp [decodeNamedWholeBy, exists_decodeName_iff]
    | object members =>
      match members with
      | [] => simp [decodeNamedWholeBy]
      | [(name, payload)] =>
        have hempty : payload.isNullOrEmpty = true ↔ payload = .null ∨ payload = .object [] := by
          rcases payload with _ | _ | _ | _ | _ | (_ | _) | _ | _ <;> simp [Value.isNullOrEmpty]
        have hdecode : (∃ a : α, decodeNamedWholeBy Value.isNullOrEmpty decodeName
            (.object [(name, payload)]) = .ok a) ↔
            (∃ a : α, decodeName name = .ok a) ∧ payload.isNullOrEmpty = true := by
          rw [decodeNamedWholeBy]
          cases (decodeName name : Except DecodeError α) <;>
            cases payload.isNullOrEmpty <;> simp [bind, Except.bind, pure, Except.pure]
        rw [hdecode, exists_decodeName_iff, hempty]
        simp [← and_or_left, ← exists_and_right, and_assoc]
      | _ :: _ :: _ => simp [decodeNamedWholeBy]
    | _ => simp [decodeNamedWholeBy]

theorem exists_decodeNamedBy_object_iff (ofName : String → Except DecodeError α)
    (members : List (String × Value)) :
    (∃ a, decodeNamedBy ofName (.object members) = .ok a) ↔
      ∃ s, (∃ a, ofName s = .ok a) ∧ members = [(s, .null)] := by
  constructor
  · intro ⟨a, ha⟩
    rw [decodeNamedBy.eq_def] at ha
    split at ha
    · next heq => cases heq
    · next name payload rest heq =>
      cases heq
      split at ha
      · cases ha
      · cases ha
      · obtain ⟨b, hb, ha⟩ := exists_of_bind_ok ha
        obtain ⟨_, hpayload, ha⟩ := exists_of_bind_ok ha
        have hpayload : payload = .null := by
          cases payload <;> first | rfl | cases hpayload
        split at ha
        · exact ⟨name, ⟨b, hb⟩, by rw [hpayload]⟩
        · cases ha
        · cases ha
    · next heq => cases heq
    · next heq => cases heq
    · cases ha
  · intro ⟨s, ⟨a, ha⟩, hmembers⟩
    rw [hmembers]
    exact ⟨a, by simp [decodeNamedBy, ha, decodeUnit, bind, Except.bind]⟩

/-- A name by itself, or as the only member of an object with `null` in it. -/
def nameBy (ofName : String → Except DecodeError α) (isName : String → Prop)
    (h : ∀ s, (∃ a, ofName s = .ok a) ↔ isName s) : Kind α :=
  ofIff (decodeNamedBy ofName)
    (fun v => ∃ s, isName s ∧ (v = .string s ∨ v = .object [(s, .null)])) fun v => by
    simp only [← h]
    cases v with
    | object members =>
      apply (exists_decodeNamedBy_object_iff ofName members).trans
      simp
    | flawed flaw passed =>
      rw [decodeNamedBy.eq_def]
      split <;> simp_all
    | _ => simp [decodeNamedBy]

def listOf (k : Kind α) : Kind (List α) where
  decode := decodeList k.decode
  accepts v := ∃ items, v = .array items ∧ ∀ item ∈ items, k.accepts item
  accepts_of_decode h := by
    obtain ⟨items, hv, hall⟩ := decodeList_eq_ok_iff.1 h
    refine ⟨items, hv, fun item hitem => ?_⟩
    obtain ⟨a, -, ha⟩ := exists_mem_of_forall₂ hall hitem
    exact k.accepts_of_decode ha
  exists_decode := by
    intro v hv h
    obtain ⟨items, rfl, hall⟩ := h
    obtain ⟨as, has⟩ := exists_forall₂_iff.2 fun item hitem =>
      k.exists_decode (hv.items item hitem) (hall item hitem)
    exact ⟨as, decodeList_eq_ok_iff.2 ⟨items, rfl, has⟩⟩

theorem exists_foldlM_insert_iff {κ : Type} [DecidableEq κ]
    (decode : Value → Except DecodeError α) (key : String → κ) (members : List (String × Value))
    (start : OrderedMap κ α) :
    (∃ m, members.foldlM (fun m member => (decode member.2).map (m.insert (key member.1)))
      start = .ok m) ↔ ∀ member ∈ members, ∃ a, decode member.2 = .ok a := by
  induction members generalizing start with
  | nil => exact ⟨fun _ _ h => absurd h List.not_mem_nil, fun _ => ⟨start, rfl⟩⟩
  | cons member members ih =>
    rw [List.forall_mem_cons]
    constructor
    · intro ⟨m, hm⟩
      rw [List.foldlM_cons] at hm
      obtain ⟨between, hfirst, hrest⟩ := exists_of_bind_ok hm
      obtain ⟨a, ha, -⟩ := map_eq_ok_iff.1 hfirst
      exact ⟨⟨a, ha⟩, (ih between).1 ⟨m, hrest⟩⟩
    · intro ⟨⟨a, ha⟩, hrest⟩
      obtain ⟨m, hm⟩ := (ih (start.insert (key member.1) a)).2 hrest
      refine ⟨m, ?_⟩
      rw [List.foldlM_cons, ha]
      exact hm

theorem exists_decodeMap_iff (decode : Value → Except DecodeError α) (v : Value) :
    (∃ m, decodeMap decode v = .ok m) ↔
      ∃ members, v = .object members ∧ ∀ member ∈ members, ∃ a, decode member.2 = .ok a := by
  cases v with
  | object members =>
    apply (exists_foldlM_insert_iff decode id members .empty).trans
    simp only [Value.object.injEq, exists_eq_left']
  | _ => simp [decodeMap]

/-- Objects with values of one kind, whatever their names. -/
def mapOf (k : Kind α) : Kind (OrderedMap String α) where
  decode := decodeMap k.decode
  accepts v := ∃ members, v = .object members ∧ ∀ member ∈ members, k.accepts member.2
  accepts_of_decode {v} {m} h := by
    obtain ⟨members, hv, hall⟩ := (exists_decodeMap_iff k.decode v).1 ⟨m, h⟩
    refine ⟨members, hv, fun member hmember => ?_⟩
    obtain ⟨a, ha⟩ := hall member hmember
    exact k.accepts_of_decode ha
  exists_decode {v} hv h := by
    obtain ⟨members, rfl, hall⟩ := h
    exact (exists_decodeMap_iff k.decode _).2 ⟨members, rfl, fun member hmember =>
      k.exists_decode (hv.members member hmember) (hall member hmember)⟩

/-- Tables of a library. -/
def tableOf {κ : Type} [DecidableEq κ] (key : String → κ) : Kind (OrderedMap κ String) :=
  ofIff (Library.decodeTable key) (mapOf text).accepts fun v => by
    cases v with
    | object members =>
      apply (exists_foldlM_insert_iff decodeString key members .empty).trans
      simp [mapOf, text, ofIff, decodeString_eq_ok_iff]
    | _ => simp [Library.decodeTable, mapOf]

section

variable (k : Kind α)

@[simp] theorem ofDecoder_decode (decode : Value → Except DecodeError α) :
    (ofDecoder decode).decode = decode := rfl
@[simp] theorem text_decode : text.decode = decodeString := rfl
@[simp] theorem number_decode : number.decode = decodeFloat := rfl
@[simp] theorem nullable_decode : k.nullable.decode = decodeOptional k.decode := rfl
@[simp] theorem named_decode [Named α] : (named : Kind α).decode = decodeNamedCollected := rfl
@[simp] theorem nameBy_decode (ofName : String → Except DecodeError α) (isName : String → Prop)
    (h : ∀ s, (∃ a, ofName s = .ok a) ↔ isName s) :
    (nameBy ofName isName h).decode = decodeNamedBy ofName := rfl
@[simp] theorem listOf_decode : k.listOf.decode = decodeList k.decode := rfl
@[simp] theorem mapOf_decode : k.mapOf.decode = decodeMap k.decode := rfl
@[simp] theorem tableOf_decode {κ : Type} [DecidableEq κ] (key : String → κ) :
    (tableOf key).decode = Library.decodeTable key := rfl

end

end Kind

/-- An optional member of the object that a record is decoded from. -/
structure Attribute (τ : Type) where
  {α : Type}
  name : String
  kind : Kind α
  absent : α
  get : τ → α

namespace Attribute

variable {ρ τ : Type}

/-- The attribute of a record that a part of it has. -/
def of (a : Attribute τ) (part : ρ → τ) : Attribute ρ where
  name := a.name
  kind := a.kind
  absent := a.absent
  get x := a.get (part x)

/-- The member occurs at most once, with a value of its kind. -/
def Fits (a : Attribute τ) (members : List (String × Value)) : Prop :=
  valuesOf a.name members = [] ∨ ∃ v, valuesOf a.name members = [v] ∧ a.kind.accepts v

/-- The record has what the only value under the name is decoded to, or what stands for none. -/
def Reads (a : Attribute τ) (members : List (String × Value)) (x : τ) : Prop :=
  (valuesOf a.name members = [] ∧ a.get x = a.absent) ∨
    ∃ v, valuesOf a.name members = [v] ∧ a.kind.decode v = .ok (a.get x)

variable {a : Attribute τ} {members : List (String × Value)} {x y : τ}

theorem fits_congr {others : List (String × Value)}
    (h : valuesOf a.name members = valuesOf a.name others) : a.Fits members ↔ a.Fits others := by
  rw [Fits, Fits, h]

theorem Fits.fitsOnce (h : a.Fits members) (hsound : ∀ m ∈ members, m.2.Sound) :
    FitsOnce a.kind.decode (valuesOf a.name members) := by
  refine h.imp_right fun ⟨v, hv, haccepts⟩ => ?_
  have hmem : (a.name, v) ∈ members := mem_of_valuesOf (hv ▸ List.mem_cons_self)
  obtain ⟨w, hw⟩ := a.kind.exists_decode (hsound _ hmem) haccepts
  exact ⟨v, w, hv, hw⟩

theorem Reads.fits (h : a.Reads members x) : a.Fits members := by
  obtain ⟨hnil, -⟩ | ⟨v, hv, hdecode⟩ := h
  · exact Or.inl hnil
  · exact Or.inr ⟨v, hv, a.kind.accepts_of_decode hdecode⟩

theorem Reads.get_eq (hx : a.Reads members x) (hy : a.Reads members y) : a.get x = a.get y := by
  obtain ⟨hnil, hx⟩ | ⟨v, hv, hx⟩ := hx <;> obtain ⟨hnil', hy⟩ | ⟨w, hw, hy⟩ := hy
  · rw [hx, hy]
  · cases hnil.symm.trans hw
  · cases hv.symm.trans hnil'
  · cases hv.symm.trans hw
    exact Except.ok.inj (hx.symm.trans hy)

theorem reads_congr {others : List (String × Value)}
    (h : valuesOf a.name members = valuesOf a.name others) :
    a.Reads members x ↔ a.Reads others x := by
  rw [Reads, Reads, h]

theorem Reads.perm {others : List (String × Value)} (h : a.Reads members x)
    (hperm : members.Perm others) : a.Reads others x := by
  obtain ⟨hnil, hx⟩ | ⟨v, hv, hx⟩ := h
  · exact Or.inl ⟨valuesOf_eq_of_perm hperm hnil (by simp), hx⟩
  · exact Or.inr ⟨v, valuesOf_eq_of_perm hperm hv (by simp), hx⟩

/-- Of the members that a record is written with some are left, in any order: the attribute is as it
is written, or as it is without a value. -/
theorem reads_of_subperm {all : List (String × Value)} {v : Value} {w : a.α}
    (h : members.Subperm all) (hnodup : (all.map Prod.fst).Nodup) (hmem : (a.name, v) ∈ all)
    (hdecode : a.kind.decode v = .ok w)
    (hget : a.get x = if a.name ∈ members.map Prod.fst then w else a.absent) :
    a.Reads members x := by
  have hvalues := valuesOf_of_subperm h hnodup hmem
  split at hvalues
  · next hname =>
    rw [if_pos hname] at hget
    exact Or.inr ⟨v, hvalues, hdecode.trans (congrArg _ hget.symm)⟩
  · next hname =>
    rw [if_neg hname] at hget
    exact Or.inl ⟨hvalues, hget⟩

theorem exists_item_of_reads {α : Type} {name : String} {k : Kind α} {get : τ → List α}
    (h : (Attribute.mk name k.listOf [] get).Reads members x) {y : α} (hy : y ∈ get x) :
    ∃ items, (name, .array items) ∈ members ∧ ∃ item ∈ items, k.decode item = .ok y := by
  obtain ⟨-, hnil⟩ | ⟨v, hv, hdecode⟩ := h
  · have hnil : get x = [] := hnil
    rw [hnil] at hy
    cases hy
  · obtain ⟨items, rfl, hall⟩ := decodeList_eq_ok_iff.1 hdecode
    exact ⟨items, mem_of_valuesOf (hv ▸ List.mem_cons_self), exists_mem_of_forall₂ hall.flip hy⟩

end Attribute

/-- An attribute with the slot that keeps its value until all members are decoded. -/
structure Field (σ τ : Type) extends Attribute τ where
  kept : σ → Option α

def Field.slot {σ τ : Type} (f : Field σ τ) : Slot σ where
  name := f.name
  decode := f.kind.decode
  get := f.kept

/-- A record is gathered from slots that members fill one by one. -/
structure Gathers {σ τ : Type} (fields : List (Field σ τ))
    (write : σ → String → Value → Except DecodeError σ) (start : σ) (finish : σ → τ) : Prop where
  fills : Fills (fields.map Field.slot) write
  empty : ∀ f ∈ fields, f.kept start = none
  finished : ∀ f ∈ fields, ∀ state, f.get (finish state) = (f.kept state).getD f.absent
  ext : ∀ x y, (∀ f ∈ fields, f.get x = f.get y) → x = y

section

variable {σ τ : Type} {fields : List (Field σ τ)}
  {write : σ → String → Value → Except DecodeError σ} {start : σ} {finish : σ → τ}
  {members : List (String × Value)}

theorem Field.reads_of_holds {f : Field σ τ} {x : τ} {slot : Option f.α}
    (h : Holds f.kind.decode (valuesOf f.name members) slot)
    (hget : f.get x = slot.getD f.absent) : f.Reads members x := by
  obtain ⟨hnil, rfl⟩ | ⟨v, a, hv, ha, rfl⟩ := h
  · exact Or.inl ⟨hnil, hget⟩
  · exact Or.inr ⟨v, hv, ha.trans (congrArg _ hget.symm)⟩

theorem Gathers.exists_ok (h : Gathers fields write start finish)
    (hsound : ∀ m ∈ members, m.2.Sound) (hfits : ∀ f ∈ fields, f.Fits members) :
    ∃ x, (members.foldlM (fun state m => write state m.1 m.2) start).map finish = .ok x := by
  obtain ⟨after, hafter⟩ := h.fills.exists_foldlM start hsound fun s hs => by
    obtain ⟨f, hf, rfl⟩ := List.mem_map.1 hs
    exact Or.inl ⟨h.empty f hf, (hfits f hf).fitsOnce hsound⟩
  exact ⟨finish after, by rw [hafter]; rfl⟩

theorem Gathers.reads (h : Gathers fields write start finish) {x : τ}
    (hx : (members.foldlM (fun state m => write state m.1 m.2) start).map finish = .ok x) :
    ∀ f ∈ fields, f.Reads members x := by
  obtain ⟨after, hafter, rfl⟩ := map_eq_ok_iff.1 hx
  intro f hf
  exact f.reads_of_holds
    (h.fills.holds (List.mem_map_of_mem hf) (h.empty f hf) hafter) (h.finished f hf after)

/-- The record that the members say is the one that is gathered. -/
theorem Gathers.eq_ok_of_reads (h : Gathers fields write start finish)
    (hsound : ∀ m ∈ members, m.2.Sound) {x : τ} (hx : ∀ f ∈ fields, f.Reads members x) :
    (members.foldlM (fun state m => write state m.1 m.2) start).map finish = .ok x := by
  obtain ⟨y, hy⟩ := h.exists_ok hsound fun f hf => (hx f hf).fits
  have hxy : x = y := h.ext x y fun f hf => (hx f hf).get_eq (h.reads hy f hf)
  rw [hxy]
  exact hy

end

end Mockup.Json
