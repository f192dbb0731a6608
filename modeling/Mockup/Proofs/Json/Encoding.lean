import Mockup.Component.Table
import Mockup.Node.Encode
import Mockup.Proofs.Json.Attribute
import Mockup.Proofs.OrderedMap

/-!
# Encoded values

What a kind of value is encoded to is decoded to the value again: names, optional values, lists and
maps, from the same of their parts.
-/

namespace Mockup

open Json

namespace Json

theorem Record.ofMembers_pair {σ α : Type} {r : Record σ α} {a b : String} {v w : Value} {x : α}
    (hv : v.Sound) (hw : w.Sound) {first second : σ}
    (hfirst : r.member r.start a v = some (.ok first))
    (hsecond : r.member first b w = some (.ok second)) (hfinish : r.finish second = .ok x) :
    r.ofMembers [(a, v), (b, w)] = .ok x := by
  rw [Record.ofMembers, List.foldlM_cons, Record.step_of_member hv hfirst]
  change (r.step first b w >>= pure) >>= r.finish = _
  rw [Record.step_of_member hw hsecond]
  exact hfinish

/-- Every value of the type is listed, and no two values have one name. -/
class Named.Lawful (α : Type) [Named α] : Prop where
  ofName?_name : ∀ a : α, Named.ofName? (Named.name a) = some a

instance : Named.Lawful LayoutMode := ⟨fun a => by cases a <;> rfl⟩
instance : Named.Lawful Distribution := ⟨fun a => by cases a <;> rfl⟩
instance : Named.Lawful CrossAlign := ⟨fun a => by cases a <;> rfl⟩
instance : Named.Lawful Constraint := ⟨fun a => by cases a <;> rfl⟩
instance : Named.Lawful TextAlign := ⟨fun a => by cases a <;> rfl⟩
instance : Named.Lawful PaintKind := ⟨fun a => by cases a <;> rfl⟩
instance : Named.Lawful PropertyKind := ⟨fun a => by cases a <;> rfl⟩
instance : Named.Lawful ComponentKind := ⟨fun a => by cases a <;> rfl⟩

section

variable {α : Type}

theorem decodeName_name [Named α] [Named.Lawful α] (a : α) :
    decodeName (Named.name a) = .ok a := by
  rw [decodeName, Named.Lawful.ofName?_name]

theorem decodeNamed_encode [Named α] [Named.Lawful α] (a : α) :
    decodeNamed (encodeNamed a) = .ok a :=
  decodeName_name a

theorem decodeNamedCollected_encode [Named α] [Named.Lawful α] (a : α) :
    decodeNamedCollected (encodeNamed a) = .ok a :=
  decodeName_name a

theorem decodeFloat_encode {x : Float} (h : x.isFinite = true) :
    decodeFloat (encodeFloat x) = .ok x := by
  rw [encodeFloat, if_pos h]
  rfl

theorem encodeFloat_ne_null {x : Float} (h : x.isFinite = true) : encodeFloat x ≠ .null := by
  rw [encodeFloat, if_pos h]
  nofun

theorem decodeOptional_encode {decode : Value → Except DecodeError α} {encode : α → Value}
    {a? : Option α} (h : ∀ a ∈ a?, decode (encode a) = .ok a ∧ encode a ≠ .null) :
    decodeOptional decode (encodeOptional encode a?) = .ok a? := by
  cases a? with
  | none => rfl
  | some a =>
    obtain ⟨hdecode, hnull⟩ := h a rfl
    have hopen : decodeOptional decode (encode a) = (decode (encode a)).map some := by
      rw [decodeOptional.eq_def]
      split
      · contradiction
      · rfl
    rw [encodeOptional, hopen, hdecode]
    rfl

theorem decodeList_encode {decode : Value → Except DecodeError α} {encode : α → Value}
    {as : List α} (h : ∀ a ∈ as, decode (encode a) = .ok a) :
    decodeList decode (.array (as.map encode)) = .ok as := by
  refine decodeList_eq_ok_iff.2 ⟨_, rfl, ?_⟩
  rw [List.forall₂_map_left_iff, List.forall₂_same]
  exact h

/-- Members that are decoded are inserted in turn, whatever their names. -/
theorem foldlM_insert_encode {κ : Type} [DecidableEq κ] (key : String → κ)
    {decode : Value → Except DecodeError α} {encode : α → Value} {members : List (String × α)}
    (h : ∀ member ∈ members, decode (encode member.2) = .ok member.2) (start : OrderedMap κ α) :
    (members.map fun member => (member.1, encode member.2)).foldlM
        (fun m member => (decode member.2).map (m.insert (key member.1))) start =
      .ok ((members.map fun member => (key member.1, member.2)).foldl
        (fun m entry => m.insert entry.1 entry.2) start) := by
  induction members generalizing start with
  | nil => rfl
  | cons member rest ih =>
    rw [List.forall_mem_cons] at h
    rw [List.map_cons, List.foldlM_cons, h.1]
    exact ih h.2 _

theorem decodeMap_encode {decode : Value → Except DecodeError α} {encode : α → Value}
    {m : OrderedMap String α} (h : ∀ entry ∈ m.entries, decode (encode entry.2) = .ok entry.2) :
    decodeMap decode (encodeMap encode m) = .ok m := by
  refine (foldlM_insert_encode id h .empty).trans (congrArg _ ?_)
  exact (congrArg OrderedMap.ofList (List.map_id m.entries)).trans m.ofList_entries

end

end Json

end Mockup
