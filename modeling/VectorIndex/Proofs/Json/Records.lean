import Mathlib.Data.List.Nodup
import Mathlib.Data.Option.Basic
import VectorIndex.Json.Record
import VectorIndex.Proofs.Association

/-!
# Records that are written and read back

The members of an object may change places between the writer and the reader.  `Value.Reordered`
says that two values are the same but for such changes, at any depth, and `Reads` that a decoder
finds the same in all of them.

A record is written from a list of slots, some of them empty (`present`).  Whatever order its
members arrive in, under the name of each slot is found what was put in it (`fields?_of_reordered`),
so that a field is read back whether it has to be there, has a default, or may be absent.
-/

set_option autoImplicit false

namespace VectorIndex.Json

/-! ## Members that change places -/

/-- Values that differ in nothing but the order of the members of their objects. -/
inductive Value.Reordered : Value → Value → Prop
  | refl (v : Value) : Value.Reordered v v
  | trans {u v w : Value} (h : Value.Reordered u v) (h' : Value.Reordered v w) :
      Value.Reordered u w
  | swapped {members members' : List (String × Value)} (h : members.Perm members') :
      Value.Reordered (.object members) (.object members')
  | within {front back : List (String × Value)} {name : String} {v v' : Value}
      (h : Value.Reordered v v') :
      Value.Reordered (.object (front ++ (name, v) :: back)) (.object (front ++ (name, v') :: back))

namespace Value.Reordered

/-- What is not an object has no members that could change places. -/
theorem eq_of_ne_object {v w : Value} (h : Reordered v w)
    (hv : ∀ members, v ≠ .object members) : w = v := by
  induction h with
  | refl => rfl
  | trans h h' ih ih' =>
    obtain rfl := ih hv
    exact ih' hv
  | swapped => exact absurd rfl (hv _)
  | within => exact absurd rfl (hv _)

/-- A member is the same as itself, whatever the order. -/
theorem rel_refl (found : Option Value) : Option.Rel Reordered found found := by
  cases found with
  | none => exact .none
  | some v => exact .some (refl v)

/-- Members that are the same in some order are so across a third one. -/
theorem rel_trans {a b c : Option Value} (h : Option.Rel Reordered a b)
    (h' : Option.Rel Reordered b c) : Option.Rel Reordered a c := by
  cases h with
  | none => exact h'
  | some h =>
    cases h' with
    | some h' => exact .some (h.trans h')

/-- In an object without repeated names the same names are left, and under each of them the same
value but for the order of members. -/
theorem exists_members {members : List (String × Value)} {w : Value}
    (h : Reordered (.object members) w) (hnodup : (members.map Prod.fst).Nodup) :
    ∃ members', w = .object members' ∧ (members.map Prod.fst).Perm (members'.map Prod.fst) ∧
      ∀ name, Option.Rel Reordered (members.lookup name) (members'.lookup name) := by
  generalize hobject : Value.object members = v at h
  induction h generalizing members with
  | refl => exact ⟨members, hobject.symm, .refl _, fun _ => rel_refl _⟩
  | trans h h' ih ih' =>
    obtain ⟨inner, rfl, hnames, hfound⟩ := ih hnodup hobject
    obtain ⟨outer, rfl, hnames', hfound'⟩ := ih' (hnames.nodup_iff.1 hnodup) rfl
    exact ⟨outer, rfl, hnames.trans hnames', fun name => rel_trans (hfound name) (hfound' name)⟩
  | swapped hperm =>
    obtain rfl := Value.object.inj hobject
    refine ⟨_, rfl, hperm.map Prod.fst, fun name => ?_⟩
    rw [Association.lookup_of_perm hperm hnodup]
    exact rel_refl _
  | @within front back changed v v' h ih =>
    obtain rfl := Value.object.inj hobject
    refine ⟨_, rfl, by simp, fun name => ?_⟩
    rw [List.lookup_append, List.lookup_append, List.lookup_cons, List.lookup_cons]
    cases front.lookup name with
    | some u => exact rel_refl _
    | none =>
      cases name == changed with
      | true => exact .some h
      | false => exact rel_refl _

end Value.Reordered

/-- A decoder finds a value in what was written for it, in whatever order the members come. -/
def Reads {α : Type} (decode : Decoder α) (v : Value) (a : α) : Prop :=
  ∀ w, v.Reordered w → decode w = some a

/-- A reader of what is no object need not care for the order of members. -/
theorem Reads.of_ne_object {α : Type} {decode : Decoder α} {v : Value} {a : α}
    (h : decode v = some a) (hv : ∀ members, v ≠ .object members) : Reads decode v a := by
  intro w hw
  rw [hw.eq_of_ne_object hv, h]

/-! ## Leaves -/

/-- A text is read from its value. -/
theorem reads_string (s : String) : Reads .string (.string s) s :=
  .of_ne_object rfl (fun _ => nofun)

/-- A truth value is read from its value. -/
theorem reads_bool (b : Bool) : Reads .bool (.bool b) b :=
  .of_ne_object rfl (fun _ => nofun)

/-- A machine number is read from its value. -/
theorem reads_word (n : UInt64) : Reads .word (.word n) n := by
  refine .of_ne_object ?_ (fun _ => nofun)
  have hlt : n.toNat < 0x10000000000000000 := n.toNat_lt
  change (if 0 ≤ (n.toNat : Int) ∧ (n.toNat : Int) < 0x10000000000000000
    then some (UInt64.ofNat (n.toNat : Int).toNat) else none) = some n
  rw [if_pos (by omega), Int.toNat_natCast, UInt64.ofNat_toNat]

/-- A short machine number is read from its value. -/
theorem reads_word32 (n : UInt32) : Reads .word32 (.int n.toNat) n := by
  refine .of_ne_object ?_ (fun _ => nofun)
  have hlt : n.toNat < 0x100000000 := n.toNat_lt
  change (if 0 ≤ (n.toNat : Int) ∧ (n.toNat : Int) < 0x100000000
    then some (UInt32.ofNat (n.toNat : Int).toNat) else none) = some n
  rw [if_pos (by omega), Int.toNat_natCast, UInt32.ofNat_toNat]

/-- A signed number is read from its value. -/
theorem reads_int64 (n : Int64) : Reads .int64 (.int n.toInt) n := by
  refine .of_ne_object ?_ (fun _ => nofun)
  have hlow : -0x8000000000000000 ≤ n.toInt := n.le_toInt
  have hhigh : n.toInt < 0x8000000000000000 := n.toInt_lt
  change (if -0x8000000000000000 ≤ n.toInt ∧ n.toInt < 0x8000000000000000
    then some (Int64.ofInt n.toInt) else none) = some n
  rw [if_pos ⟨hlow, hhigh⟩, Int64.ofInt_toInt]

/-- A choice is written as its name. -/
theorem reads_choice {α : Type} {table : List (String × α)} {name : String} {a : α}
    (h : table.lookup name = some a) : Reads (.choice table) (.string name) a :=
  .of_ne_object h (fun _ => nofun)

/-! ## Records -/

/-- The members of a record.  Empty slots are left out. -/
def present (slots : List (String × Option Value)) : List (String × Value) :=
  slots.filterMap fun slot => slot.2.map (slot.1, ·)

/-- Without slots nothing is present. -/
theorem present_nil : present [] = [] :=
  rfl

/-- A slot that may be empty is an optional member. -/
theorem present_cons {α : Type} (name : String) (encode : α → Value) (a : Option α)
    (slots : List (String × Option Value)) :
    present ((name, a.map encode) :: slots) = member? name encode a ++ present slots := by
  cases a <;> rfl

variable {slots : List (String × Option Value)}

/-- The names that are present are among those of the slots, in their order. -/
theorem map_fst_present_sublist (slots : List (String × Option Value)) :
    ((present slots).map Prod.fst).Sublist (slots.map Prod.fst) := by
  induction slots with
  | nil => exact .slnil
  | cons slot slots ih =>
    obtain ⟨name, _ | v⟩ := slot
    · exact ih.cons name
    · exact ih.cons_cons name

/-- What is found among the members under the name of a slot is what the slot holds. -/
theorem lookup_present (hnodup : (slots.map Prod.fst).Nodup) {slot : String × Option Value}
    (hslot : slot ∈ slots) : (present slots).lookup slot.1 = slot.2 := by
  have hmembers : ((present slots).map Prod.fst).Nodup :=
    hnodup.sublist (map_fst_present_sublist slots)
  obtain ⟨name, held⟩ := slot
  cases held with
  | some v =>
    refine Association.lookup_of_mem ?_ hmembers
    exact List.mem_filterMap.2 ⟨(name, some v), hslot, rfl⟩
  | none =>
    refine List.lookup_eq_none_iff.2 fun member hmember => bne_iff_ne.2 ?_
    rintro rfl
    -- no other slot has the same name
    obtain ⟨⟨name', held'⟩, hslot', hheld⟩ := List.mem_filterMap.1 hmember
    obtain ⟨v, rfl, rfl⟩ := Option.map_eq_some_iff.1 hheld
    have hsame := List.inj_on_of_nodup_map hnodup hslot hslot' rfl
    cases hsame

/-- Names that differ do not repeat. -/
theorem repeats_eq_false {names : List String} (h : names.Nodup) : repeats names = false := by
  induction names with
  | nil => rfl
  | cons name names ih =>
    obtain ⟨hname, hnames⟩ := List.nodup_cons.1 h
    unfold repeats
    rw [ih hnames, Bool.or_false]
    exact Bool.eq_false_iff.2 fun hmem => hname (List.contains_iff_mem.1 hmem)

/-- A record whose members have changed places is read, strictly or not, and under the name of each
slot is found what the slot holds. -/
theorem fields?_of_reordered {w : Value} (h : (Value.object (present slots)).Reordered w)
    (hnodup : (slots.map Prod.fst).Nodup) (strict : Bool) :
    ∃ fields, fields? (slots.map Prod.fst) strict w = some fields ∧
      ∀ slot ∈ slots, Option.Rel Value.Reordered slot.2 (fields.lookup slot.1) := by
  have hsublist := map_fst_present_sublist slots
  obtain ⟨members, rfl, hnames, hfound⟩ := h.exists_members (hnodup.sublist hsublist)
  refine ⟨members, ?_, fun slot hslot => lookup_present hnodup hslot ▸ hfound slot.1⟩
  have hknown : members.filter (fun m => (slots.map Prod.fst).contains m.1) = members := by
    refine List.filter_eq_self.2 fun m hm => List.contains_iff_mem.2 ?_
    exact hsublist.subset (hnames.mem_iff.2 (List.mem_map_of_mem hm))
  have hrepeats : repeats (members.map Prod.fst) = false :=
    repeats_eq_false (hnames.nodup_iff.1 (hnodup.sublist hsublist))
  unfold fields?
  dsimp only
  rw [hknown, hrepeats]
  simp

/-- A decoder of records may rely on what the slots hold. -/
theorem bind_fields?_eq {α : Type} {names : List String} {strict : Bool} {w : Value}
    {rest : Fields → Option α} {a : α} (hnames : slots.map Prod.fst = names)
    (hnodup : names.Nodup) (h : (Value.object (present slots)).Reordered w)
    (hrest : ∀ fields : Fields,
      (∀ slot ∈ slots, Option.Rel Value.Reordered slot.2 (fields.lookup slot.1)) →
        rest fields = some a) : (fields? names strict w >>= rest) = some a := by
  subst hnames
  obtain ⟨fields, hfields, hfound⟩ := fields?_of_reordered h hnodup strict
  rw [hfields]
  exact hrest fields hfound

/-! ## Fields -/

namespace Fields

variable {α : Type} {fields : Fields} {name : String} {decode : Decoder α} {v : Value} {a : α}

/-- A required field is read from a member that is the same in some order. -/
theorem required_of_rel (h : Option.Rel Value.Reordered (some v) (fields.lookup name))
    (hreads : Reads decode v a) : fields.required name decode = some a := by
  unfold required
  generalize fields.lookup name = found at h
  cases h with
  | some h => exact hreads _ h

/-- A field with a default is read from its member, if there is one. -/
theorem orElse_of_rel {default : α}
    (h : Option.Rel Value.Reordered (some v) (fields.lookup name)) (hreads : Reads decode v a) :
    fields.orElse name decode default = some a := by
  unfold orElse
  generalize fields.lookup name = found at h
  cases h with
  | some h => exact hreads _ h

/-- A value that is not null is read as present. -/
theorem optional_eq {w : Value} (hnull : decode .null = none) (h : decode w = some a) :
    Decoder.optional decode w = some (some a) := by
  unfold Decoder.optional
  split
  · cases hnull.symm.trans h
  · rw [h]
    rfl

/-- An optional field is read back, whether it is there or not. -/
theorem option_of_rel {encode : α → Value} {choice : Option α}
    (h : Option.Rel Value.Reordered (choice.map encode) (fields.lookup name))
    (hnull : decode .null = none) (hreads : ∀ a, choice = some a → Reads decode (encode a) a) :
    fields.option name decode = some choice := by
  unfold option orElse
  generalize fields.lookup name = found at h
  cases choice with
  | none =>
    cases h
    rfl
  | some a =>
    cases h with
    | some h => exact optional_eq hnull (hreads a rfl _ h)

/-- An optional field may also be written as `null`. -/
theorem option_of_rel_null (h : Option.Rel Value.Reordered (some .null) (fields.lookup name)) :
    fields.option name decode = some none := by
  unfold option orElse
  generalize fields.lookup name = found at h
  cases h with
  | some h =>
    rw [h.eq_of_ne_object fun _ => nofun]
    rfl

/-- An optional field is read from its member, if there is one. -/
theorem option_of_rel_some (h : Option.Rel Value.Reordered (some v) (fields.lookup name))
    (hnull : decode .null = none) (hreads : Reads decode v a) :
    fields.option name decode = some (some a) := by
  unfold option orElse
  generalize fields.lookup name = found at h
  cases h with
  | some h => exact optional_eq hnull (hreads _ h)

end Fields

end VectorIndex.Json
