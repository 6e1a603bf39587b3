import TableExchange.Proofs.Json.ReadBack
import TableExchange.Json.Record

/-!
The parts of records, each with its writer and its reader. A reader inverts a writer on the values
that are meant if it gives back what was written, if what was written is exact, and if nothing else
is ever read. Lists and optional parts inherit this from what they hold. An object offers a field by
the only member of its name.
-/
namespace TableExchange.Json

variable {α : Type} {write : α → Json} {read : Json → Option α} {Meant : α → Prop}

/-- The reader gives back every value that is meant, and no other. -/
structure Inverts (read : Json → Option α) (write : α → Json) (Meant : α → Prop) : Prop where
  back : ∀ {a}, Meant a → read (write a) = some a
  exact : ∀ a, Exact (write a)
  meant : ∀ {j a}, read j = some a → Meant a

abbrev InvertsAll (read : Json → Option α) (write : α → Json) : Prop :=
  Inverts read write fun _ => True

theorem invertsAll (hback : ∀ a, read (write a) = some a) (hexact : ∀ a, Exact (write a)) :
    InvertsAll read write :=
  ⟨fun _ => hback _, hexact, fun _ => trivial⟩

theorem InvertsAll.read_write (h : InvertsAll read write) (a : α) : read (write a) = some a :=
  h.back trivial

theorem inverts_text : InvertsAll text? .string :=
  invertsAll (fun _ => rfl) fun _ => trivial

theorem inverts_bool : InvertsAll bool? .bool :=
  invertsAll (fun _ => rfl) fun _ => trivial

theorem integerIn?_of_within {low high n : Int} (h : low ≤ n ∧ n ≤ high) :
    integerIn? low high (.integer n) = some n :=
  if_pos h

theorem inverts_word32 : InvertsAll word32? fun n : UInt32 => .nat n.toNat := by
  refine invertsAll (fun n => ?_) fun n => ?_
  · have hsize : n.toNat < UInt32.size := n.toNat_lt
    have hwithin : (0 : Int) ≤ n.toNat ∧ (n.toNat : Int) ≤ (UInt32.size : Int) - 1 := by omega
    rw [word32?, nat, integerIn?_of_within hwithin]
    simp
  · have hsize := n.toNat_lt
    exact ⟨by omega, by rw [UInt64.size]; omega⟩

theorem inverts_word64 : InvertsAll word64? fun n : UInt64 => .nat n.toNat := by
  refine invertsAll (fun n => ?_) fun n => ?_
  · have hsize : n.toNat < UInt64.size := n.toNat_lt
    have hwithin : (0 : Int) ≤ n.toNat ∧ (n.toNat : Int) ≤ (UInt64.size : Int) - 1 := by omega
    rw [word64?, nat, integerIn?_of_within hwithin]
    simp
  · exact ⟨by omega, Int.ofNat_lt.mpr n.toNat_lt⟩

theorem inverts_signed32 : InvertsAll signed32? fun n : Int32 => .integer n.toInt := by
  refine invertsAll (fun n => ?_) fun n => ?_
  · rw [signed32?, integerIn?_of_within ⟨n.minValue_le_toInt, n.toInt_le⟩]
    simp
  · have hlow := n.minValue_le_toInt
    have hhigh := n.toInt_lt
    exact ⟨by simp at hlow; omega, by rw [UInt64.size]; omega⟩

theorem inverts_signed64 : InvertsAll signed64? fun n : Int64 => .integer n.toInt := by
  refine invertsAll (fun n => ?_) fun n => ?_
  · rw [signed64?, integerIn?_of_within ⟨n.minValue_le_toInt, n.toInt_le⟩]
    simp
  · have hlow := n.minValue_le_toInt
    have hhigh := n.toInt_lt
    exact ⟨by simpa using hlow, by rw [UInt64.size]; omega⟩

theorem inverts_list (h : InvertsAll read write) :
    InvertsAll (list? read) fun items => .array (items.map write) := by
  refine invertsAll (fun items => ?_) fun items => ?_
  · induction items with
    | nil => rfl
    | cons a rest ih =>
      rw [list?] at ih
      simp [list?, h.read_write, ih]
  · induction items with
    | nil => trivial
    | cons a rest ih => exact ⟨h.exact a, ih⟩

theorem inverts_optional (h : Inverts read write Meant) (hnull : ∀ a, write a ≠ .null) :
    Inverts (nullOr read) (.optional write) fun o => ∀ a ∈ o, Meant a where
  back {o} ho := by
    cases o with
    | none => rfl
    | some a =>
      have hread := h.back (ho a rfl)
      cases hwritten : write a with
      | null => exact absurd hwritten (hnull a)
      | _ => simp_all [nullOr]
  exact
    | none => trivial
    | some a => h.exact a
  meant {j o} hread := by
    rintro a rfl
    unfold nullOr at hread
    split at hread
    · simp at hread
    · obtain ⟨b, hb, hsame⟩ := Option.map_eq_some_iff.mp hread
      obtain rfl := Option.some.inj hsame
      exact h.meant hb

theorem inverts_optional_all (h : InvertsAll read write) (hnull : ∀ a, write a ≠ .null) :
    InvertsAll (nullOr read) (.optional write) :=
  invertsAll (fun _ => (inverts_optional h hnull).back fun _ _ => trivial)
    (inverts_optional h hnull).exact

/-- Alternatives are read back if the table leads from the name of each to itself. -/
theorem inverts_variant [BEq α] {table : List (String × α)}
    (h : ∀ a, variant? table (variantText table a) = some a) :
    InvertsAll (variant? table) (variantText table) := by
  refine invertsAll h fun a => ?_
  unfold variantText
  split <;> trivial

theorem exact_texts (entries : List (String × String)) : Exact (.texts entries) := by
  show ExactMembers (entries.map fun e => (e.1, .string e.2))
  induction entries with
  | nil => trivial
  | cons e rest ih => exact ⟨trivial, ih⟩

@[simp] theorem required_given (j : Json) : (Slot.given j).required read = read j := rfl

@[simp] theorem optional_given (j : Json) : (Slot.given j).optional read = nullOr read j := rfl

@[simp] theorem orElse_given (j : Json) (a : α) : (Slot.given j).orElse read a = read j := rfl

/-- A field with a default takes what is meant if the default is. -/
theorem Inverts.meant_orElse (h : Inverts read write Meant) {slot : Slot} {a default : α}
    (hread : slot.orElse read default = some a) (hdefault : Meant default) : Meant a := by
  cases slot with
  | given j => exact h.meant hread
  | absent | cutOff => exact Option.some.inj hread ▸ hdefault

def valuesOf (name : String) (members : List (String × Json)) : List Json :=
  (members.filter (·.1 == name)).map (·.2)

theorem member?_eq_head? (name : String) (members : List (String × Json)) :
    member? name members = (valuesOf name members).head? := by
  induction members with
  | nil => rfl
  | cons e rest ih =>
    obtain ⟨key, j⟩ := e
    by_cases h : key = name
    · subst h
      simp [member?, valuesOf]
    · have hname : (name == key) = false := beq_eq_false_iff_ne.mpr (Ne.symm h)
      simpa [member?, valuesOf, List.lookup_cons, hname, h] using ih

/-- A field is given by the only member of its name, and missing if there is none. -/
theorem slots_object (name : String) (members : List (String × Json)) :
    slots [name] (.object members) = match valuesOf name members with
      | [] => some [.absent]
      | [j] => some [.given j]
      | _ => none := by
  have hlength : (members.filter (·.1 == name)).length = (valuesOf name members).length :=
    List.length_map _ |>.symm
  simp only [slots, repeats, slotOf, List.any_cons, List.any_nil, Bool.or_false, List.map_cons,
    List.map_nil, hlength, member?_eq_head?]
  rcases valuesOf name members with _ | ⟨j, _ | ⟨j', rest⟩⟩
  · rfl
  · rfl
  · simp

end TableExchange.Json
