/-
**Values as their texts are read.**

A value is read from its text if all of its numbers are and if it is not nested too deep. What is
read is the same value, but for its numbers.

* `reread?`: the value that is read;
* `nesting`, `isExact`: how deep a value is nested, and whether it is no number that changes;
* `reread?_eq_self_iff`: a value is read as itself exactly if it is not nested too deep and has no
  numbers that change;
* `IsNominal`, `everywhere_reread?`: tests that look only at names say the same of what is read;
* `ReadsBack`: values that are read as themselves.
-/

import Leasehold.Proofs.Json.Numbers
import Leasehold.Proofs.Json.Tree

namespace Leasehold.Json

mutual

/-- The value that is read where at most `depth - 1` arrays and objects may lie in one another. -/
def reread? : Json → Nat → Option Json
  | .number value, _ => value.reread?.map .number
  | .array items, depth =>
    if depth ≤ 1 then none else (rereadItems? items (depth - 1)).map .array
  | .object members, depth =>
    if depth ≤ 1 then none else (rereadMembers? members (depth - 1)).map .object
  | value, _ => some value

/-- The items that are read. -/
def rereadItems? : List Json → Nat → Option (List Json)
  | [], _ => some []
  | item :: rest, depth => do
    let item ← item.reread? depth
    let rest ← rereadItems? rest depth
    some (item :: rest)

/-- The members that are read. -/
def rereadMembers? : List (String × Json) → Nat → Option (List (String × Json))
  | [], _ => some []
  | (name, value) :: rest, depth => do
    let value ← value.reread? depth
    let rest ← rereadMembers? rest depth
    some ((name, value) :: rest)

end

variable {value found : Json} {depth : Nat}

theorem rereadItems?_eq_some_iff {items results : List Json} :
    rereadItems? items depth = some results ↔
      List.Forall₂ (fun item result => item.reread? depth = some result) items results := by
  have same : rereadItems? items depth = items.mapM (reread? · depth) := by
    induction items with
    | nil => rfl
    | cons item rest ih =>
      rw [rereadItems?, ih, List.mapM_cons]
      rfl
  rw [same, mapM_eq_some_iff]

theorem rereadMembers?_eq_some_iff {members results : List (String × Json)} :
    rereadMembers? members depth = some results ↔
      List.Forall₂ (fun member result => result.1 = member.1 ∧
        member.2.reread? depth = some result.2) members results := by
  have same : rereadMembers? members depth =
      members.mapM fun member => (member.2.reread? depth).map (member.1, ·) := by
    induction members with
    | nil => rfl
    | cons member rest ih =>
      rw [rereadMembers?, ih, List.mapM_cons]
      cases member.2.reread? depth <;> rfl
  rw [same, mapM_members_eq_some_iff (reread? · depth)]

theorem reread?_array_eq_some_iff {items : List Json} :
    (array items).reread? depth = some found ↔ 1 < depth ∧ ∃ results, found = array results ∧
      List.Forall₂ (fun item result => item.reread? (depth - 1) = some result) items results := by
  rw [reread?]
  split
  · exact ⟨nofun, fun ⟨deep, _⟩ => absurd deep (by omega)⟩
  · next deep =>
    rw [Option.map_eq_some_iff]
    simp only [rereadItems?_eq_some_iff]
    constructor
    · rintro ⟨results, each, rfl⟩
      exact ⟨by omega, results, rfl, each⟩
    · rintro ⟨_, results, rfl, each⟩
      exact ⟨results, each, rfl⟩

theorem reread?_object_eq_some_iff {members : List (String × Json)} :
    (object members).reread? depth = some found ↔ 1 < depth ∧ ∃ results, found = object results ∧
      List.Forall₂ (fun member result => result.1 = member.1 ∧
        member.2.reread? (depth - 1) = some result.2) members results := by
  rw [reread?]
  split
  · exact ⟨nofun, fun ⟨deep, _⟩ => absurd deep (by omega)⟩
  · next deep =>
    rw [Option.map_eq_some_iff]
    simp only [rereadMembers?_eq_some_iff]
    constructor
    · rintro ⟨results, each, rfl⟩
      exact ⟨by omega, results, rfl, each⟩
    · rintro ⟨_, results, rfl, each⟩
      exact ⟨results, each, rfl⟩

/-! ### Tests of names -/

/-- A test that looks only at the names of members. -/
structure IsNominal (test : Json → Bool) : Prop where
  number : ∀ value, test (.number value) = true
  array : ∀ items, test (.array items) = true
  object : ∀ {members others : List (String × Json)},
    members.map Prod.fst = others.map Prod.fst → test (.object members) = test (.object others)

/-- **A test that looks only at names says the same of the value that is read.** -/
theorem everywhere_reread? {test : Json → Bool} (nominal : IsNominal test)
    (reads : value.reread? depth = some found) : found.everywhere test = value.everywhere test := by
  rw [Bool.eq_iff_iff]
  induction value using Json.induct generalizing depth found with
  | null | bool _ | string _ =>
    cases reads
    rfl
  | number value =>
    obtain ⟨number, _, rfl⟩ := Option.map_eq_some_iff.mp reads
    exact iff_of_true (nominal.number number) (nominal.number value)
  | array items ih =>
    obtain ⟨_, results, rfl, each⟩ := reread?_array_eq_some_iff.mp reads
    rw [everywhere_array_iff, everywhere_array_iff, nominal.array, nominal.array]
    refine and_congr_right fun _ => ⟨fun holds item listed => ?_, fun holds result listed => ?_⟩
    · obtain ⟨result, later, reads⟩ := exists_of_forall₂ each listed
      exact (ih item listed reads).mp (holds result later)
    · obtain ⟨item, before, reads⟩ := exists_of_forall₂ each.flip listed
      exact (ih item before reads).mpr (holds item before)
  | object members ih =>
    obtain ⟨_, results, rfl, each⟩ := reread?_object_eq_some_iff.mp reads
    have names : results.map Prod.fst = members.map Prod.fst := by
      rw [← List.forall₂_eq_eq_eq, List.forall₂_map_left_iff, List.forall₂_map_right_iff]
      exact each.flip.imp fun _ _ both => both.1
    rw [everywhere_object_iff, everywhere_object_iff, nominal.object names]
    refine and_congr_right fun _ => ⟨fun holds member listed => ?_, fun holds result listed => ?_⟩
    · obtain ⟨result, later, _, reads⟩ := exists_of_forall₂ each listed
      exact (ih member listed reads).mp (holds result later)
    · obtain ⟨member, before, _, reads⟩ := exists_of_forall₂ each.flip listed
      exact (ih member before reads).mpr (holds member before)

/-! ### Values that are read as themselves -/

mutual

/-- How many arrays and objects lie in one another. -/
def nesting : Json → Nat
  | .array items => itemsNesting items + 1
  | .object members => membersNesting members + 1
  | _ => 0

/-- The deepest nesting of some items. -/
def itemsNesting : List Json → Nat
  | [] => 0
  | item :: rest => max item.nesting (itemsNesting rest)

/-- The deepest nesting of the values of some members. -/
def membersNesting : List (String × Json) → Nat
  | [] => 0
  | (_, value) :: rest => max value.nesting (membersNesting rest)

end

theorem itemsNesting_lt_iff {items : List Json} (left : 0 < depth) :
    itemsNesting items < depth ↔ ∀ item ∈ items, item.nesting < depth := by
  induction items with
  | nil => simpa [itemsNesting] using left
  | cons item rest ih => rw [itemsNesting, Nat.max_lt, ih, List.forall_mem_cons]

theorem membersNesting_lt_iff {members : List (String × Json)} (left : 0 < depth) :
    membersNesting members < depth ↔ ∀ member ∈ members, member.2.nesting < depth := by
  induction members with
  | nil => simpa [membersNesting] using left
  | cons member rest ih => rw [membersNesting, Nat.max_lt, ih, List.forall_mem_cons]

/-- Whether a value is no number, or a number whose text is read as itself. -/
def isExact : Json → Bool
  | .number value => decide (value.reread? = some value)
  | _ => true

/-- **A value is read as itself exactly if it is not nested too deep and has no numbers that
change.** -/
theorem reread?_eq_self_iff (left : 0 < depth) :
    value.reread? depth = some value ↔
      value.nesting < depth ∧ value.everywhere isExact = true := by
  induction value using Json.induct generalizing depth with
  | null | bool _ | string _ => exact iff_of_true rfl ⟨left, rfl⟩
  | number value =>
    have same : value.reread?.map Json.number = some (.number value) ↔
        value.reread? = some value := by
      rw [Option.map_eq_some_iff]
      exact ⟨fun ⟨_, reads, same⟩ => Json.number.inj same ▸ reads, fun reads => ⟨value, reads, rfl⟩⟩
    exact same.trans ⟨fun reads => ⟨left, decide_eq_true reads⟩, fun ⟨_, reads⟩ =>
      of_decide_eq_true reads⟩
  | array items ih =>
    rw [reread?_array_eq_some_iff, everywhere_array_iff, nesting]
    constructor
    · rintro ⟨deep, results, same, each⟩
      cases same
      have each : ∀ item ∈ items, item.nesting < depth - 1 ∧ item.everywhere isExact = true :=
        fun item listed => (ih item listed (by omega)).mp (List.forall₂_same.mp each item listed)
      have within := (itemsNesting_lt_iff (by omega)).mpr fun item listed => (each item listed).1
      exact ⟨by omega, rfl, fun item listed => (each item listed).2⟩
    · rintro ⟨within, _, exact⟩
      have within := (itemsNesting_lt_iff (by omega)).mp (Nat.lt_sub_of_add_lt within)
      exact ⟨by omega, items, rfl, List.forall₂_same.mpr fun item listed =>
        (ih item listed (by omega)).mpr ⟨within item listed, exact item listed⟩⟩
  | object members ih =>
    rw [reread?_object_eq_some_iff, everywhere_object_iff, nesting]
    constructor
    · rintro ⟨deep, results, same, each⟩
      cases same
      have each : ∀ member ∈ members,
          member.2.nesting < depth - 1 ∧ member.2.everywhere isExact = true :=
        fun member listed =>
          (ih member listed (by omega)).mp (List.forall₂_same.mp each member listed).2
      have within := (membersNesting_lt_iff (by omega)).mpr fun member listed =>
        (each member listed).1
      exact ⟨by omega, rfl, fun member listed => (each member listed).2⟩
    · rintro ⟨within, _, exact⟩
      have within := (membersNesting_lt_iff (by omega)).mp (Nat.lt_sub_of_add_lt within)
      exact ⟨by omega, members, rfl, List.forall₂_same.mpr fun member listed =>
        ⟨rfl, (ih member listed (by omega)).mpr ⟨within member listed, exact member listed⟩⟩⟩

/-- A value that is nested no deeper than `depth` and is read as itself. -/
def ReadsBack (value : Json) (depth : Nat) : Prop := value.reread? (depth + 1) = some value

namespace ReadsBack

theorem null : Json.null.ReadsBack depth := rfl

theorem string (value : String) : (Json.string value).ReadsBack depth := rfl

theorem nat (word : UInt64) : (Json.nat word.toNat).ReadsBack depth := by
  have lower : -0x8000000000000000 ≤ (word.toNat : Int) := by omega
  have upper : (word.toNat : Int) < 0x10000000000000000 := Int.ofNat_lt.mpr word.toNat_lt
  exact congrArg (Option.map Json.number) (Number.reread?_whole lower upper)

theorem ofOption {value : Option Json} (each : ∀ held ∈ value, held.ReadsBack depth) :
    (Json.ofOption value).ReadsBack depth := by
  cases value with
  | none => exact null
  | some held => exact each held rfl

theorem array {items : List Json} (each : ∀ item ∈ items, item.ReadsBack depth) :
    (Json.array items).ReadsBack (depth + 1) :=
  reread?_array_eq_some_iff.mpr ⟨Nat.le_add_left 2 depth, items, rfl,
    List.forall₂_same.mpr each⟩

theorem object {members : List (String × Json)}
    (each : ∀ member ∈ members, member.2.ReadsBack depth) :
    (Json.object members).ReadsBack (depth + 1) :=
  reread?_object_eq_some_iff.mpr ⟨Nat.le_add_left 2 depth, members, rfl,
    List.forall₂_same.mpr fun member listed => ⟨rfl, each member listed⟩⟩

theorem ofTexts (texts : List String) : (Json.ofTexts texts).ReadsBack (depth + 1) :=
  array (List.forall_mem_map.mpr fun text _ => string text)

theorem ofDictionary {α : Type} {write : α → Json} (each : ∀ value, (write value).ReadsBack depth)
    (dictionary : Dictionary α) : (Json.ofDictionary write dictionary).ReadsBack (depth + 1) :=
  object (List.forall_mem_map.mpr fun entry _ => each entry.2)

end ReadsBack

end Leasehold.Json
