/-
**Values as trees.**

* `Json.induct`: induction over a value, its items and the values of its members;
* `Json.everywhere`: a test that holds of a value and of all values in it;
* `Json.isSorted`: every object in a value has its members in strictly ascending order;
* `canonical_of_isSorted`, `isSorted_canonical`: these are the canonical values;
* `Dictionary.ofList_entries`: the entries of a dictionary make it up.
-/

import Mathlib.Data.List.Forall2
import Leasehold.Json.Record

namespace Leasehold

variable {α : Type}

/-! ### Entries in order -/

/-- An entry with the largest key comes last. -/
theorem insertEntry_of_lt {key : String} {value : α} {entries : List (String × α)}
    (last : ∀ entry ∈ entries, entry.1 < key) :
    insertEntry key value entries = entries ++ [(key, value)] := by
  induction entries with
  | nil => rfl
  | cons head rest ih =>
    obtain ⟨other, held⟩ := head
    have before : other < key := last (other, held) List.mem_cons_self
    have notBefore : ¬key < other := fun after => String.lt_irrefl _ (String.lt_trans after before)
    have different : key ≠ other := fun same => String.lt_irrefl _ (same ▸ before)
    rw [insertEntry, if_neg notBefore, if_neg different,
      ih fun entry listed => last entry (List.mem_cons_of_mem _ listed), List.cons_append]

/-- The keys before an insertion are keys after it, and so is the new one. -/
theorem exists_mem_insertEntry {key : String} {value : α} {entries : List (String × α)}
    {name : String} (named : name = key ∨ ∃ entry ∈ entries, entry.1 = name) :
    ∃ entry ∈ insertEntry key value entries, entry.1 = name := by
  induction entries with
  | nil =>
    rcases named with rfl | ⟨_, listed, _⟩
    · exact ⟨(name, value), List.mem_singleton_self _, rfl⟩
    · cases listed
  | cons head rest ih =>
    obtain ⟨other, held⟩ := head
    rw [insertEntry]
    split
    · rcases named with rfl | ⟨entry, listed, rfl⟩
      · exact ⟨_, List.mem_cons_self, rfl⟩
      · exact ⟨entry, List.mem_cons_of_mem _ listed, rfl⟩
    · split
      · next same =>
        rcases named with rfl | ⟨entry, listed, rfl⟩
        · exact ⟨_, List.mem_cons_self, rfl⟩
        · rcases List.mem_cons.mp listed with rfl | later
          · exact ⟨_, List.mem_cons_self, same⟩
          · exact ⟨entry, List.mem_cons_of_mem _ later, rfl⟩
      · rcases named with rfl | ⟨entry, listed, rfl⟩
        · obtain ⟨entry, later, same⟩ := ih (.inl rfl)
          exact ⟨entry, List.mem_cons_of_mem _ later, same⟩
        · rcases List.mem_cons.mp listed with rfl | later
          · exact ⟨_, List.mem_cons_self, rfl⟩
          · obtain ⟨found, later, same⟩ := ih (.inr ⟨entry, later, rfl⟩)
            exact ⟨found, List.mem_cons_of_mem _ later, same⟩

/-- **The entries of a dictionary make it up.** -/
theorem Dictionary.ofList_entries (dictionary : Dictionary α) :
    Dictionary.ofList dictionary.entries = dictionary := by
  -- The entries so far are in order with those that follow.
  have appends : ∀ (later : List (String × α)) (earlier : Dictionary α),
      (earlier.entries ++ later).Pairwise (fun first second => first.1 < second.1) →
      (later.foldl (fun dictionary entry => dictionary.insert entry.1 entry.2) earlier).entries =
        earlier.entries ++ later := by
    intro later
    induction later with
    | nil => exact fun earlier _ => (List.append_nil _).symm
    | cons entry rest ih =>
      intro earlier order
      have inserted : (earlier.insert entry.1 entry.2).entries = earlier.entries ++ [entry] :=
        insertEntry_of_lt fun before listed =>
          (List.pairwise_append.mp order).2.2 before listed entry List.mem_cons_self
      rw [List.foldl_cons, ih _ (by rw [inserted]; simpa using order), inserted]
      simp
  exact ext (appends dictionary.entries .empty dictionary.sorted)

/-! ### Lists of results -/

/-- A list of results has one for each item. -/
theorem mapM_eq_some_iff {β : Type} {action : α → Option β} {items : List α} {results : List β} :
    items.mapM action = some results ↔
      List.Forall₂ (fun item result => action item = some result) items results := by
  induction items generalizing results with
  | nil => simp [eq_comm]
  | cons item rest ih =>
    rw [List.mapM_cons]
    constructor
    · intro ran
      obtain ⟨first, here, ran⟩ := Option.bind_eq_some_iff.mp ran
      obtain ⟨others, there, same⟩ := Option.bind_eq_some_iff.mp ran
      cases same
      exact .cons here (ih.mp there)
    · rintro (_ | ⟨here, there⟩)
      rw [here, ih.mpr there]
      rfl

/-- A list of results for the values of some members, each with its name. -/
theorem mapM_members_eq_some_iff {β : Type} (action : α → Option β) {members : List (String × α)}
    {results : List (String × β)} :
    (members.mapM fun member => (action member.2).map (member.1, ·)) = some results ↔
      List.Forall₂ (fun member result => result.1 = member.1 ∧ action member.2 = some result.2)
        members results := by
  have each : ∀ (member : String × α) (result : String × β),
      (action member.2).map (member.1, ·) = some result ↔
        result.1 = member.1 ∧ action member.2 = some result.2 := by
    rintro ⟨name, value⟩ ⟨name', value'⟩
    constructor
    · intro acts
      obtain ⟨found, acts, same⟩ := Option.map_eq_some_iff.mp acts
      cases same
      exact ⟨rfl, acts⟩
    · rintro ⟨rfl, acts⟩
      exact Option.map_eq_some_iff.mpr ⟨value', acts, rfl⟩
  rw [mapM_eq_some_iff]
  simp only [each]

/-- Whatever has a partner in a list. -/
theorem exists_of_forall₂ {β : Type} {relation : α → β → Prop} {firsts : List α} {seconds : List β}
    (pairs : List.Forall₂ relation firsts seconds) {first : α} (listed : first ∈ firsts) :
    ∃ second ∈ seconds, relation first second := by
  induction pairs with
  | nil => cases listed
  | cons related _ ih =>
    rcases List.mem_cons.mp listed with rfl | later
    · exact ⟨_, List.mem_cons_self, related⟩
    · obtain ⟨second, listed, related⟩ := ih later
      exact ⟨second, List.mem_cons_of_mem _ listed, related⟩

namespace Json

/-- Induction over a value, its items and the values of its members. -/
theorem induct {motive : Json → Prop} (null : motive .null) (bool : ∀ value, motive (.bool value))
    (number : ∀ value, motive (.number value)) (string : ∀ value, motive (.string value))
    (array : ∀ items, (∀ item ∈ items, motive item) → motive (.array items))
    (object : ∀ members, (∀ member ∈ members, motive member.2) → motive (.object members)) :
    ∀ value, motive value :=
  @Json.rec motive (fun items => ∀ item ∈ items, motive item)
    (fun members => ∀ member ∈ members, motive member.2) (fun member => motive member.2)
    null bool number string array object
    (List.forall_mem_nil _) (fun _ _ first rest => List.forall_mem_cons.mpr ⟨first, rest⟩)
    (List.forall_mem_nil _) (fun _ _ first rest => List.forall_mem_cons.mpr ⟨first, rest⟩)
    (fun _ _ value => value)

mutual

/-- Whether a test holds of a value and of all values in it. -/
def everywhere (test : Json → Bool) : Json → Bool
  | .array items => test (.array items) && itemsEverywhere test items
  | .object members => test (.object members) && membersEverywhere test members
  | value => test value

/-- Whether a test holds everywhere in some items. -/
def itemsEverywhere (test : Json → Bool) : List Json → Bool
  | [] => true
  | item :: rest => item.everywhere test && itemsEverywhere test rest

/-- Whether a test holds everywhere in the values of some members. -/
def membersEverywhere (test : Json → Bool) : List (String × Json) → Bool
  | [] => true
  | (_, value) :: rest => value.everywhere test && membersEverywhere test rest

end

variable {test : Json → Bool}

theorem itemsEverywhere_iff {items : List Json} :
    itemsEverywhere test items = true ↔ ∀ item ∈ items, item.everywhere test = true := by
  induction items with
  | nil => simp [itemsEverywhere]
  | cons item rest ih => simp [itemsEverywhere, ih]

theorem membersEverywhere_iff {members : List (String × Json)} :
    membersEverywhere test members = true ↔
      ∀ member ∈ members, member.2.everywhere test = true := by
  induction members with
  | nil => simp [membersEverywhere]
  | cons member rest ih => simp [membersEverywhere, ih]

theorem everywhere_array_iff {items : List Json} :
    (array items).everywhere test = true ↔
      test (.array items) = true ∧ ∀ item ∈ items, item.everywhere test = true := by
  rw [everywhere, Bool.and_eq_true, itemsEverywhere_iff]

theorem everywhere_object_iff {members : List (String × Json)} :
    (object members).everywhere test = true ↔
      test (.object members) = true ∧ ∀ member ∈ members, member.2.everywhere test = true := by
  rw [everywhere, Bool.and_eq_true, membersEverywhere_iff]

/-! ### Canonical values -/

/-- Whether a value is no object, or has its members in strictly ascending order. -/
def hasSortedMembers : Json → Bool
  | .object members => decide (members.Pairwise fun first second => first.1 < second.1)
  | _ => true

/-- Whether every object in a value has its members in strictly ascending order. -/
def isSorted (value : Json) : Bool := value.everywhere hasSortedMembers

theorem canonicalItems_eq (items : List Json) : canonicalItems items = items.map canonical := by
  induction items with
  | nil => rfl
  | cons item rest ih => rw [canonicalItems, ih, List.map_cons]

/-- Members in order are appended as they come. -/
theorem canonicalMembers_of_pairwise {members sorted : List (String × Json)}
    (order : (sorted ++ members).Pairwise fun first second => first.1 < second.1)
    (same : ∀ member ∈ members, member.2.canonical = member.2) :
    canonicalMembers members sorted = sorted ++ members := by
  induction members generalizing sorted with
  | nil => rw [canonicalMembers, List.append_nil]
  | cons member rest ih =>
    obtain ⟨name, value⟩ := member
    have last : ∀ entry ∈ sorted, entry.1 < name := fun entry listed =>
      (List.pairwise_append.mp order).2.2 entry listed (name, value) List.mem_cons_self
    have value' : value.canonical = value := same (name, value) List.mem_cons_self
    rw [canonicalMembers, value', insertEntry_of_lt last,
      ih (by simpa using order) fun entry listed => same entry (List.mem_cons_of_mem _ listed)]
    simp

/-- **A sorted value is canonical.** -/
theorem canonical_of_isSorted {value : Json} (sorted : value.isSorted = true) :
    value.canonical = value := by
  induction value using Json.induct with
  | null | bool _ | number _ | string _ => rfl
  | array items ih =>
    obtain ⟨_, sorted⟩ := everywhere_array_iff.mp sorted
    rw [canonical, canonicalItems_eq, List.map_congr_left fun item listed =>
      ih item listed (sorted item listed), List.map_id']
  | object members ih =>
    obtain ⟨order, sorted⟩ := everywhere_object_iff.mp sorted
    have order : ([] ++ members : List (String × Json)).Pairwise fun first second =>
      first.1 < second.1 := of_decide_eq_true order
    rw [canonical, canonicalMembers_of_pairwise order fun member listed =>
      ih member listed (sorted member listed), List.nil_append]

theorem pairwise_canonicalMembers (members : List (String × Json)) {sorted : List (String × Json)}
    (order : sorted.Pairwise fun first second => first.1 < second.1) :
    (canonicalMembers members sorted).Pairwise fun first second => first.1 < second.1 := by
  induction members generalizing sorted with
  | nil => exact order
  | cons member rest ih => exact ih (pairwise_insertEntry _ _ order)

/-- A canonical member was a member before, or is one already. -/
theorem mem_canonicalMembers {members sorted : List (String × Json)} {entry : String × Json}
    (listed : entry ∈ canonicalMembers members sorted) :
    entry ∈ sorted ∨ ∃ member ∈ members, entry = (member.1, member.2.canonical) := by
  induction members generalizing sorted with
  | nil => exact .inl listed
  | cons member rest ih =>
    rcases ih listed with before | ⟨other, later, same⟩
    · rcases mem_insertEntry before with same | before
      · exact .inr ⟨member, List.mem_cons_self, same⟩
      · exact .inl before
    · exact .inr ⟨other, List.mem_cons_of_mem _ later, same⟩

/-- Every member has its name among the canonical members. -/
theorem exists_mem_canonicalMembers {members sorted : List (String × Json)} {name : String}
    (named : (∃ entry ∈ sorted, entry.1 = name) ∨ ∃ member ∈ members, member.1 = name) :
    ∃ entry ∈ canonicalMembers members sorted, entry.1 = name := by
  induction members generalizing sorted with
  | nil => exact named.resolve_right fun ⟨_, listed, _⟩ => absurd listed List.not_mem_nil
  | cons member rest ih =>
    refine ih ?_
    rcases named with ⟨entry, listed, rfl⟩ | ⟨other, listed, rfl⟩
    · exact .inl (exists_mem_insertEntry (.inr ⟨entry, listed, rfl⟩))
    · rcases List.mem_cons.mp listed with rfl | later
      · exact .inl (exists_mem_insertEntry (.inl rfl))
      · exact .inr ⟨other, later, rfl⟩

/-- **Canonical values are sorted.** -/
theorem isSorted_canonical (value : Json) : value.canonical.isSorted = true := by
  induction value using Json.induct with
  | null | bool _ | number _ | string _ => rfl
  | array items ih =>
    rw [canonical, canonicalItems_eq]
    refine everywhere_array_iff.mpr ⟨rfl, fun item listed => ?_⟩
    obtain ⟨before, member, rfl⟩ := List.mem_map.mp listed
    exact ih before member
  | object members ih =>
    rw [canonical]
    refine everywhere_object_iff.mpr
      ⟨decide_eq_true (pairwise_canonicalMembers members .nil), fun entry listed => ?_⟩
    rcases mem_canonicalMembers listed with none | ⟨member, before, rfl⟩
    · cases none
    · exact ih member before

end Json

end Leasehold
