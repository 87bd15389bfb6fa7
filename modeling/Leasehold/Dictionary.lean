/-
**Dictionaries with text keys.**

A dictionary is a list of entries in strictly ascending order of their keys, so two dictionaries
with the same look-ups are the same value.

* `Dictionary.insert`: an entry takes the place of the one with its key;
* `Dictionary.ofList`: of entries with one key the last stays;
* `Dictionary.get?`: the value of a key;
* `pairwise_insertEntry`: inserting keeps the order.
-/

namespace Leasehold

variable {α : Type}

/-- Entries in order with one more, which takes the place of an entry with its key. -/
def insertEntry (key : String) (value : α) : List (String × α) → List (String × α)
  | [] => [(key, value)]
  | (other, held) :: rest =>
    if key < other then (key, value) :: (other, held) :: rest
    else if key = other then (key, value) :: rest
    else (other, held) :: insertEntry key value rest

/-- The keys after an insertion are the keys before it and the new one. -/
theorem mem_insertEntry {key : String} {value : α} {entries : List (String × α)}
    {entry : String × α} (member : entry ∈ insertEntry key value entries) :
    entry = (key, value) ∨ entry ∈ entries := by
  induction entries with
  | nil => simpa [insertEntry] using member
  | cons head rest ih =>
    obtain ⟨other, held⟩ := head
    simp only [insertEntry] at member
    split at member
    · simpa using member
    · split at member
      · rcases List.mem_cons.mp member with equal | inRest
        · exact Or.inl equal
        · exact Or.inr (List.mem_cons_of_mem _ inRest)
      · rcases List.mem_cons.mp member with equal | inRest
        · exact Or.inr (equal ▸ List.mem_cons_self)
        · exact (ih inRest).imp_right (List.mem_cons_of_mem _)

/-- Inserting into entries in order keeps them in order. -/
theorem pairwise_insertEntry (key : String) (value : α) {entries : List (String × α)}
    (sorted : entries.Pairwise fun first second => first.1 < second.1) :
    (insertEntry key value entries).Pairwise fun first second => first.1 < second.1 := by
  induction entries with
  | nil => simp [insertEntry]
  | cons head rest ih =>
    obtain ⟨other, held⟩ := head
    obtain ⟨below, restSorted⟩ := List.pairwise_cons.mp sorted
    simp only [insertEntry]
    split
    · next less =>
      refine List.pairwise_cons.mpr ⟨fun entry member => ?_, sorted⟩
      rcases List.mem_cons.mp member with equal | inRest
      · exact equal ▸ less
      · exact String.lt_trans less (below entry inRest)
    · next notLess =>
      split
      · next equal => exact List.pairwise_cons.mpr ⟨equal ▸ below, restSorted⟩
      · next different =>
        refine List.pairwise_cons.mpr ⟨fun entry member => ?_, ih restSorted⟩
        rcases mem_insertEntry member with equal | inRest
        · subst equal
          exact Std.lt_of_le_of_ne (String.not_lt.mp notLess) (Ne.symm different)
        · exact below entry inRest

/-- Entries in strictly ascending order of their keys. -/
structure Dictionary (α : Type) where
  entries : List (String × α)
  sorted : entries.Pairwise fun first second => first.1 < second.1

namespace Dictionary

/-- Dictionaries with the same entries are the same. -/
theorem ext {first second : Dictionary α} (same : first.entries = second.entries) :
    first = second := by
  cases first; cases second; simp_all

instance [DecidableEq α] : DecidableEq (Dictionary α) := fun first second =>
  decidable_of_iff (first.entries = second.entries) ⟨ext, fun same => same ▸ rfl⟩

/-- The dictionary without entries. -/
def empty : Dictionary α := ⟨[], List.Pairwise.nil⟩

instance : Inhabited (Dictionary α) := ⟨empty⟩

/-- The dictionary with an entry, in the place of the one with its key. -/
def insert (dictionary : Dictionary α) (key : String) (value : α) : Dictionary α :=
  ⟨insertEntry key value dictionary.entries, pairwise_insertEntry key value dictionary.sorted⟩

/-- The dictionary of some entries; of those with one key the last stays. -/
def ofList (entries : List (String × α)) : Dictionary α :=
  entries.foldl (fun dictionary entry => dictionary.insert entry.1 entry.2) empty

/-- The value of a key. -/
def get? (dictionary : Dictionary α) (key : String) : Option α :=
  (dictionary.entries.find? fun entry => entry.1 == key).map Prod.snd

end Dictionary

end Leasehold
