/-
**Fields are read back from records.**

* `optional?_ofOption`: a field that is null or its value;
* `list?_map`, `dictionary?_ofDictionary`: fields that hold values of one kind;
* `exists_of_required?`, `exists_of_optional?`: what was found in a field was read from a value.
-/

import Leasehold.Proofs.Json.Tree

namespace Leasehold.Json

variable {α : Type} {name : String} {members : List (String × Json)} {read : Json → Option α}
  {write : α → Json}

theorem optional?_cons_of_ne {member : String × Json} (other : member.1 ≠ name) :
    optional? name read (member :: members) = optional? name read members := by
  simp [optional?, named, other]

/-- An optional field is read back, if its values are and none is written as null. -/
theorem optional?_ofOption {value : Option α} (sole : named name members = [])
    (reads : ∀ held ∈ value, read (write held) = some held) (shows : ∀ held, write held ≠ .null) :
    optional? name read ((name, ofOption (value.map write)) :: members) = some value := by
  have found : named name ((name, ofOption (value.map write)) :: members) =
      [ofOption (value.map write)] := by
    rw [← sole]
    simp [named]
  rw [optional?, found]
  cases value with
  | none => rfl
  | some held =>
    have reads : read (write held) = some held := reads held rfl
    simp only [Option.map_some, ofOption]
    split
    · next same => exact absurd same (by simp)
    · next same => exact absurd (List.cons.inj same).1 (shows held)
    · next value _ same =>
      obtain rfl := (List.cons.inj same).1
      rw [reads]
      rfl
    · next other => exact absurd rfl (other _)

/-- An optional text is read back. -/
theorem optional?_text {text : Option String} (sole : named name members = []) :
    optional? name text? ((name, ofOption (text.map .string)) :: members) = some text :=
  optional?_ofOption sole (fun _ _ => rfl) nofun

theorem exists_of_required? {held : α} (reads : required? name read members = some held) :
    ∃ value, read value = some held := by
  unfold required? at reads
  split at reads
  · exact ⟨_, reads⟩
  · cases reads

theorem exists_of_optional? {held : α}
    (reads : optional? name read members = some (some held)) : ∃ value, read value = some held := by
  unfold optional? at reads
  split at reads
  · cases reads
  · cases reads
  · next value _ _ =>
    obtain ⟨found, reads, same⟩ := Option.map_eq_some_iff.mp reads
    cases same
    exact ⟨value, reads⟩
  · cases reads

/-- A word is read back. -/
theorem word?_nat (word : UInt64) : word? (.nat word.toNat) = some word := by
  have fits : word.toNat < UInt64.size := word.toNat_lt
  have within : (0 : Int) ≤ word.toNat ∧ (word.toNat : Int) < UInt64.size := by omega
  show (if (0 : Int) ≤ word.toNat ∧ (word.toNat : Int) < UInt64.size
    then some (UInt64.ofNat (word.toNat : Int).toNat) else none) = some word
  rw [if_pos within, Int.toNat_natCast, UInt64.ofNat_toNat]

/-- A list is read back, if its items are. -/
theorem list?_map (items : List α) (reads : ∀ item ∈ items, read (write item) = some item) :
    list? read (.array (items.map write)) = some items :=
  mapM_eq_some_iff.mpr (List.forall₂_map_left_iff.mpr (List.forall₂_same.mpr reads))

/-- A dictionary is read back, if its values are. -/
theorem dictionary?_ofDictionary (dictionary : Dictionary α)
    (reads : ∀ value, read (write value) = some value) :
    dictionary? read (ofDictionary write dictionary) = some dictionary := by
  have each : (dictionary.entries.map fun entry => (entry.1, write entry.2)).mapM
      (fun member => (read member.2).map (member.1, ·)) = some dictionary.entries :=
    mapM_eq_some_iff.mpr (List.forall₂_map_left_iff.mpr (List.forall₂_same.mpr
      fun entry _ => by rw [reads]; rfl))
  rw [ofDictionary, dictionary?, each, Option.map_some, Dictionary.ofList_entries]

end Leasehold.Json
