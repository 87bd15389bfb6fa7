/-
**Which values are read as they are.**

An object whose first member has the name of embedded texts is never read as itself: it stands for
what its only member writes, or for nothing. A value that was read has no such object yet, but the
order of its canonical members can make one.

* `Json.isPlain`: no object in a value begins with the name of embedded texts;
* `openWith?_of_isPlain`, `isPlain_of_opened?`: plain values are read as they are, and all that is
  read is plain;
* `settled?_eq_self_iff`: a canonical value is read as itself exactly if it is plain;
* `settled?_reread?_eq_iff`: the same with its text in between.
-/

import Leasehold.Json.Embedding
import Leasehold.Proofs.Json.Text

namespace Leasehold.Json

/-- Whether a value is no object that begins with the name of embedded texts. -/
def beginsPlainly : Json → Bool
  | .object ((name, _) :: _) => decide (name ≠ embeddingName)
  | _ => true

/-- Whether no object in a value begins with the name of embedded texts. -/
def isPlain (value : Json) : Bool := value.everywhere beginsPlainly

/-- Whether a value is no object with an embedded text as its only member. -/
def embedsNothing : Json → Bool
  | .object [(name, _)] => decide (name ≠ embeddingName)
  | _ => true

variable {read : String → Option Json}

/-! ### Items and members -/

theorem openItems?_eq_some_iff {items opened : List Json} :
    openItems? read items = some opened ↔
      List.Forall₂ (fun item result => openWith? read item = some result) items opened := by
  have same : openItems? read items = items.mapM (openWith? read) := by
    induction items with
    | nil => rfl
    | cons item rest ih =>
      rw [openItems?, ih, List.mapM_cons]
      rfl
  rw [same, mapM_eq_some_iff]

theorem openMembers?_eq_some_iff {members opened : List (String × Json)} :
    openMembers? read members = some opened ↔
      List.Forall₂ (fun member result => result.1 = member.1 ∧
        openWith? read member.2 = some result.2) members opened := by
  have same : openMembers? read members =
      members.mapM fun member => (openWith? read member.2).map (member.1, ·) := by
    induction members with
    | nil => rfl
    | cons member rest ih =>
      rw [openMembers?, ih, List.mapM_cons]
      cases openWith? read member.2 <;> rfl
  rw [same, mapM_members_eq_some_iff (openWith? read)]

/-- An object that does not begin with the name of embedded texts is opened member by member. -/
theorem openWith?_object {members : List (String × Json)}
    (begins : (object members).beginsPlainly = true) :
    openWith? read (.object members) = (openMembers? read members).map .object := by
  cases members with
  | nil => rfl
  | cons member rest =>
    obtain ⟨name, value⟩ := member
    unfold openWith?
    rw [if_neg (of_decide_eq_true begins), openMembers?]
    cases openWith? read value with
    | none => rfl
    | some first => cases openMembers? read rest <;> rfl

/-- Another object is no value, or has an embedded text as its only member. -/
theorem openWith?_object_of_not {members : List (String × Json)} {opened : Json}
    (begins : (object members).beginsPlainly = false)
    (opens : openWith? read (.object members) = some opened) :
    ∃ text, members = [(embeddingName, .string text)] ∧ read text = some opened := by
  cases members with
  | nil => cases begins
  | cons member rest =>
    obtain ⟨name, value⟩ := member
    have same : name = embeddingName := by simpa [beginsPlainly] using begins
    unfold openWith? at opens
    rw [if_pos same] at opens
    split at opens
    · next text => exact ⟨text, by rw [same], opens⟩
    · cases opens

/-! ### Plain values -/

/-- **A plain value holds no embedded text.** -/
theorem openWith?_of_isPlain {value : Json} (plain : value.isPlain = true) :
    openWith? read value = some value := by
  induction value using Json.induct with
  | null | bool _ | number _ | string _ => rfl
  | array items ih =>
    obtain ⟨_, plain⟩ := everywhere_array_iff.mp plain
    rw [openWith?, openItems?_eq_some_iff.mpr (List.forall₂_same.mpr fun item listed =>
      ih item listed (plain item listed))]
    rfl
  | object members ih =>
    obtain ⟨begins, plain⟩ := everywhere_object_iff.mp plain
    rw [openWith?_object begins,
      openMembers?_eq_some_iff.mpr (List.forall₂_same.mpr fun member listed =>
        ⟨rfl, ih member listed (plain member listed)⟩)]
    rfl

/-- All that is read is plain, if the embedded texts are. -/
theorem isPlain_of_openWith? (reads : ∀ text value, read text = some value → value.isPlain = true)
    {value opened : Json} (opens : openWith? read value = some opened) : opened.isPlain = true := by
  induction value using Json.induct generalizing opened with
  | null | bool _ | number _ | string _ =>
    cases opens
    rfl
  | array items ih =>
    obtain ⟨results, each, rfl⟩ := Option.map_eq_some_iff.mp opens
    refine everywhere_array_iff.mpr ⟨rfl, fun result listed => ?_⟩
    obtain ⟨item, before, opens⟩ := exists_of_forall₂ (openItems?_eq_some_iff.mp each).flip listed
    exact ih item before opens
  | object members ih =>
    by_cases begins : (object members).beginsPlainly = true
    · rw [openWith?_object begins] at opens
      obtain ⟨results, each, rfl⟩ := Option.map_eq_some_iff.mp opens
      have pairs := openMembers?_eq_some_iff.mp each
      refine everywhere_object_iff.mpr ⟨?_, fun result listed => ?_⟩
      · cases pairs with
        | nil => rfl
        | cons first _ =>
          rw [beginsPlainly, first.1]
          exact begins
      · obtain ⟨member, before, _, opens⟩ := exists_of_forall₂ pairs.flip listed
        exact ih member before opens
    · obtain ⟨text, _, opens⟩ := openWith?_object_of_not (Bool.eq_false_iff.mpr begins) opens
      exact reads text opened opens

/-- **All that is read is plain.** -/
theorem isPlain_of_opened? {value opened : Json} (opens : value.opened? = some opened) :
    opened.isPlain = true := by
  have embedded : ∀ (fuel : Nat) (text : String) (value : Json),
      readEmbedded? fuel text = some value → value.isPlain = true := by
    intro fuel
    induction fuel with
    | zero => exact fun _ _ reads => nomatch reads
    | succ fuel ih =>
      intro text value reads
      obtain ⟨written, _, opens⟩ := Option.bind_eq_some_iff.mp reads
      exact isPlain_of_openWith? ih opens
  exact isPlain_of_openWith? (fun text => embedded text.length text) opens

/-- A value that is read although it embeds nothing is plain. -/
theorem isPlain_of_embedsNothing {value opened : Json}
    (embeds : value.everywhere embedsNothing = true) (opens : openWith? read value = some opened) :
    value.isPlain = true := by
  induction value using Json.induct generalizing opened with
  | null | bool _ | number _ | string _ => rfl
  | array items ih =>
    obtain ⟨_, embeds⟩ := everywhere_array_iff.mp embeds
    obtain ⟨results, each, rfl⟩ := Option.map_eq_some_iff.mp opens
    refine everywhere_array_iff.mpr ⟨rfl, fun item listed => ?_⟩
    obtain ⟨result, _, opens⟩ := exists_of_forall₂ (openItems?_eq_some_iff.mp each) listed
    exact ih item listed (embeds item listed) opens
  | object members ih =>
    obtain ⟨sole, embeds⟩ := everywhere_object_iff.mp embeds
    by_cases begins : (object members).beginsPlainly = true
    · rw [openWith?_object begins] at opens
      obtain ⟨results, each, rfl⟩ := Option.map_eq_some_iff.mp opens
      refine everywhere_object_iff.mpr ⟨begins, fun member listed => ?_⟩
      obtain ⟨result, _, _, opens⟩ :=
        exists_of_forall₂ (openMembers?_eq_some_iff.mp each) listed
      exact ih member listed (embeds member listed) opens
    · obtain ⟨text, rfl, _⟩ := openWith?_object_of_not (Bool.eq_false_iff.mpr begins) opens
      cases sole

/-! ### Canonical values -/

/-- The canonical form of a plain value has no object with an embedded text as its only member: it
would have been the only name before. -/
theorem embedsNothing_canonical {value : Json} (plain : value.isPlain = true) :
    value.canonical.everywhere embedsNothing = true := by
  induction value using Json.induct with
  | null | bool _ | number _ | string _ => rfl
  | array items ih =>
    obtain ⟨_, plain⟩ := everywhere_array_iff.mp plain
    rw [canonical, canonicalItems_eq]
    refine everywhere_array_iff.mpr ⟨rfl, fun item listed => ?_⟩
    obtain ⟨before, member, rfl⟩ := List.mem_map.mp listed
    exact ih before member (plain before member)
  | object members ih =>
    obtain ⟨begins, plain⟩ := everywhere_object_iff.mp plain
    rw [canonical]
    refine everywhere_object_iff.mpr ⟨?_, fun entry listed => ?_⟩
    · unfold embedsNothing
      split
      · next name value same =>
        -- All members have the one name that is left, also the first.
        cases members with
        | nil => cases same
        | cons first rest =>
          have found : ∃ entry ∈ canonicalMembers (first :: rest) [], entry.1 = first.1 :=
            exists_mem_canonicalMembers (.inr ⟨first, List.mem_cons_self, rfl⟩)
          obtain ⟨entry, listed, named⟩ := found
          rw [Json.object.inj same, List.mem_singleton] at listed
          subst listed
          have named : name = first.1 := named
          rw [named]
          exact begins
      · rfl
    · rcases mem_canonicalMembers listed with none | ⟨member, before, rfl⟩
      · cases none
      · exact ih member before (plain member before)

/-- What is read embeds nothing. -/
theorem embedsNothing_of_settled? {value settled : Json}
    (settles : value.settled? = some settled) : settled.everywhere embedsNothing = true := by
  obtain ⟨opened, opens, rfl⟩ := Option.map_eq_some_iff.mp settles
  exact embedsNothing_canonical (isPlain_of_opened? opens)

/-- **A canonical value is read as itself exactly if it is plain.** -/
theorem settled?_eq_self_iff {value : Json} (sorted : value.isSorted = true) :
    value.settled? = some value ↔ value.isPlain = true := by
  constructor
  · intro settles
    obtain ⟨opened, opens, _⟩ := Option.map_eq_some_iff.mp settles
    exact isPlain_of_embedsNothing (embedsNothing_of_settled? settles) opens
  · intro plain
    rw [settled?, opened?, openWith?_of_isPlain plain, Option.map_some,
      canonical_of_isSorted sorted]

/-- What is read is canonical. -/
theorem isSorted_of_settled? {value settled : Json} (settles : value.settled? = some settled) :
    settled.isSorted = true := by
  obtain ⟨opened, _, rfl⟩ := Option.map_eq_some_iff.mp settles
  exact isSorted_canonical opened

/-! ### Texts of canonical values -/

theorem beginsPlainly_object (members : List (String × Json)) :
    (object members).beginsPlainly =
      decide ((members.map Prod.fst).head? ≠ some embeddingName) := by
  cases members with
  | nil => rfl
  | cons member rest => simp [beginsPlainly]

theorem embedsNothing_object (members : List (String × Json)) :
    (object members).embedsNothing = decide (members.map Prod.fst ≠ [embeddingName]) := by
  rcases members with _ | ⟨member, _ | ⟨next, rest⟩⟩ <;> simp [embedsNothing]

theorem hasSortedMembers_object (members : List (String × Json)) :
    (object members).hasSortedMembers =
      decide ((members.map Prod.fst).Pairwise fun first second => first < second) := by
  simp only [hasSortedMembers, List.pairwise_map]

theorem isNominal_beginsPlainly : IsNominal beginsPlainly where
  number _ := rfl
  array _ := rfl
  object same := by rw [beginsPlainly_object, beginsPlainly_object, same]

theorem isNominal_embedsNothing : IsNominal embedsNothing where
  number _ := rfl
  array _ := rfl
  object same := by rw [embedsNothing_object, embedsNothing_object, same]

theorem isNominal_hasSortedMembers : IsNominal hasSortedMembers where
  number _ := rfl
  array _ := rfl
  object same := by rw [hasSortedMembers_object, hasSortedMembers_object, same]

/-- **A canonical value is read from its text as itself exactly if it is plain and its numbers are
read back.** -/
theorem settled?_reread?_eq_iff {value : Json} {depth : Nat} (sorted : value.isSorted = true) :
    (value.reread? depth).bind settled? = some value ↔
      value.isPlain = true ∧ value.reread? depth = some value := by
  constructor
  · intro settles
    obtain ⟨found, reads, settles⟩ := Option.bind_eq_some_iff.mp settles
    have embeds : found.everywhere embedsNothing = true := by
      rw [everywhere_reread? isNominal_embedsNothing reads]
      exact embedsNothing_of_settled? settles
    have order : found.isSorted = true := by
      rw [isSorted, everywhere_reread? isNominal_hasSortedMembers reads]
      exact sorted
    obtain ⟨opened, opens, _⟩ := Option.map_eq_some_iff.mp settles
    have plain : found.isPlain = true := isPlain_of_embedsNothing embeds opens
    have itself := (settled?_eq_self_iff order).mpr plain
    rw [isPlain, everywhere_reread? isNominal_beginsPlainly reads] at plain
    exact ⟨plain, reads.trans (itself.symm.trans settles)⟩
  · rintro ⟨plain, same⟩
    rw [same]
    exact (settled?_eq_self_iff sorted).mpr plain

end Leasehold.Json
