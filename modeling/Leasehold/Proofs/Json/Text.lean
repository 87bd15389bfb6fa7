/-
**Values are read from their texts.**

A text is written from front to back, and what follows a value says nothing about it. So what is
read from the text of a value is the same wherever it stands, if the shape that is looked for has
all of its members.

* `isAppended`: a value is written after what was written before;
* `isKept`: nothing of a value is passed over for a shape;
* `isRead`: what is read at the front of a text;
* `readAs?_text`: what is read from the whole text of a value.
-/

import Leasehold.Json.Reader
import Leasehold.Json.Writer
import Leasehold.Proofs.Json.Reread

namespace Leasehold.Json

open Reader

/-! ### What is written -/

/-- What is written for a member. -/
def memberText (member : String × Json) : List Char :=
  (quoted member.1).toList ++ ':' :: member.2.text.toList

/-- What is written for the items after the first. -/
def itemsText (items : List Json) : List Char :=
  items.flatMap fun item => ',' :: item.text.toList

theorem itemsText_nil : itemsText [] = [] := rfl

theorem itemsText_cons (item : Json) (rest : List Json) :
    itemsText (item :: rest) = ',' :: (item.text.toList ++ itemsText rest) := rfl

/-- What is written for the members after the first. -/
def membersText (members : List (String × Json)) : List Char :=
  members.flatMap fun member => ',' :: memberText member

theorem membersText_nil : membersText [] = [] := rfl

theorem membersText_cons (member : String × Json) (rest : List (String × Json)) :
    membersText (member :: rest) = ',' :: (memberText member ++ membersText rest) := rfl

/-- What is written before a value stays as it is. -/
def IsAppended (value : Json) : Prop :=
  ∀ written, (append written value).toList = written.toList ++ value.text.toList

theorem toList_appendItems {items : List Json} (each : ∀ item ∈ items, item.IsAppended)
    (written : String) :
    (appendItems written items).toList = written.toList ++ itemsText items := by
  induction items generalizing written with
  | nil => simp [appendItems, itemsText_nil]
  | cons item rest ih =>
    have comma : ",".toList = [','] := rfl
    rw [appendItems, ih fun other listed => each other (List.mem_cons_of_mem _ listed),
      each item List.mem_cons_self, String.toList_append, comma, itemsText_cons]
    simp only [List.append_assoc, List.cons_append, List.nil_append]

theorem toList_appendMembers {members : List (String × Json)}
    (each : ∀ member ∈ members, member.2.IsAppended) (written : String) :
    (appendMembers written members).toList = written.toList ++ membersText members := by
  induction members generalizing written with
  | nil => simp [appendMembers, membersText_nil]
  | cons member rest ih =>
    have comma : ",".toList = [','] := rfl
    have colon : ":".toList = [':'] := rfl
    rw [appendMembers, ih fun other listed => each other (List.mem_cons_of_mem _ listed),
      each member List.mem_cons_self, membersText_cons, memberText]
    simp only [String.toList_append, comma, colon, List.append_assoc, List.cons_append,
      List.nil_append]

theorem toList_append_array {item : Json} {rest : List Json}
    (each : ∀ other ∈ item :: rest, other.IsAppended) (written : String) :
    (append written (array (item :: rest))).toList =
      written.toList ++ '[' :: (item.text.toList ++ (itemsText rest ++ [']'])) := by
  have opening : "[".toList = ['['] := rfl
  have closing : "]".toList = [']'] := rfl
  rw [append, String.toList_append,
    toList_appendItems fun other listed => each other (List.mem_cons_of_mem _ listed),
    each item List.mem_cons_self]
  simp only [String.toList_append, opening, closing, List.append_assoc, List.cons_append,
    List.nil_append]

theorem toList_append_object {member : String × Json} {rest : List (String × Json)}
    (each : ∀ other ∈ member :: rest, other.2.IsAppended) (written : String) :
    (append written (object (member :: rest))).toList =
      written.toList ++ '\x7b' :: (memberText member ++ (membersText rest ++ ['\x7d'])) := by
  have opening : "\x7b".toList = ['\x7b'] := rfl
  have closing : "\x7d".toList = ['\x7d'] := rfl
  have colon : ":".toList = [':'] := rfl
  rw [append, String.toList_append,
    toList_appendMembers fun other listed => each other (List.mem_cons_of_mem _ listed),
    each member List.mem_cons_self, memberText]
  simp only [String.toList_append, opening, closing, colon, List.append_assoc, List.cons_append,
    List.nil_append]

/-- **A value is written after what was written before.** -/
theorem isAppended (value : Json) : value.IsAppended := by
  induction value using Json.induct with
  | null | bool _ | number _ | string _ =>
    intro written
    simp only [text, append, String.toList_append, String.toList_empty, List.nil_append]
  | array items ih =>
    intro written
    cases items with
    | nil => simp only [text, append, String.toList_append, String.toList_empty, List.nil_append]
    | cons item rest => rw [text, toList_append_array ih, toList_append_array ih ""]; rfl
  | object members ih =>
    intro written
    cases members with
    | nil => simp only [text, append, String.toList_append, String.toList_empty, List.nil_append]
    | cons member rest => rw [text, toList_append_object ih, toList_append_object ih ""]; rfl

theorem toList_text_array (item : Json) (rest : List Json) :
    (array (item :: rest)).text.toList =
      '[' :: (item.text.toList ++ (itemsText rest ++ [']'])) :=
  toList_append_array (fun other _ => isAppended other) ""

theorem toList_text_object (member : String × Json) (rest : List (String × Json)) :
    (object (member :: rest)).text.toList =
      '\x7b' :: (memberText member ++ (membersText rest ++ ['\x7d'])) :=
  toList_append_object (fun other _ => isAppended other.2) ""

theorem toList_text_number (number : Number) :
    (Json.number number).text.toList = (numberText number).toList := by
  rw [text, append, String.toList_append]
  rfl

theorem toList_text_string (value : String) :
    (Json.string value).text.toList = '"' :: (escapes value.toList ++ ['"']) := by
  rw [text, append, String.toList_append, toList_quoted]
  rfl

/-- An array leaves its bracket's fuel to its items. -/
theorem itemsText_lt {item : Json} {rest : List Json} {fuel : Nat}
    (enough : 2 * (array (item :: rest)).text.toList.length ≤ fuel + 1) :
    2 * (item.text.toList.length + (itemsText rest).length) < fuel := by
  rw [toList_text_array] at enough
  simp only [List.length_cons, List.length_append] at enough
  omega

/-- An object leaves its brace's fuel to its members. -/
theorem membersText_lt {member : String × Json} {rest : List (String × Json)} {fuel : Nat}
    (enough : 2 * (object (member :: rest)).text.toList.length ≤ fuel + 1) :
    2 * ((memberText member).length + (membersText rest).length) < fuel := by
  rw [toList_text_object] at enough
  simp only [List.length_cons, List.length_append] at enough
  omega

/-! ### What is looked for -/

mutual

/-- Whether nothing of a value is passed over by who looks for a shape. -/
def isKept : Json → Shape → Bool
  | .array items, shape => itemsKept items shape.item
  | .object members, shape => membersKept members shape
  | _, _ => true

/-- Whether nothing of some items is passed over. -/
def itemsKept : List Json → Shape → Bool
  | [], _ => true
  | item :: rest, shape => item.isKept shape && itemsKept rest shape

/-- Whether nothing of some members is passed over. -/
def membersKept : List (String × Json) → Shape → Bool
  | [], _ => true
  | (name, value) :: rest, shape =>
    (shape.member? name).any value.isKept && membersKept rest shape

end

theorem isKept_array_iff {items : List Json} {shape : Shape} :
    (array items).isKept shape = true ↔ ∀ item ∈ items, item.isKept shape.item = true := by
  rw [isKept]
  generalize shape.item = inner
  induction items with
  | nil => simp [itemsKept]
  | cons item rest ih => rw [itemsKept, Bool.and_eq_true, ih, List.forall_mem_cons]

theorem isKept_object_iff {members : List (String × Json)} {shape : Shape} :
    (object members).isKept shape = true ↔ ∀ member ∈ members,
      ∃ inner, shape.member? member.1 = some inner ∧ member.2.isKept inner = true := by
  rw [isKept]
  induction members with
  | nil => simp [membersKept]
  | cons member rest ih =>
    rw [membersKept, Bool.and_eq_true, ih, List.forall_mem_cons, Option.any_eq_true]

/-- Who looks for all of a value passes over nothing. -/
theorem isKept_whole (value : Json) : value.isKept .whole = true := by
  induction value using Json.induct with
  | null | bool _ | number _ | string _ => rfl
  | array items ih => exact isKept_array_iff.mpr ih
  | object members ih =>
    exact isKept_object_iff.mpr fun member listed => ⟨.whole, rfl, ih member listed⟩

/-- The shape of a field of a record. -/
theorem member?_record {fields : List String} {shapeOf : String → Shape} {name : String}
    (known : name ∈ fields) :
    (Shape.record (fields.map fun name => (name, shapeOf name))).member? name =
      some (shapeOf name) := by
  show ((fields.map fun name => (name, shapeOf name)).find? fun field => field.1 == name).map
    Prod.snd = some (shapeOf name)
  induction fields with
  | nil => cases known
  | cons first rest ih =>
    rw [List.map_cons, List.find?_cons]
    by_cases here : first = name
    · rw [here]
      simp
    · rw [beq_eq_false_iff_ne.mpr here]
      exact ih ((List.mem_cons.mp known).resolve_left fun same => here same.symm)

/-- Nothing of a record is passed over by who knows its fields. -/
theorem isKept_record {fields : List String} {shapeOf : String → Shape}
    {members : List (String × Json)}
    (kept : ∀ member ∈ members,
      member.1 ∈ fields ∧ member.2.isKept (shapeOf member.1) = true) :
    (object members).isKept (.record (fields.map fun name => (name, shapeOf name))) = true :=
  isKept_object_iff.mpr fun member listed =>
    ⟨shapeOf member.1, member?_record (kept member listed).1, (kept member listed).2⟩

theorem isKept_ofFields {fields : List String} {members : List (String × Json)}
    (known : ∀ member ∈ members, member.1 ∈ fields) :
    (object members).isKept (.ofFields fields) = true :=
  isKept_record fun member listed => ⟨known member listed, isKept_whole member.2⟩

/-! ### What is read -/

/-- Whether a character is no blank. -/
def Shows (character : Char) : Prop :=
  character ≠ ' ' ∧ character ≠ '\n' ∧ character ≠ '\t' ∧ character ≠ '\r'

instance (character : Char) : Decidable (Shows character) := inferInstanceAs (Decidable (_ ∧ _))

theorem skipBlanks_cons {first : Char} {rest : List Char} (shows : Shows first) :
    skipBlanks (first :: rest) = first :: rest := by
  obtain ⟨noSpace, noLine, noTab, noReturn⟩ := shows
  simp [skipBlanks, noSpace, noLine, noTab, noReturn]

/-- A sign or a digit is no blank, and begins no other value than a number. -/
theorem value?_of_digit {fuel depth : Nat} {shape : Shape} {first : Char} {rest : List Char}
    (begins : first = '-' ∨ first.isDigit = true) :
    value? (fuel + 1) depth shape (first :: rest) =
      (number? (first :: rest)).map fun (found, rest) => (.number found, rest) := by
  have other : ∀ character, character ≠ '-' → character.isDigit = false → first ≠ character := by
    rintro character noSign noDigit rfl
    rcases begins with sign | digit
    · exact noSign sign
    · exact absurd digit (Bool.eq_false_iff.mp noDigit)
  have shows : Shows first := ⟨other ' ' (by decide) rfl, other '\n' (by decide) rfl,
    other '\t' (by decide) rfl, other '\r' (by decide) rfl⟩
  rw [value?, skipBlanks_cons shows]
  split
  · next same => exact absurd (List.cons.inj same).1 (other 'n' (by decide) rfl)
  · next same => exact absurd (List.cons.inj same).1 (other 't' (by decide) rfl)
  · next same => exact absurd (List.cons.inj same).1 (other 'f' (by decide) rfl)
  · next same => exact absurd (List.cons.inj same).1 (other '"' (by decide) rfl)
  · next same => exact absurd (List.cons.inj same).1 (other '[' (by decide) rfl)
  · next same => exact absurd (List.cons.inj same).1 (other '\x7b' (by decide) rfl)
  · rfl

/-- A number is read wherever it stands, if it is read. -/
theorem value?_numberText (number : Number) {fuel depth : Nat} {shape : Shape}
    {following : List Char} (ends : EndsNumber following) :
    value? (fuel + 1) depth shape ((numberText number).toList ++ following) =
      (number.reread?.map .number).map (·, following) := by
  obtain ⟨first, rest, begins, digit⟩ := exists_cons_numberText number
  have reads := number?_numberText number ends
  rw [begins, List.cons_append] at reads ⊢
  rw [value?_of_digit digit, reads, Option.map_map, Option.map_map]
  rfl

/-- What is read at the front of a text, if there is enough fuel. -/
def IsRead (value : Json) : Prop :=
  ∀ (fuel depth : Nat) (shape : Shape) (following : List Char), value.isKept shape = true →
    2 * value.text.toList.length ≤ fuel → EndsNumber following →
      value? fuel depth shape (value.text.toList ++ following) =
        (value.reread? depth).map (·, following)

/-- A value begins with a character that is no blank and closes no array. -/
theorem exists_cons_text (value : Json) :
    ∃ first rest, value.text.toList = first :: rest ∧ Shows first ∧ first ≠ ']' := by
  cases value with
  | null => exact ⟨'n', _, rfl, by decide, by decide⟩
  | bool value =>
    cases value with
    | false => exact ⟨'f', _, rfl, by decide, by decide⟩
    | true => exact ⟨'t', _, rfl, by decide, by decide⟩
  | number value =>
    obtain ⟨first, rest, begins, digit⟩ := exists_cons_numberText value
    refine ⟨first, rest, (toList_text_number value).trans begins, ?_⟩
    rcases digit with rfl | digit
    · decide
    · refine ⟨⟨?_, ?_, ?_, ?_⟩, ?_⟩ <;> rintro rfl <;> cases digit
  | string value => exact ⟨'"', _, toList_text_string value, by decide, by decide⟩
  | array items =>
    cases items with
    | nil => exact ⟨'[', _, rfl, by decide, by decide⟩
    | cons item rest => exact ⟨'[', _, toList_text_array item rest, by decide, by decide⟩
  | object members =>
    cases members with
    | nil => exact ⟨'\x7b', _, rfl, by decide, by decide⟩
    | cons member rest => exact ⟨'\x7b', _, toList_text_object member rest, by decide, by decide⟩

theorem endsNumber_comma (rest : List Char) : EndsNumber (',' :: rest) := by
  rintro _ ⟨⟩
  decide

theorem endsNumber_bracket (rest : List Char) : EndsNumber (']' :: rest) := by
  rintro _ ⟨⟩
  decide

theorem endsNumber_brace (rest : List Char) : EndsNumber ('\x7d' :: rest) := by
  rintro _ ⟨⟩
  decide

/-- Items are read up to their bracket. -/
theorem items?_text {item : Json} {rest : List Json} {fuel depth : Nat} {shape : Shape}
    {following : List Char} (reads : ∀ other ∈ item :: rest, other.IsRead)
    (kept : ∀ other ∈ item :: rest, other.isKept shape = true)
    (enough : 2 * (item.text.toList.length + (itemsText rest).length) < fuel) :
    items? fuel depth shape (item.text.toList ++ (itemsText rest ++ ']' :: following)) =
      (rereadItems? (item :: rest) depth).map (·, following) := by
  induction rest generalizing item fuel with
  | nil =>
    cases fuel with
    | zero => cases enough
    | succ fuel =>
      have first := reads item List.mem_cons_self fuel depth shape (']' :: following)
        (kept item List.mem_cons_self) (Nat.le_of_lt_succ enough) (endsNumber_bracket following)
      rw [itemsText_nil, List.nil_append, items?, first, rereadItems?]
      cases item.reread? depth <;> rfl
  | cons next rest ih =>
    cases fuel with
    | zero => cases enough
    | succ fuel =>
      simp only [itemsText_cons, List.cons_append, List.append_assoc, List.length_cons,
        List.length_append] at enough ⊢
      have first := reads item List.mem_cons_self fuel depth shape
        (',' :: (next.text.toList ++ (itemsText rest ++ ']' :: following)))
        (kept item List.mem_cons_self) (by omega) (endsNumber_comma _)
      have others : items? fuel depth shape
          (next.text.toList ++ (itemsText rest ++ ']' :: following)) =
            (rereadItems? (next :: rest) depth).map (·, following) :=
        ih (fun other listed => reads other (List.mem_cons_of_mem _ listed))
          (fun other listed => kept other (List.mem_cons_of_mem _ listed)) (by omega)
      have comma : Shows ',' := by decide
      rw [items?, first, rereadItems?]
      cases item.reread? depth with
      | none => rfl
      | some found =>
        simp only [others, skipBlanks_cons comma, Option.map_some, Option.bind_eq_bind,
          Option.bind_some]
        cases rereadItems? (next :: rest) depth <;> rfl

/-- After the name of a member and its colon the value is read, and then a comma or the brace. -/
theorem members?_memberText {member : String × Json} {fuel depth : Nat} {shape inner : Shape}
    {following : List Char} (matters : shape.member? member.1 = some inner) :
    members? (fuel + 1) depth shape (memberText member ++ following) =
      (value? fuel depth inner (member.2.text.toList ++ following)).bind fun (result, rest) =>
        match skipBlanks rest with
        | ',' :: rest => do
          let (members, rest) ← members? fuel depth shape rest
          some ((member.1, result) :: members, rest)
        | '\x7d' :: rest => some ([(member.1, result)], rest)
        | _ => none := by
  have quote : skipBlanks (memberText member ++ following) =
      '"' :: (escapes member.1.toList ++ '"' :: ':' :: (member.2.text.toList ++ following)) := by
    simp only [memberText, toList_quoted, List.append_assoc, List.cons_append, List.nil_append]
    exact skipBlanks_cons (by decide)
  have colon : Shows ':' := by decide
  simp only [members?, quote, string?_escapes, skipBlanks_cons colon, matters,
    Option.bind_eq_bind, Option.bind_some]
  cases value? fuel depth inner (member.2.text.toList ++ following) <;> rfl

/-- Members are read up to their brace. -/
theorem members?_text {member : String × Json} {rest : List (String × Json)} {fuel depth : Nat}
    {shape : Shape} {following : List Char} (reads : ∀ other ∈ member :: rest, other.2.IsRead)
    (kept : ∀ other ∈ member :: rest,
      ∃ inner, shape.member? other.1 = some inner ∧ other.2.isKept inner = true)
    (enough : 2 * ((memberText member).length + (membersText rest).length) < fuel) :
    members? fuel depth shape (memberText member ++ (membersText rest ++ '\x7d' :: following)) =
      (rereadMembers? (member :: rest) depth).map (·, following) := by
  induction rest generalizing member fuel with
  | nil =>
    cases fuel with
    | zero => cases enough
    | succ fuel =>
      obtain ⟨inner, matters, keeps⟩ := kept member List.mem_cons_self
      have first := reads member List.mem_cons_self fuel depth inner ('\x7d' :: following)
        keeps (by simp [memberText] at enough; omega) (endsNumber_brace following)
      rw [membersText_nil, List.nil_append, members?_memberText matters, first, rereadMembers?]
      cases member.2.reread? depth <;> rfl
  | cons next rest ih =>
    cases fuel with
    | zero => cases enough
    | succ fuel =>
      obtain ⟨inner, matters, keeps⟩ := kept member List.mem_cons_self
      simp only [membersText_cons, List.cons_append, List.append_assoc, List.length_cons,
        List.length_append] at enough ⊢
      have first := reads member List.mem_cons_self fuel depth inner
        (',' :: (memberText next ++ (membersText rest ++ '\x7d' :: following)))
        keeps (by simp [memberText] at enough; omega) (endsNumber_comma _)
      have others : members? fuel depth shape
          (memberText next ++ (membersText rest ++ '\x7d' :: following)) =
            (rereadMembers? (next :: rest) depth).map (·, following) :=
        ih (fun other listed => reads other (List.mem_cons_of_mem _ listed))
          (fun other listed => kept other (List.mem_cons_of_mem _ listed)) (by omega)
      have comma : Shows ',' := by decide
      rw [members?_memberText matters, first, rereadMembers?]
      cases member.2.reread? depth with
      | none => rfl
      | some found =>
        simp only [others, skipBlanks_cons comma, Option.map_some, Option.bind_eq_bind,
          Option.bind_some]
        cases rereadMembers? (next :: rest) depth <;> rfl

/-- The items of an array follow its bracket. -/
theorem value?_array {item : Json} {rest : List Json} {fuel depth : Nat} {shape : Shape}
    {following : List Char} :
    value? (fuel + 1) depth shape ((array (item :: rest)).text.toList ++ following) =
      if depth ≤ 1 then none
      else (items? fuel (depth - 1) shape.item
        (item.text.toList ++ (itemsText rest ++ ']' :: following))).map
          fun (items, rest) => (array items, rest) := by
  obtain ⟨first, others, begins, shows, noBracket⟩ := exists_cons_text item
  rw [toList_text_array]
  simp only [List.cons_append, List.append_assoc, List.nil_append, begins]
  rw [value?, skipBlanks_cons (by decide)]
  refine if_congr Iff.rfl rfl ?_
  rw [skipBlanks_cons shows]
  split
  · next same => exact absurd (List.cons.inj same).1 noBracket
  · rfl

/-- The members of an object follow its brace. -/
theorem value?_object {member : String × Json} {rest : List (String × Json)} {fuel depth : Nat}
    {shape : Shape} {following : List Char} :
    value? (fuel + 1) depth shape ((object (member :: rest)).text.toList ++ following) =
      if depth ≤ 1 then none
      else (members? fuel (depth - 1) shape
        (memberText member ++ (membersText rest ++ '\x7d' :: following))).map
          fun (members, rest) => (object members, rest) := by
  have begins : memberText member = '"' :: (escapes member.1.toList ++
      '"' :: ':' :: member.2.text.toList) := by
    simp only [memberText, toList_quoted, List.append_assoc, List.cons_append, List.nil_append]
  rw [toList_text_object, begins]
  simp only [List.cons_append, List.append_assoc, List.nil_append]
  rfl

/-- No value is read without fuel, but no value is written without a character either. -/
theorem isRead_of_succ {value : Json}
    (reads : ∀ (fuel depth : Nat) (shape : Shape) (following : List Char),
      value.isKept shape = true → 2 * value.text.toList.length ≤ fuel + 1 →
        EndsNumber following →
          value? (fuel + 1) depth shape (value.text.toList ++ following) =
            (value.reread? depth).map (·, following)) :
    value.IsRead := by
  intro fuel depth shape following kept enough ends
  cases fuel with
  | zero =>
    obtain ⟨first, others, begins, _⟩ := exists_cons_text value
    rw [begins] at enough
    cases enough
  | succ fuel => exact reads fuel depth shape following kept enough ends

/-- **At the front of a text a value is read**, whatever follows. -/
theorem isRead (value : Json) : value.IsRead := by
  induction value using Json.induct with
  | null => exact isRead_of_succ fun _ _ _ _ _ _ _ => rfl
  | bool value =>
    refine isRead_of_succ fun _ _ _ _ _ _ _ => ?_
    cases value <;> rfl
  | number value =>
    refine isRead_of_succ fun fuel depth shape following _ _ ends => ?_
    rw [toList_text_number]
    exact value?_numberText value ends
  | string value =>
    refine isRead_of_succ fun fuel depth shape following _ _ _ => ?_
    rw [toList_text_string]
    show (string? (escapes value.toList ++ ['"'] ++ following)).map _ = _
    rw [List.append_assoc, List.singleton_append, string?_escapes]
    rfl
  | array items ih =>
    refine isRead_of_succ fun fuel depth shape following kept enough _ => ?_
    cases items with
    | nil =>
      show (if depth ≤ 1 then none else some (array [], following)) = _
      rw [reread?]
      split <;> rfl
    | cons item others =>
      rw [value?_array, items?_text ih (isKept_array_iff.mp kept) (itemsText_lt enough), reread?]
      split
      · rfl
      · rw [Option.map_map, Option.map_map]
        rfl
  | object members ih =>
    refine isRead_of_succ fun fuel depth shape following kept enough _ => ?_
    cases members with
    | nil =>
      show (if depth ≤ 1 then none else some (object [], following)) = _
      rw [reread?]
      split <;> rfl
    | cons member others =>
      rw [value?_object, members?_text ih (isKept_object_iff.mp kept) (membersText_lt enough),
        reread?]
      split
      · rfl
      · rw [Option.map_map, Option.map_map]
        rfl

/-- **The whole text of a value is read as its front is**, for a shape that has all of its
members. -/
theorem readAs?_text {value : Json} {shape : Shape} (kept : value.isKept shape = true) :
    readAs? shape value.text = value.reread? 128 := by
  have reads := isRead value (2 * value.text.length + 2) 128 shape [] kept
    (by rw [String.length_toList]; omega) endsNumber_nil
  rw [List.append_nil] at reads
  rw [readAs?, reads]
  cases value.reread? 128 <;> rfl

end Leasehold.Json
