/-
**What the reader undoes.**

A value is `Plain` if it holds no number with a fraction and no object that names a member twice.
The text of a plain value is read as the value (`parse?_compact`), so it is the text of no other
plain value (`compact_inj`). A value inside an array or an object is read with more text behind it,
so it is shown for a value in front of any text (`ReadsBack`). That text must not go on with a
number (`EndsNumber`): what follows `1` may not start with a digit, a point or an exponent.
-/

import Aggregation.Proofs.Json.Printer
import Aggregation.Proofs.Text.Digits
import Mathlib.Data.List.Nodup
import Mathlib.Data.List.TakeWhile

namespace Aggregation.Json

variable {rest : List Char}

/-! ### Blanks -/

/-- What is no blank is not skipped. -/
theorem skipBlanks_cons {first : Char} (visible : isBlank first = false) (text : List Char) :
    skipBlanks (first :: text) = first :: text :=
  List.dropWhile_cons_of_neg (by rw [visible]; exact Bool.false_ne_true)

theorem skipBlanks_quoted (name : String) (text : List Char) :
    skipBlanks (quoted name ++ text) = '"' :: ((quoted name).tail ++ text) := rfl

/-! ### Numbers -/

/-- What follows a number does not go on with it. -/
def EndsNumber (rest : List Char) : Prop :=
  ∀ c ∈ rest.head?, c.isDigit = false ∧ c ≠ '.' ∧ c ≠ 'e' ∧ c ≠ 'E'

theorem endsNumber_cons {first : Char}
    (ends : first.isDigit = false ∧ first ≠ '.' ∧ first ≠ 'e' ∧ first ≠ 'E') (rest : List Char) :
    EndsNumber (first :: rest) := by
  rintro c ⟨⟩
  exact ends

theorem takeWhile_digits {digits : List Char} (all : ∀ c ∈ digits, c.isDigit = true)
    (ends : EndsNumber rest) : (digits ++ rest).takeWhile Char.isDigit = digits := by
  rw [List.takeWhile_append_of_pos all]
  cases rest with
  | nil => exact List.append_nil digits
  | cons c rest => rw [List.takeWhile_cons_of_neg (by simp [ends c rfl]), List.append_nil]

theorem dropWhile_digits {digits : List Char} (all : ∀ c ∈ digits, c.isDigit = true)
    (ends : EndsNumber rest) : (digits ++ rest).dropWhile Char.isDigit = rest := by
  rw [List.dropWhile_append_of_pos all]
  cases rest with
  | nil => rfl
  | cons c rest => rw [List.dropWhile_cons_of_neg (by simp [ends c rfl])]

/-- There is no fraction and no exponent where a number ends. -/
theorem fractionExponent?_of_ends (ends : EndsNumber rest) :
    fractionExponent? rest = some ([], rest) := by
  cases rest with
  | nil => rfl
  | cons c rest =>
    obtain ⟨-, point, lower, upper⟩ := ends c rfl
    unfold fractionExponent?
    simp [point, lower, upper]

/-- A natural number is written as the reader demands. -/
theorem canonical_toDigits (value : Nat) :
    ¬((Nat.toDigits 10 value).head? = some '0' ∧ (Nat.toDigits 10 value).length ≠ 1) := by
  rintro ⟨zero, long⟩
  rcases Nat.eq_zero_or_pos value with rfl | positive
  · exact long rfl
  · exact Text.head?_toDigits positive zero

theorem number?_toDigits (ends : EndsNumber rest) (value : Nat) :
    number? (Nat.toDigits 10 value ++ rest) = some (int value, rest) := by
  have digits := Text.isDigit_of_mem_toDigits value
  have unsigned : ∀ text, Nat.toDigits 10 value ++ rest ≠ '-' :: text := by
    intro text same
    obtain ⟨first, others, shape, digit⟩ := Text.toDigits_eq_cons value
    rw [shape, List.cons_append, List.cons.injEq] at same
    rw [same.1] at digit
    exact absurd digit (by decide)
  unfold number?
  split
  next negative text same =>
    have sign : (negative, text) = (false, Nat.toDigits 10 value ++ rest) := by
      rw [← same]
      split
      · next text signed => exact absurd signed (unsigned text)
      · rfl
    cases sign
    simp [takeWhile_digits digits ends, dropWhile_digits digits ends, Nat.toDigits_ne_nil,
      canonical_toDigits, fractionExponent?_of_ends ends, Text.digitsValue_toDigits]

theorem number?_negative (ends : EndsNumber rest) {value : Nat} (positive : 0 < value) :
    number? ('-' :: (Nat.toDigits 10 value ++ rest)) = some (int (-(value : Int)), rest) := by
  have digits := Text.isDigit_of_mem_toDigits value
  unfold number?
  simp [takeWhile_digits digits ends, dropWhile_digits digits ends, Nat.toDigits_ne_nil,
    canonical_toDigits, fractionExponent?_of_ends ends, Text.digitsValue_toDigits,
    Nat.ne_of_gt positive]

theorem chars_int (value : Int) : chars (int value) =
    if 0 ≤ value then Nat.toDigits 10 value.toNat else '-' :: Nat.toDigits 10 (-value).toNat := by
  rw [chars]
  show value.repr.toList = _
  rw [Int.repr_eq_if]
  split
  · rw [Nat.repr_eq_ofList_toDigits, String.toList_ofList]
  · rw [Nat.repr_eq_ofList_toDigits, String.toList_append, String.toList_ofList]
    simp

/-- **An integer is read back.** -/
theorem number?_chars (ends : EndsNumber rest) (value : Int) :
    number? (chars (int value) ++ rest) = some (int value, rest) := by
  rw [chars_int]
  split
  · next natural => rw [number?_toDigits ends, Int.toNat_of_nonneg natural]
  · next negative =>
    rw [List.cons_append, number?_negative ends (by omega), Int.toNat_of_nonneg (by omega),
      Int.neg_neg]

/-- What starts with a sign or a digit is read as a number. -/
theorem value?_number {first : Char} (starts : first = '-' ∨ first.isDigit = true) (fuel : Nat)
    (text : List Char) : value? (fuel + 1) (first :: text) = number? (first :: text) := by
  have visible : isBlank first = false := by
    rw [Bool.eq_false_iff]
    intro blank
    simp only [isBlank, Bool.or_eq_true, decide_eq_true_eq] at blank
    rcases blank with ((rfl | rfl) | rfl) | rfl <;> exact absurd starts (by decide)
  rw [value?, skipBlanks_cons visible]
  split
  case h_7 => rfl
  all_goals
    next same =>
      cases same
      exact absurd starts (by decide)

/-! ### Values in front of a text -/

/-- A value is read from the front of any text behind it that does not go on with a number. -/
def ReadsBack (value : Json) : Prop :=
  ∀ fuel rest, value.chars.length ≤ fuel → EndsNumber rest →
    value? fuel (value.chars ++ rest) = some (value, rest)

/-- A value is read back if it is from its first character on, with fuel for all that follows. -/
theorem readsBack_of_chars {value : Json} {first : Char} {others : List Char}
    (shape : value.chars = first :: others)
    (read : ∀ fuel rest, others.length ≤ fuel → EndsNumber rest →
      value? (fuel + 1) (first :: (others ++ rest)) = some (value, rest)) :
    ReadsBack value := by
  intro fuel rest enough ends
  rw [shape, List.length_cons] at enough
  rw [shape]
  obtain ⟨fuel, rfl⟩ : ∃ more, fuel = more + 1 := Nat.exists_eq_add_one.mpr (by omega)
  exact read fuel rest (by omega) ends

theorem chars_null : chars null = ['n', 'u', 'l', 'l'] := by
  rw [chars]
  rfl

theorem chars_bool (value : Bool) : chars (bool value) =
    bif value then ['t', 'r', 'u', 'e'] else ['f', 'a', 'l', 's', 'e'] := by
  cases value
  · rw [chars]
    rfl
  · rw [chars]
    rfl

theorem readsBack_int (value : Int) : ReadsBack (int value) := by
  obtain ⟨first, others, shape, starts⟩ : ∃ first others, chars (int value) = first :: others ∧
      (first = '-' ∨ first.isDigit = true) := by
    rw [chars_int]
    split
    · obtain ⟨first, others, shape, digit⟩ := Text.toDigits_eq_cons value.toNat
      exact ⟨first, others, shape, .inr digit⟩
    · exact ⟨'-', _, rfl, .inl rfl⟩
  refine readsBack_of_chars shape fun fuel rest _ ends => ?_
  have read := number?_chars ends value
  rw [shape] at read
  exact (value?_number starts fuel _).trans read

theorem readsBack_string (text : String) : ReadsBack (string text) := by
  refine readsBack_of_chars (chars_string text) fun fuel rest _ _ => ?_
  show (stringAfterQuote? ((quoted text).tail ++ rest)).map _ = _
  rw [stringAfterQuote?_quoted]
  rfl

/-! ### Arrays -/

theorem chars_array (items : List Json) :
    chars (array items) = '[' :: (itemChars items ++ [']']) := by
  rw [chars]
  rfl

/-- No value starts with a closing bracket. -/
theorem value?_bracket {text after : List Char} (closed : skipBlanks text = ']' :: after)
    (fuel : Nat) : value? fuel text = none := by
  cases fuel with
  | zero => rfl
  | succ fuel =>
    rw [value?, closed]
    rfl

/-- Items are read one by one up to the closing bracket. -/
theorem items?_itemChars {items : List Json} (each : ∀ item ∈ items, ReadsBack item)
    (occupied : items ≠ []) (fuel : Nat) (read : List Json)
    (enough : (itemChars items).length < fuel) :
    items? fuel read (itemChars items ++ ']' :: rest) =
      some (array (read.reverse ++ items), rest) := by
  induction items generalizing fuel read with
  | nil => exact absurd rfl occupied
  | cons item others ih =>
    obtain ⟨fuel, rfl⟩ : ∃ more, fuel = more + 1 := Nat.exists_eq_add_one.mpr (by omega)
    have own := each item List.mem_cons_self
    cases others with
    | nil =>
      rw [itemChars] at enough ⊢
      rw [items?, own fuel _ (by omega) (endsNumber_cons (by decide) rest)]
      simp (disch := decide) only [skipBlanks_cons, List.reverse_cons]
    | cons next others =>
      have later := ih (fun item member => each item (List.mem_cons_of_mem _ member)) (by simp)
      have shape : itemChars (item :: next :: others) =
          chars item ++ ',' :: itemChars (next :: others) := by
        rw [itemChars]
        nofun
      rw [shape, List.length_append, List.length_cons] at enough
      rw [shape, List.append_assoc, List.cons_append, items?,
        own fuel _ (by omega) (endsNumber_cons (by decide) _)]
      simp (disch := decide) only [skipBlanks_cons]
      rw [later fuel _ (by omega), List.reverse_cons, List.append_assoc]
      rfl

theorem readsBack_array {items : List Json} (each : ∀ item ∈ items, ReadsBack item) :
    ReadsBack (array items) := by
  refine readsBack_of_chars (chars_array items) fun fuel rest enough _ => ?_
  rw [List.length_append, List.length_singleton] at enough
  rw [List.append_assoc, List.singleton_append]
  cases items with
  | nil => rfl
  | cons item others =>
    have read : items? fuel [] (itemChars (item :: others) ++ ']' :: rest) =
        some (array (item :: others), rest) :=
      items?_itemChars each (List.cons_ne_nil _ _) fuel [] (by omega)
    rw [value?, skipBlanks_cons (by decide)]
    simp only
    split
    · next closed =>
      -- The items would be read as none, but their first one is read as a value.
      cases fuel with
      | zero => cases read
      | succ fuel =>
        rw [items?, value?_bracket closed] at read
        cases read
    · exact read

/-! ### Objects -/

/-- A member of a new name goes to the end. -/
theorem putMember_new {members : List (String × Json)} {name : String}
    (new : name ∉ members.map Prod.fst) (value : Json) :
    putMember members name value = members ++ [(name, value)] := by
  refine if_neg ?_
  simpa using new

/-- A member is read with its name, and the next one after a comma. -/
theorem members?_comma {fuel : Nat} {value : Json}
    (own : value? fuel (value.chars ++ ',' :: rest) = some (value, ',' :: rest))
    (read : List (String × Json)) (name : String) :
    members? (fuel + 1) read (quoted name ++ ':' :: (value.chars ++ ',' :: rest)) =
      members? fuel (putMember read name value) rest := by
  rw [members?, skipBlanks_quoted]
  simp (disch := decide) only [stringAfterQuote?_quoted, skipBlanks_cons, own]

/-- The last member is read up to the closing brace. -/
theorem members?_brace {fuel : Nat} {value : Json}
    (own : value? fuel (value.chars ++ '\x7d' :: rest) = some (value, '\x7d' :: rest))
    (read : List (String × Json)) (name : String) :
    members? (fuel + 1) read (quoted name ++ ':' :: (value.chars ++ '\x7d' :: rest)) =
      some (object (putMember read name value), rest) := by
  rw [members?, skipBlanks_quoted]
  simp (disch := decide) only [stringAfterQuote?_quoted, skipBlanks_cons, own]

/-- Members are read one by one up to the closing brace. -/
theorem members?_memberChars {members : List (String × Json)}
    (each : ∀ member ∈ members, ReadsBack member.2) (occupied : members ≠ []) (fuel : Nat)
    (read : List (String × Json)) (distinct : ((read ++ members).map Prod.fst).Nodup)
    (enough : (memberChars members).length < fuel) :
    members? fuel read (memberChars members ++ '\x7d' :: rest) =
      some (object (read ++ members), rest) := by
  induction members generalizing fuel read with
  | nil => exact absurd rfl occupied
  | cons member others ih =>
    obtain ⟨name, value⟩ := member
    obtain ⟨fuel, rfl⟩ : ∃ more, fuel = more + 1 := Nat.exists_eq_add_one.mpr (by omega)
    have own : ReadsBack value := each (name, value) List.mem_cons_self
    have new : name ∉ read.map Prod.fst := by
      rw [List.map_append, List.map_cons] at distinct
      exact fun known => List.disjoint_of_nodup_append distinct known List.mem_cons_self
    cases others with
    | nil =>
      rw [memberChars, List.length_append, List.length_cons] at enough
      rw [memberChars, List.append_assoc, List.cons_append,
        members?_brace (own fuel _ (by omega) (endsNumber_cons (by decide) rest)),
        putMember_new new]
    | cons next others =>
      have later := ih (fun item member => each item (List.mem_cons_of_mem _ member)) (by simp)
      rw [memberChars_cons, List.length_append, List.length_cons, List.length_append,
        List.length_cons] at enough
      rw [memberChars_cons, List.append_assoc, List.cons_append, List.append_assoc,
        List.cons_append, members?_comma (own fuel _ (by omega) (endsNumber_cons (by decide) _)),
        putMember_new new]
      rw [later fuel _ (by simpa using distinct) (by omega), List.append_assoc]
      rfl

theorem readsBack_object {members : List (String × Json)}
    (distinct : (members.map Prod.fst).Nodup) (each : ∀ member ∈ members, ReadsBack member.2) :
    ReadsBack (object members) := by
  refine readsBack_of_chars (chars_object members) fun fuel rest enough _ => ?_
  rw [List.length_append, List.length_singleton] at enough
  rw [List.append_assoc, List.singleton_append]
  cases members with
  | nil => rfl
  | cons member others =>
    have read : members? fuel [] (memberChars (member :: others) ++ '\x7d' :: rest) =
        some (object (member :: others), rest) :=
      members?_memberChars each (List.cons_ne_nil _ _) fuel [] distinct (by omega)
    obtain ⟨behind, quote⟩ : ∃ behind, memberChars (member :: others) = '"' :: behind := by
      cases others with
      | nil => exact ⟨_, rfl⟩
      | cons next others => exact ⟨_, memberChars_cons _ _ _ _⟩
    rw [quote] at read ⊢
    exact read

/-! ### Plain values -/

/-- A value without fractions and exponents, in whose objects no name comes twice. -/
inductive Plain : Json → Prop where
  | null : Plain null
  | bool (value : Bool) : Plain (bool value)
  | int (value : Int) : Plain (int value)
  | string (text : String) : Plain (string text)
  | array {items : List Json} (each : ∀ item ∈ items, Plain item) : Plain (array items)
  | object {members : List (String × Json)} (distinct : (members.map Prod.fst).Nodup)
    (each : ∀ member ∈ members, Plain member.2) : Plain (object members)

theorem Plain.distinct {members : List (String × Json)} (plain : Plain (.object members)) :
    (members.map Prod.fst).Nodup := by
  cases plain
  assumption

/-- Names that are written out are compared by computing. -/
theorem plain_object {members : List (String × Json)}
    (distinct : decide (members.map Prod.fst).Nodup = true)
    (each : members.Forall fun member => Plain member.2) : Plain (object members) :=
  .object (of_decide_eq_true distinct) (List.forall_iff_forall_mem.mp each)

theorem plain_array {α : Type} {write : α → Json} (each : ∀ item, Plain (write item))
    (items : List α) : Plain (array (items.map write)) := by
  refine .array fun written member => ?_
  obtain ⟨item, -, rfl⟩ := List.mem_map.mp member
  exact each item

theorem plain_ofText? (value : Option String) : Plain (ofText? value) := by
  cases value with
  | none => exact .null
  | some text => exact .string text

/-- **A plain value is read from the front of a text.** -/
theorem Plain.readsBack {value : Json} (plain : Plain value) : ReadsBack value := by
  induction plain with
  | null => exact readsBack_of_chars chars_null fun _ _ _ _ => rfl
  | bool value =>
    cases value with
    | true => exact readsBack_of_chars (chars_bool true) fun _ _ _ _ => rfl
    | false => exact readsBack_of_chars (chars_bool false) fun _ _ _ _ => rfl
  | int value => exact readsBack_int value
  | string text => exact readsBack_string text
  | array _ ih => exact readsBack_array ih
  | object distinct _ ih => exact readsBack_object distinct ih

/-- **The text of a plain value is read as the value.** -/
theorem parse?_compact {value : Json} (plain : Plain value) :
    parse? value.compact = some value := by
  have read := plain.readsBack (2 * value.chars.length + 2) [] (by omega) (by rintro c ⟨⟩)
  rw [List.append_nil] at read
  unfold parse? compact
  simp only [String.toList_ofList, read]
  rfl

/-- **Plain values of one text are one.** -/
theorem compact_inj {first second : Json} (plain : Plain first) (other : Plain second) :
    first.compact = second.compact ↔ first = second := by
  refine ⟨fun same => ?_, congrArg compact⟩
  have read : parse? first.compact = some first := parse?_compact plain
  rw [same, parse?_compact other, Option.some.injEq] at read
  exact read.symm

end Aggregation.Json
