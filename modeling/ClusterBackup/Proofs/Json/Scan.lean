/-
ClusterBackup.Proofs.Json.Scan — a value that was written is scanned back.

`Json.draft` is the draft that a reader should meet in the text of a value:
the value itself, with everything closed and nothing lost. `scan_write`
says that it does, for values without numbers; what the service reads and
answers has none.

The scanner spends its fuel on nesting and on items, and each of them takes
a character at least, so twice the characters are enough (`scanValue_chars`
and the two lemmas beside it, one for each function of the writer).
-/
import ClusterBackup.Proofs.Json.Strings

namespace ClusterBackup.Json

open Draft

/-! ## Drafts of values -/

mutual

/-- The draft that a reader meets in the text of a value. -/
def draft : Json → Draft
  | .null => .null
  | .bool b => .bool b
  | .number n => .number (some n)
  | .string s => .string (some s)
  | .array items => .array (itemDrafts items) true
  | .object members => .object (memberDrafts members) true

def itemDrafts : List Json → List Draft
  | [] => []
  | v :: vs => draft v :: itemDrafts vs

def memberDrafts : List (String × Json) → List (Option String × Draft)
  | [] => []
  | (k, v) :: ms => (some k, draft v) :: memberDrafts ms

end

mutual

/-- There is no number in the value. -/
def numberless : Json → Bool
  | .number _ => false
  | .array items => numberlessItems items
  | .object members => numberlessMembers members
  | .null | .bool _ | .string _ => true

def numberlessItems : List Json → Bool
  | [] => true
  | v :: vs => numberless v && numberlessItems vs

def numberlessMembers : List (String × Json) → Bool
  | [] => true
  | (_, v) :: ms => numberless v && numberlessMembers ms

end

theorem itemDrafts_eq (items : List Json) : itemDrafts items = items.map draft := by
  induction items with
  | nil => rfl
  | cons v vs ih => rw [itemDrafts, List.map_cons, ih]

theorem memberDrafts_eq (members : List (String × Json)) :
    memberDrafts members = members.map fun m => (some m.1, m.2.draft) := by
  induction members with
  | nil => rfl
  | cons m ms ih => rw [memberDrafts, List.map_cons, ih]

theorem numberless_array {items : List Json} :
    (array items).numberless = true ↔ ∀ v ∈ items, v.numberless = true := by
  rw [numberless]
  induction items with
  | nil => simp [numberlessItems]
  | cons v vs ih => rw [numberlessItems, Bool.and_eq_true, ih, List.forall_mem_cons]

theorem numberless_object {members : List (String × Json)} :
    (object members).numberless = true ↔ ∀ m ∈ members, m.2.numberless = true := by
  rw [numberless]
  induction members with
  | nil => simp [numberlessMembers]
  | cons m ms ih => rw [numberlessMembers, Bool.and_eq_true, ih, List.forall_mem_cons]

/-- A value is never a place where its text breaks off. -/
theorem draft_ne_broken (v : Json) : v.draft ≠ .broken := by
  cases v <;> nofun

/-! ## How texts of values start -/

theorem skipBlanks_cons {c : Char} (solid : isBlankChar c = false) (cs : List Char) :
    skipBlanks (c :: cs) = c :: cs := by
  rw [skipBlanks, List.dropWhile_cons_of_neg (by simp [solid])]

/-- The text of a value without numbers starts with a character that is neither white space nor the
end of an array. -/
theorem chars_eq_cons {v : Json} (h : v.numberless = true) :
    ∃ c cs, v.chars = c :: cs ∧ isBlankChar c = false ∧ c ≠ ']' := by
  cases v with
  | null => exact ⟨'n', _, rfl, by decide, by decide⟩
  | bool b =>
    cases b with
    | false => exact ⟨'f', _, rfl, by decide, by decide⟩
    | true => exact ⟨'t', _, rfl, by decide, by decide⟩
  | number n => cases h
  | string s => exact ⟨'"', _, rfl, by decide, by decide⟩
  | array items => exact ⟨'[', _, rfl, by decide, by decide⟩
  | object members => exact ⟨Char.ofNat 0x7B, _, rfl, by decide, by decide⟩

/-! ## One step of the scanner -/

section

variable (fuel : Nat) (rest : List Char)

theorem scanValue_null :
    scanValue (fuel + 1) ('n' :: 'u' :: 'l' :: 'l' :: rest) = (.null, some rest) := by
  rw [scanValue, skipBlanks_cons (by decide)]
  simp [dropWord?]

theorem scanValue_true :
    scanValue (fuel + 1) ('t' :: 'r' :: 'u' :: 'e' :: rest) = (.bool true, some rest) := by
  rw [scanValue, skipBlanks_cons (by decide)]
  simp [dropWord?]

theorem scanValue_false :
    scanValue (fuel + 1) ('f' :: 'a' :: 'l' :: 's' :: 'e' :: rest) = (.bool false, some rest) := by
  rw [scanValue, skipBlanks_cons (by decide)]
  simp [dropWord?]

theorem scanValue_quote (s : String) :
    scanValue (fuel + 1) (quote s ++ rest) = (.string (some s), some rest) := by
  rw [quote, List.cons_append, List.append_assoc, scanValue, skipBlanks_cons (by decide)]
  simp [scanString?_quote]

theorem scanValue_array :
    scanValue (fuel + 1) ('[' :: rest) =
      (.array (scanItems fuel rest).1 (scanItems fuel rest).2.isSome, (scanItems fuel rest).2) := by
  rw [scanValue, skipBlanks_cons (by decide)]
  simp

theorem scanValue_object :
    scanValue (fuel + 1) (Char.ofNat 0x7B :: rest) =
      (.object (scanMembers fuel rest).1 (scanMembers fuel rest).2.isSome,
        (scanMembers fuel rest).2) := by
  rw [scanValue, skipBlanks_cons (by decide)]
  simp

theorem scanItems_nil : scanItems (fuel + 1) (']' :: rest) = ([], some rest) := by
  simp [scanItems, skipBlanks_cons (show isBlankChar ']' = false by decide)]

/-- An array whose text does not end at once has an item. -/
theorem scanItems_cons {c : Char} (solid : isBlankChar c = false) (item : c ≠ ']') :
    scanItems (fuel + 1) (c :: rest) = scanMoreItems fuel (c :: rest) := by
  rw [scanItems, skipBlanks_cons solid]
  split
  · next same =>
    cases same
    exact absurd rfl item
  · rfl

theorem scanMembers_nil : scanMembers (fuel + 1) (Char.ofNat 0x7D :: rest) = ([], some rest) := by
  rw [scanMembers, skipBlanks_cons (by decide)]
  simp

theorem scanMembers_cons :
    scanMembers (fuel + 1) ('"' :: rest) = scanMoreMembers fuel ('"' :: rest) := by
  rw [scanMembers, skipBlanks_cons (by decide)]
  simp

variable {fuel rest} {d : Draft} {cs : List Char}

/-- The last item of an array. -/
theorem scanMoreItems_last (item : scanValue fuel cs = (d, some (']' :: rest))) :
    scanMoreItems (fuel + 1) cs = ([d], some rest) := by
  rw [scanMoreItems, item]
  simp [skipBlanks_cons (show isBlankChar ']' = false by decide)]

/-- An item of an array that is followed by another one. -/
theorem scanMoreItems_more (item : scanValue fuel cs = (d, some (',' :: rest))) :
    scanMoreItems (fuel + 1) cs =
      (d :: (scanMoreItems fuel rest).1, (scanMoreItems fuel rest).2) := by
  rw [scanMoreItems, item]
  simp [skipBlanks_cons (show isBlankChar ',' = false by decide)]

/-- The last member of an object. -/
theorem scanMoreMembers_last (name : String)
    (value : scanValue fuel cs = (d, some (Char.ofNat 0x7D :: rest))) :
    scanMoreMembers (fuel + 1) (quote name ++ ':' :: cs) = ([(some name, d)], some rest) := by
  rw [quote, List.cons_append, List.append_assoc, scanMoreMembers, skipBlanks_cons (by decide)]
  simp [scanString?_quote, value, skipBlanks_cons (show isBlankChar ':' = false by decide),
    skipBlanks_cons (show isBlankChar (Char.ofNat 0x7D) = false by decide)]

/-- A member of an object that is followed by another one. -/
theorem scanMoreMembers_more (name : String)
    (value : scanValue fuel cs = (d, some (',' :: rest))) :
    scanMoreMembers (fuel + 1) (quote name ++ ':' :: cs) =
      ((some name, d) :: (scanMoreMembers fuel rest).1, (scanMoreMembers fuel rest).2) := by
  rw [quote, List.cons_append, List.append_assoc, scanMoreMembers, skipBlanks_cons (by decide)]
  simp [scanString?_quote, value, skipBlanks_cons (show isBlankChar ':' = false by decide),
    skipBlanks_cons (show isBlankChar ',' = false by decide)]

end

/-! ## Whole values -/

theorem itemChars_cons_cons (v w : Json) (vs : List Json) :
    itemChars (v :: w :: vs) = chars v ++ ',' :: itemChars (w :: vs) := rfl

theorem memberChars_cons_cons (k : String) (v : Json) (m : String × Json)
    (ms : List (String × Json)) :
    memberChars ((k, v) :: m :: ms) =
      quote k ++ ':' :: (chars v ++ ',' :: memberChars (m :: ms)) := rfl

/-- The text of a list of items starts with its first item. -/
theorem itemChars_eq_append (v : Json) (vs : List Json) :
    ∃ c cs, itemChars (v :: vs) = chars v ++ c :: cs := by
  cases vs with
  | nil => exact ⟨']', [], rfl⟩
  | cons w vs => exact ⟨',', _, itemChars_cons_cons v w vs⟩

/-- The text of a list of members starts with the name of its first member. -/
theorem memberChars_eq_cons (m : String × Json) (ms : List (String × Json)) :
    ∃ cs, memberChars (m :: ms) = '"' :: cs := by
  cases ms with
  | nil => exact ⟨_, rfl⟩
  | cons m' ms => exact ⟨_, rfl⟩

mutual

/-- The text of a value is scanned as the draft of the value, with what follows it. -/
theorem scanValue_chars : ∀ v : Json, v.numberless = true →
    ∀ (fuel : Nat) (rest : List Char), 2 * v.chars.length ≤ fuel + 1 →
      scanValue (fuel + 1) (v.chars ++ rest) = (v.draft, some rest)
  | .null, _, fuel, rest, _ => scanValue_null fuel rest
  | .bool true, _, fuel, rest, _ => scanValue_true fuel rest
  | .bool false, _, fuel, rest, _ => scanValue_false fuel rest
  | .string s, _, fuel, rest, _ => scanValue_quote fuel rest s
  | .array [], _, fuel, rest, enough => by
    simp only [chars, itemChars, List.length_cons, List.length_nil] at enough
    obtain ⟨n, rfl⟩ : ∃ n, fuel = n + 1 := ⟨fuel - 1, by omega⟩
    rw [chars, List.cons_append, scanValue_array, itemChars, List.singleton_append, scanItems_nil]
    rfl
  | .array (v :: vs), h, fuel, rest, enough => by
    rw [numberless, numberlessItems, Bool.and_eq_true] at h
    obtain ⟨c, cs, start, solid, item⟩ := chars_eq_cons h.1
    obtain ⟨d, ds, first⟩ := itemChars_eq_append v vs
    have front : itemChars (v :: vs) = c :: (cs ++ d :: ds) := by rw [first, start, List.cons_append]
    rw [chars, List.length_cons, front, List.length_cons] at enough
    obtain ⟨n, rfl⟩ : ∃ n, fuel = n + 2 := ⟨fuel - 2, by omega⟩
    have items := scanMoreItems_chars v vs h.1 h.2 n rest (by
      rw [front, List.length_cons]
      omega)
    rw [chars, List.cons_append, scanValue_array, front, List.cons_append,
      scanItems_cons (n + 1) _ solid item, ← List.cons_append, ← front, items]
    rfl
  | .object [], _, fuel, rest, enough => by
    simp only [chars, memberChars, List.length_cons, List.length_nil] at enough
    obtain ⟨n, rfl⟩ : ∃ n, fuel = n + 1 := ⟨fuel - 1, by omega⟩
    rw [chars, List.cons_append, scanValue_object, memberChars, List.singleton_append,
      scanMembers_nil]
    rfl
  | .object ((k, v) :: ms), h, fuel, rest, enough => by
    rw [numberless, numberlessMembers, Bool.and_eq_true] at h
    obtain ⟨cs, front⟩ := memberChars_eq_cons (k, v) ms
    rw [chars, List.length_cons, front, List.length_cons] at enough
    obtain ⟨n, rfl⟩ : ∃ n, fuel = n + 2 := ⟨fuel - 2, by omega⟩
    have members := scanMoreMembers_chars k v ms h.1 h.2 n rest (by
      rw [front, List.length_cons]
      omega)
    rw [chars, List.cons_append, scanValue_object, front, List.cons_append, scanMembers_cons,
      ← List.cons_append, ← front, members]
    rfl
  termination_by v => sizeOf v

/-- The items of an array are scanned as their drafts. -/
theorem scanMoreItems_chars : ∀ (v : Json) (vs : List Json), v.numberless = true →
    numberlessItems vs = true → ∀ (fuel : Nat) (rest : List Char),
      2 * (itemChars (v :: vs)).length ≤ fuel + 1 →
      scanMoreItems (fuel + 1) (itemChars (v :: vs) ++ rest) = (itemDrafts (v :: vs), some rest)
  | v, [], h, _, fuel, rest, enough => by
    simp only [itemChars, List.length_append, List.length_cons, List.length_nil] at enough
    obtain ⟨n, rfl⟩ : ∃ n, fuel = n + 1 := ⟨fuel - 1, by omega⟩
    have item := scanValue_chars v h n (']' :: rest) (by omega)
    rw [itemChars, List.append_assoc, List.singleton_append, scanMoreItems_last item]
    rfl
  | v, w :: vs, h, hs, fuel, rest, enough => by
    rw [itemChars_cons_cons, List.length_append, List.length_cons] at enough
    rw [numberlessItems, Bool.and_eq_true] at hs
    obtain ⟨n, rfl⟩ : ∃ n, fuel = n + 1 := ⟨fuel - 1, by omega⟩
    have item := scanValue_chars v h n (',' :: (itemChars (w :: vs) ++ rest)) (by omega)
    have items := scanMoreItems_chars w vs hs.1 hs.2 n rest (by omega)
    rw [itemChars_cons_cons, List.append_assoc, List.cons_append, scanMoreItems_more item, items]
    rfl
  termination_by v vs => sizeOf (v :: vs)

/-- The members of an object are scanned as their drafts. -/
theorem scanMoreMembers_chars : ∀ (k : String) (v : Json) (ms : List (String × Json)),
    v.numberless = true → numberlessMembers ms = true → ∀ (fuel : Nat) (rest : List Char),
      2 * (memberChars ((k, v) :: ms)).length ≤ fuel + 1 →
      scanMoreMembers (fuel + 1) (memberChars ((k, v) :: ms) ++ rest) =
        (memberDrafts ((k, v) :: ms), some rest)
  | k, v, [], h, _, fuel, rest, enough => by
    simp only [memberChars, List.length_append, List.length_cons, List.length_nil] at enough
    obtain ⟨n, rfl⟩ : ∃ n, fuel = n + 1 := ⟨fuel - 1, by omega⟩
    have value := scanValue_chars v h n (Char.ofNat 0x7D :: rest) (by omega)
    rw [memberChars, List.append_assoc, List.cons_append, List.append_assoc,
      List.singleton_append, scanMoreMembers_last k value]
    rfl
  | k, v, (k', w) :: ms, h, hs, fuel, rest, enough => by
    rw [memberChars_cons_cons, List.length_append, List.length_cons, List.length_append,
      List.length_cons] at enough
    rw [numberlessMembers, Bool.and_eq_true] at hs
    obtain ⟨n, rfl⟩ : ∃ n, fuel = n + 1 := ⟨fuel - 1, by omega⟩
    have value := scanValue_chars v h n (',' :: (memberChars ((k', w) :: ms) ++ rest)) (by omega)
    have members := scanMoreMembers_chars k' w ms hs.1 hs.2 n rest (by omega)
    rw [memberChars_cons_cons, List.append_assoc, List.cons_append, List.append_assoc,
      List.cons_append, scanMoreMembers_more k value, members]
    rfl
  termination_by k v ms => sizeOf ((k, v) :: ms)

end

/-- **The text of a value without numbers is scanned as its draft**, and nothing is left over. -/
theorem scan_write {v : Json} (h : v.numberless = true) :
    Draft.scan v.write = (v.draft, some []) := by
  have scanned := scanValue_chars v h (2 * v.chars.length + 1) [] (by omega)
  rw [List.append_nil] at scanned
  simpa [Draft.scan, write] using scanned

end ClusterBackup.Json
