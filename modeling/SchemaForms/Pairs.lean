set_option autoImplicit false

namespace SchemaForms

abbrev Pairs := List (String × String)

namespace Pairs

def first? (pairs : Pairs) (key : String) : Option String :=
  (pairs.find? fun pair => pair.1 = key).map (·.2)

def last? (pairs : Pairs) (key : String) : Option String :=
  first? pairs.reverse key

def set : Pairs → String → String → Pairs
  | [], key, value => [(key, value)]
  | (k, v) :: rest, key, value =>
    if k = key then (k, value) :: rest else (k, v) :: set rest key value

section Ends

variable (pairs : Pairs) (key : String)

theorem first?_append (rest : Pairs) :
    first? (pairs ++ rest) key = (pairs.first? key).or (rest.first? key) := by
  simp only [first?, List.find?_append]
  cases pairs.find? fun pair => pair.1 = key <;> rfl

theorem last?_append (rest : Pairs) :
    last? (pairs ++ rest) key = (rest.last? key).or (pairs.last? key) := by
  rw [last?, List.reverse_append, first?_append]
  rfl

theorem last?_cons (pair : String × String) (rest : Pairs) :
    last? (pair :: rest) key =
      (rest.last? key).or (if pair.1 = key then some pair.2 else none) := by
  have single : last? [pair] key = if pair.1 = key then some pair.2 else none := by
    by_cases hit : pair.1 = key <;> simp [last?, first?, hit]
  rw [← single]
  exact last?_append [pair] key rest

end Ends

theorem last?_isSome (pairs : Pairs) (key : String) :
    (pairs.last? key).isSome = (pairs.first? key).isSome := by
  rw [Bool.eq_iff_iff]
  simp [last?, first?]

theorem first?_eq_some_iff_append (pairs : Pairs) (key value : String) :
    pairs.first? key = some value ↔
      ∃ before after, pairs = before ++ (key, value) :: after ∧ ∀ pair ∈ before, pair.1 ≠ key := by
  simp only [first?, Option.map_eq_some_iff, List.find?_eq_some_iff_append]
  constructor
  · rintro ⟨⟨held, _⟩, ⟨hit, before, after, split, free⟩, rfl⟩
    obtain rfl : held = key := by simpa using hit
    exact ⟨before, after, split, fun pair member => by simpa using free pair member⟩
  · rintro ⟨before, after, split, free⟩
    exact ⟨(key, value), ⟨by simp, before, after, split,
      fun pair member => by simpa using free pair member⟩, rfl⟩

theorem first?_set_self (pairs : Pairs) (key value : String) :
    (pairs.set key value).first? key = some value := by
  induction pairs with
  | nil => simp [set, first?]
  | cons pair rest ih =>
    obtain ⟨k, v⟩ := pair
    by_cases same : k = key
    · simp [set, first?, same]
    · simpa [set, first?, same] using ih

theorem first?_set_of_ne (pairs : Pairs) {key other : String} (value : String)
    (ne : other ≠ key) : (pairs.set key value).first? other = pairs.first? other := by
  induction pairs with
  | nil => simp [set, first?, Ne.symm ne]
  | cons pair rest ih =>
    obtain ⟨k, v⟩ := pair
    by_cases same : k = key
    · simp [set, first?, same, Ne.symm ne]
    · by_cases hit : k = other
      · subst hit
        simp [set, first?, same]
      · simpa [set, first?, same, hit] using ih

end Pairs

end SchemaForms
