import Mathlib.Data.Set.Finite.Basic
import SchemaForms.SchemaSource

set_option autoImplicit false

namespace SchemaForms

namespace Text

variable {mark : Char}

theorem parts_eq_splitOn (mark : Char) (text : List Char) :
    parts mark text = text.splitOn mark := by
  induction text with
  | nil => rfl
  | cons c rest ih =>
    rw [parts, ih, List.splitOn_cons_eq_if_modifyHead]
    by_cases here : c = mark
    · simp [here]
    · obtain ⟨part, more, split⟩ := List.exists_cons_of_ne_nil (List.splitOn_ne_nil mark rest)
      simp [here, split]

theorem parts_append_unmarked {ending : List Char} (unmarked : mark ∉ ending) (text : List Char) :
    ∃ front last, parts mark (text ++ ending) = front ++ [last ++ ending] := by
  induction text with
  | nil => exact ⟨[], [], by simp [parts_eq_splitOn, List.splitOn_eq_singleton unmarked]⟩
  | cons c rest ih =>
    obtain ⟨front, last, split⟩ := ih
    by_cases here : c = mark
    · exact ⟨[] :: front, last, by simp [parts, here, split]⟩
    · cases front with
      | nil => exact ⟨[], c :: last, by simp_all [parts]⟩
      | cons part front => exact ⟨(c :: part) :: front, last, by simp_all [parts]⟩

end Text

namespace Path

def isStep (part : String) : Bool := part ≠ "" && part ≠ "."

def steps (path : String) : List String := (parts path).filter isStep

def enter (place : List String) (step : String) : List String :=
  if step = ".." then place.dropLast else place ++ [step]

/-- Where a path leads, seen from `base`. -/
def place (base : List String) (path : String) : List String :=
  (steps path).foldl enter (if isAbsolute path then [] else base)

/-- No beginning of `steps` goes up more often than down. -/
def Descends (steps : List String) : Prop :=
  ∀ front, front <+: steps → 2 * front.count ".." ≤ front.length

section Join

variable {base path : String}

theorem parts_append_slash {whole : String} {front : List Char}
    (split : whole.toList = front ++ '/' :: path.toList) :
    parts whole = (Text.parts '/' front).map String.ofList ++ parts path := by
  rw [parts, split, Text.parts_eq_splitOn, List.splitOn_append_cons_self, List.map_append,
    ← Text.parts_eq_splitOn, ← Text.parts_eq_splitOn, parts]

theorem steps_append_slash {whole : String} (front : List Char)
    (split : whole.toList = front ++ '/' :: path.toList) :
    steps whole = ((Text.parts '/' front).map String.ofList).filter isStep ++ steps path := by
  rw [steps, parts_append_slash split, List.filter_append, steps]

theorem steps_empty : steps "" = [] := by decide

theorem join_of_relative (relative : isAbsolute path = false) :
    join base path =
      if base = "" then path
      else if base.toList.getLast? = some '/' then base ++ path else base ++ "/" ++ path := by
  simp [join, relative]

theorem steps_join (relative : isAbsolute path = false) :
    steps (join base path) = steps base ++ steps path := by
  rw [join_of_relative relative]
  split
  · next empty => simp [empty, steps_empty]
  split
  · next slash =>
    obtain ⟨front, ends⟩ := List.getLast?_eq_some_iff.mp slash
    have whole : steps (base ++ path) = _ ++ steps path :=
      steps_append_slash front (by simp [ends])
    have alone : steps base = _ ++ steps "" :=
      steps_append_slash front (by simp [ends])
    rw [whole, alone, steps_empty, List.append_nil]
  · have whole : steps (base ++ "/" ++ path) = _ ++ steps path :=
      steps_append_slash base.toList (by simp)
    rw [whole]
    rfl

theorem isAbsolute_append {ending : String} (given : base ≠ "") :
    isAbsolute (base ++ ending) = isAbsolute base := by
  have filled : base.toList ≠ [] := by simpa using given
  obtain ⟨c, rest, text⟩ := List.exists_cons_of_ne_nil filled
  simp [isAbsolute, text]

theorem isAbsolute_join (relative : isAbsolute path = false) :
    isAbsolute (join base path) = isAbsolute base := by
  rw [join_of_relative relative]
  split
  · next empty =>
    rw [relative, empty]
    rfl
  · next given =>
    split
    · exact isAbsolute_append given
    · rw [String.append_assoc, isAbsolute_append given]

theorem join_of_absolute (absolute : isAbsolute path = true) : join base path = path := by
  simp [join, absolute]

end Join

section Place

variable {steps : List String}

theorem count_up_concat {step : String} (down : step ≠ "..") :
    (steps ++ [step]).count ".." = steps.count ".." := by
  simp [List.count_append, down]

theorem descends_concat (step : String) :
    Descends (steps ++ [step]) ↔
      Descends steps ∧ 2 * (steps ++ [step]).count ".." ≤ steps.length + 1 := by
  simp only [Descends, List.prefix_concat_iff, or_imp, forall_and, forall_eq, List.length_append,
    List.length_singleton]
  exact and_comm

theorem foldl_enter_of_descends (base : List String) (descends : Descends steps) :
    ∃ rest, steps.foldl enter base = base ++ rest ∧
      rest.length + 2 * steps.count ".." = steps.length := by
  induction steps using List.reverseRecOn with
  | nil => exact ⟨[], by simp⟩
  | append_singleton steps step ih =>
    obtain ⟨before, here⟩ := (descends_concat step).mp descends
    obtain ⟨rest, reached, length⟩ := ih before
    rw [List.foldl_append, List.foldl_cons, List.foldl_nil, reached, enter]
    by_cases up : step = ".."
    · subst up
      simp only [List.count_append, List.count_singleton_self] at here
      have filled : rest ≠ [] := by
        rintro rfl
        simp only [List.length_nil] at length
        omega
      refine ⟨rest.dropLast, by rw [if_pos rfl, List.dropLast_append_of_ne_nil filled], ?_⟩
      have := List.length_pos_iff.mpr filled
      simp only [List.length_dropLast, List.length_append, List.length_singleton,
        List.count_append, List.count_singleton_self]
      omega
    · refine ⟨rest ++ [step], by rw [if_neg up, List.append_assoc], ?_⟩
      simp only [count_up_concat up, List.length_append, List.length_singleton]
      omega

theorem not_mem_enter {place : List String} {step name : String} (absent : name ∉ place)
    (other : step ≠ name) : name ∉ enter place step := by
  rw [enter]
  split
  · exact fun member => absent (List.mem_of_mem_dropLast member)
  · simp [absent, Ne.symm other]

theorem not_mem_foldl_enter {place : List String} {name : String} (absent : name ∉ place)
    (unused : name ∉ steps) : name ∉ steps.foldl enter place := by
  induction steps generalizing place with
  | nil => exact absent
  | cons step rest ih =>
    obtain ⟨other, unused⟩ := List.ne_and_not_mem_of_not_mem_cons unused
    exact ih (not_mem_enter absent (Ne.symm other)) unused

theorem not_mem_foldl_enter_of_climbs {name : String} (unused : name ∉ steps)
    (climbs : ¬ Descends steps) : name ∉ steps.foldl enter [name] := by
  induction steps using List.reverseRecOn with
  | nil => simp [Descends] at climbs
  | append_singleton steps step ih =>
    simp only [List.mem_append, List.mem_singleton, not_or] at unused
    rw [List.foldl_append, List.foldl_cons, List.foldl_nil]
    by_cases before : Descends steps
    · obtain ⟨rest, reached, length⟩ := foldl_enter_of_descends [name] before
      have here : steps.length + 1 < 2 * (steps ++ [step]).count ".." := by
        rw [descends_concat, not_and] at climbs
        exact Nat.lt_of_not_le (climbs before)
      by_cases up : step = ".."
      · subst up
        simp only [List.count_append, List.count_singleton_self] at here
        have empty : rest = [] := List.eq_nil_of_length_eq_zero (by omega)
        simp [reached, empty, enter]
      · rw [count_up_concat up] at here
        omega
    · exact not_mem_enter (ih unused.1 before) (Ne.symm unused.2)

end Place

end Path

namespace FileTree

variable {tree : FileTree}

theorem find?_of_follow {place parts : List String} {entry : FileEntry}
    (followed : tree.follow place parts = .ok entry) :
    tree.find? ((parts.filter Path.isStep).foldl Path.enter place) = some entry := by
  induction parts generalizing place with
  | nil =>
    rw [follow] at followed
    cases held : tree.find? place with
    | none => simp [held] at followed
    | some found => simp_all
  | cons part rest ih =>
    rw [follow] at followed
    split at followed
    · contradiction
    · contradiction
    · split at followed
      · next nowhere =>
        have idle : ¬ Path.isStep part = true := by
          simpa [Path.isStep, imp_iff_not_or] using nowhere
        rw [List.filter_cons_of_neg idle]
        exact ih followed
      · next somewhere =>
        have step : Path.isStep part = true := by
          simpa [Path.isStep] using somewhere
        rw [List.filter_cons_of_pos step, List.foldl_cons, Path.enter]
        split at followed
        · next up =>
          rw [if_pos up]
          exact ih followed
        · next down =>
          rw [if_neg down]
          split at followed
          · contradiction
          · exact ih followed

theorem find?_of_read {base : List String} {path text : String}
    (read : tree.read base path = .ok text) :
    ∃ bytes, tree.find? (Path.place base path) = some (.file bytes) ∧
      String.fromUTF8? bytes = some text := by
  simp only [FileTree.read] at read
  by_cases nul : path.contains '\x00' = true
  · rw [if_pos nul] at read
    contradiction
  by_cases empty : path.isEmpty = true
  · rw [if_neg nul, if_pos empty] at read
    contradiction
  by_cases long : path.utf8ByteSize > pathLimit
  · rw [if_neg nul, if_neg empty, if_pos long] at read
    contradiction
  rw [if_neg nul, if_neg empty, if_neg long] at read
  cases followed : tree.follow (if Path.isAbsolute path then [] else base) (Path.parts path) with
  | error error =>
    rw [followed] at read
    contradiction
  | ok entry =>
    rw [followed] at read
    cases entry with
    | directory => contradiction
    | file bytes =>
      refine ⟨bytes, find?_of_follow followed, ?_⟩
      simp only [bind, Except.bind] at read
      cases decoded : String.fromUTF8? bytes with
      | none =>
        rw [decoded] at read
        contradiction
      | some found =>
        rw [decoded] at read
        cases read
        rfl

end FileTree

namespace Path

theorem isAbsolute_fileName (component : String) :
    isAbsolute (component ++ ".xsd") = isAbsolute component := by
  by_cases empty : component = ""
  · rw [empty]
    rfl
  · exact isAbsolute_append empty

theorem steps_fileName (component : String) :
    ∃ front last, steps (component ++ ".xsd") = front ++ [last] ∧ last ≠ ".." := by
  obtain ⟨front, last, split⟩ :=
    Text.parts_append_unmarked (by decide : '/' ∉ ".xsd".toList) component.toList
  have differs (other : String) (short : other.length < 4) :
      String.ofList (last ++ ".xsd".toList) ≠ other := by
    rintro rfl
    have ending : ".xsd".toList.length = 4 := rfl
    simp only [String.length_ofList, List.length_append, ending] at short
    omega
  have step : isStep (String.ofList (last ++ ".xsd".toList)) = true := by
    rw [isStep, Bool.and_eq_true, decide_eq_true_eq, decide_eq_true_eq]
    exact ⟨differs "" (by decide), differs "." (by decide)⟩
  refine ⟨(front.map String.ofList).filter isStep, _, ?_, differs ".." (by decide)⟩
  rw [steps, parts, String.toList_append, split, List.map_append, List.filter_append,
    List.map_singleton, List.filter_cons_of_pos step, List.filter_nil]

theorem exists_unused (used : List String) :
    ∃ name, name ∉ used ∧ isAbsolute name = false ∧ steps name = [name] := by
  let name (size : Nat) : String := String.ofList (List.replicate (size + 2) 'r')
  have distinct : Function.Injective name := by
    intro size other same
    simpa [name] using congrArg String.length same
  obtain ⟨_, ⟨size, rfl⟩, unused⟩ :=
    (Set.infinite_range_of_injective distinct).exists_notMem_finset used.toFinset
  have whole : parts (name size) = [name size] := by
    rw [parts, Text.parts_eq_splitOn, String.toList_ofList, List.splitOn_eq_singleton (by simp)]
    rfl
  have step : isStep (name size) = true := by
    simp [isStep, name, ← String.toList_inj, List.replicate_succ]
  refine ⟨name size, by simpa using unused, by simp [isAbsolute, name, List.replicate_succ], ?_⟩
  rw [steps, whole, List.filter_cons_of_pos step, List.filter_nil]

section Schema

variable {version component : String}

theorem schemaPath_of_relative (root : String) (version_relative : isAbsolute version = false)
    (component_relative : isAbsolute component = false) :
    isAbsolute (schemaPath root version component) = isAbsolute root ∧
      steps (schemaPath root version component) =
        steps root ++ steps version ++ steps (component ++ ".xsd") := by
  rw [← isAbsolute_fileName] at component_relative
  rw [schemaPath, isAbsolute_join component_relative, isAbsolute_join version_relative,
    steps_join component_relative, steps_join version_relative]
  exact ⟨rfl, rfl⟩

theorem place_schemaPath (version_relative : isAbsolute version = false)
    (component_relative : isAbsolute component = false) {base : List String} {root : String} :
    place base (schemaPath root version component) =
      (steps version ++ steps (component ++ ".xsd")).foldl enter (place base root) := by
  obtain ⟨start, path⟩ := schemaPath_of_relative root version_relative component_relative
  rw [place, start, path, List.append_assoc, List.foldl_append]
  rfl

theorem schemaPath_of_absolute_version (root : String) (absolute : isAbsolute version = true)
    (component_relative : isAbsolute component = false) :
    isAbsolute (schemaPath root version component) = true ∧
      steps (schemaPath root version component) =
        steps version ++ steps (component ++ ".xsd") := by
  rw [← isAbsolute_fileName] at component_relative
  rw [schemaPath, join_of_absolute absolute, isAbsolute_join component_relative,
    steps_join component_relative]
  exact ⟨absolute, rfl⟩

theorem schemaPath_of_absolute (root : String) (absolute : isAbsolute component = true) :
    schemaPath root version component = component ++ ".xsd" :=
  join_of_absolute ((isAbsolute_fileName component).trans absolute)

theorem read_of_fetched {read : Reader Id} {root text : String}
    (fetched : (fetchFromDirectory read root version component).run = .ok text) :
    read (schemaPath root version component) = .ok text := by
  simp only [fetchFromDirectory, Id.run_bind] at fetched
  cases held : read (schemaPath root version component) with
  | ok found =>
    rw [held] at fetched
    cases fetched
    rfl
  | error error =>
    rw [held] at fetched
    cases error <;> cases fetched

end Schema

/-- Wherever the schemas lie, the path leads to a place below their root. -/
def Confined (version component : String) : Prop :=
  ∀ root base, ∃ rest, rest ≠ [] ∧
    place base (schemaPath root version component) = place base root ++ rest

theorem confined_of_descends {version component : String}
    (version_relative : isAbsolute version = false)
    (component_relative : isAbsolute component = false)
    (descends : Descends (steps version ++ steps (component ++ ".xsd"))) :
    Confined version component := by
  intro root base
  obtain ⟨rest, reached, length⟩ := foldl_enter_of_descends (place base root) descends
  refine ⟨rest, ?_, ?_⟩
  · rintro rfl
    -- Before its last step the path is not above the root, and that step goes down.
    obtain ⟨front, last, file, name⟩ := steps_fileName component
    rw [file, ← List.append_assoc] at descends length
    have before := ((descends_concat last).mp descends).1 _ (List.prefix_refl _)
    simp only [count_up_concat name, List.length_nil, List.length_append,
      List.length_singleton] at before length
    omega
  · rw [place_schemaPath version_relative component_relative, reached]

theorem descends_of_confined {version component : String} (confined : Confined version component) :
    isAbsolute version = false ∧ isAbsolute component = false ∧
      Descends (steps version ++ steps (component ++ ".xsd")) := by
  -- Seen from a root of a name of its own, a path that does not keep to it has lost that name.
  obtain ⟨name, unused, relative, alone⟩ :=
    exists_unused (".." :: (steps version ++ steps (component ++ ".xsd")))
  obtain ⟨other, unused⟩ := List.ne_and_not_mem_of_not_mem_cons unused
  have home : place [] name = [name] := by simp [place, alone, enter, other]
  have visited : name ∈ place [] (schemaPath name version component) := by
    obtain ⟨rest, _, below⟩ := confined name []
    simp [below, home]
  have component_relative : isAbsolute component = false := by
    refine Bool.eq_false_iff.mpr fun absolute => ?_
    rw [schemaPath_of_absolute name absolute, place, isAbsolute_fileName, absolute,
      if_pos rfl] at visited
    exact not_mem_foldl_enter List.not_mem_nil
      (fun used => unused (List.mem_append_right _ used)) visited
  have version_relative : isAbsolute version = false := by
    refine Bool.eq_false_iff.mpr fun absolute => ?_
    obtain ⟨start, path⟩ :=
      schemaPath_of_absolute_version name absolute component_relative
    rw [place, start, if_pos rfl, path] at visited
    exact not_mem_foldl_enter List.not_mem_nil unused visited
  refine ⟨version_relative, component_relative, ?_⟩
  by_contra climbs
  rw [place_schemaPath version_relative component_relative, home] at visited
  exact not_mem_foldl_enter_of_climbs unused climbs visited

theorem schema_below_root (root version component : String) :
    (isAbsolute version = false → isAbsolute component = false →
      isAbsolute (schemaPath root version component) = isAbsolute root ∧
      steps (schemaPath root version component) =
        steps root ++ steps version ++ steps (component ++ ".xsd")) ∧
    (isAbsolute version = true → isAbsolute component = false →
      isAbsolute (schemaPath root version component) = true ∧
      steps (schemaPath root version component) =
        steps version ++ steps (component ++ ".xsd")) ∧
    (isAbsolute component = true → schemaPath root version component = component ++ ".xsd") ∧
    (Confined version component ↔
      isAbsolute version = false ∧ isAbsolute component = false ∧
        Descends (steps version ++ steps (component ++ ".xsd"))) ∧
    (Confined version component → ∀ (tree : FileTree) (base : List String) (text : String),
      (fetchFromDirectory (m := Id) (tree.read base) root version component).run = .ok text →
      ∃ rest bytes, rest ≠ [] ∧ tree.find? (place base root ++ rest) = some (.file bytes) ∧
        String.fromUTF8? bytes = some text) := by
  refine ⟨schemaPath_of_relative root, schemaPath_of_absolute_version root,
    schemaPath_of_absolute root, ⟨descends_of_confined, fun ⟨version, component, descends⟩ =>
      confined_of_descends version component descends⟩, fun confined tree base text fetched => ?_⟩
  obtain ⟨bytes, found, decoded⟩ := FileTree.find?_of_read (read_of_fetched fetched)
  obtain ⟨rest, strict, below⟩ := confined root base
  rw [below] at found
  exact ⟨rest, bytes, strict, found, decoded⟩

theorem version_leaves_root :
    (¬ ∀ root version component, steps (schemaPath root version component) =
      steps root ++ steps version ++ steps (component ++ ".xsd")) ∧
    (¬ ∀ root version component base, ∃ rest,
      place base (schemaPath root version component) = place base root ++ rest) := by
  constructor
  · intro follows
    have path := follows "schemas" "/srv" "add-header"
    revert path
    decide
  · intro below
    obtain ⟨rest, reached⟩ := below "schemas" ".." "outside" []
    have outside : place [] (schemaPath "schemas" ".." "outside") = ["outside.xsd"] := by decide
    have root : place [] "schemas" = ["schemas"] := by decide
    rw [outside, root] at reached
    simp at reached

end Path

end SchemaForms
