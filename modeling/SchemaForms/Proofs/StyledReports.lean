import SchemaForms.Run

set_option autoImplicit false

namespace SchemaForms

namespace Style

def Unescaped (text : String) : Prop := '\x1b' ∉ text.toList

instance (text : String) : Decidable (Unescaped text) :=
  inferInstanceAs (Decidable ('\x1b' ∉ text.toList))

def isParameter (c : Char) : Bool := c.isDigit || c = ';'

/-- The rest of a text that starts with a style sequence: the escape character, a bracket, numbers
between semicolons, and `m`. -/
def afterSequence? : List Char → Option (List Char)
  | '\x1b' :: '[' :: rest =>
    match rest.dropWhile isParameter with
    | 'm' :: later => some later
    | _ => none
  | _ => none

theorem length_lt_of_afterSequence? {text later : List Char}
    (found : afterSequence? text = some later) : later.length < text.length := by
  unfold afterSequence? at found
  split at found
  · next rest =>
    have shorter := (List.dropWhile_sublist isParameter (l := rest)).length_le
    split at found
    · next ends =>
      cases found
      rw [ends] at shorter
      simp only [List.length_cons] at shorter ⊢
      omega
    · contradiction
  · contradiction

def deleteSequences : List Char → List Char
  | [] => []
  | c :: rest =>
    match _ : afterSequence? (c :: rest) with
    | some later => deleteSequences later
    | none => c :: deleteSequences rest
termination_by text => text.length
decreasing_by
  · exact length_lt_of_afterSequence? ‹_›
  · simp

def strip (text : String) : String := String.ofList (deleteSequences text.toList)

/-- Of `styled`, wherever it stands, `plain` is left when the style sequences are deleted. -/
def Shows (styled plain : String) : Prop :=
  ∀ rest, deleteSequences (styled.toList ++ rest) = plain.toList ++ deleteSequences rest

theorem unescaped_append_iff {first rest : String} :
    Unescaped (first ++ rest) ↔ Unescaped first ∧ Unescaped rest := by
  simp only [Unescaped, String.toList_append, List.mem_append, not_or]

theorem afterSequence?_of_ne {c : Char} (other : c ≠ '\x1b') (rest : List Char) :
    afterSequence? (c :: rest) = none := by
  unfold afterSequence?
  split
  · next starts => exact absurd (List.cons.inj starts).1 other
  · rfl

theorem deleteSequences_of_ne {c : Char} (other : c ≠ '\x1b') (rest : List Char) :
    deleteSequences (c :: rest) = c :: deleteSequences rest := by
  rw [deleteSequences]
  split
  · next found =>
    rw [afterSequence?_of_ne other] at found
    contradiction
  · rfl

theorem deleteSequences_of_afterSequence? {text later : List Char}
    (found : afterSequence? text = some later) : deleteSequences text = deleteSequences later := by
  cases text with
  | nil => contradiction
  | cons c rest =>
    rw [deleteSequences]
    split
    · next same =>
      cases found.symm.trans same
      rfl
    · next none =>
      cases found.symm.trans none

theorem deleteSequences_append {text : List Char} (plain : '\x1b' ∉ text) (rest : List Char) :
    deleteSequences (text ++ rest) = text ++ deleteSequences rest := by
  induction text with
  | nil => rfl
  | cons c more ih =>
    obtain ⟨other, plain⟩ := List.ne_and_not_mem_of_not_mem_cons plain
    rw [List.cons_append, deleteSequences_of_ne (Ne.symm other), ih plain, List.cons_append]

theorem deleteSequences_start (style : Style) (rest : List Char) :
    deleteSequences (style.start ++ rest) = deleteSequences rest :=
  deleteSequences_of_afterSequence? (by cases style <;> rfl)

theorem deleteSequences_reset (rest : List Char) :
    deleteSequences (reset ++ rest) = deleteSequences rest :=
  deleteSequences_of_afterSequence? rfl

theorem resume_of_unescaped (style : Style) {text : List Char} (plain : '\x1b' ∉ text) :
    style.resume text = text := by
  induction text with
  | nil => rfl
  | cons c rest ih =>
    obtain ⟨other, plain⟩ := List.ne_and_not_mem_of_not_mem_cons plain
    rw [resume, ih plain]
    exact fun _ escape => absurd escape.symm other

namespace Shows

variable {styled plain more rest : String}

theorem append (one : Shows styled plain) (other : Shows more rest) :
    Shows (styled ++ more) (plain ++ rest) := by
  intro ending
  rw [String.toList_append, String.toList_append, List.append_assoc, one, other, List.append_assoc]

theorem strip_eq (shown : Shows styled plain) : strip styled = plain := by
  have whole := shown []
  rw [List.append_nil] at whole
  rw [strip, whole, deleteSequences, List.append_nil, String.ofList_toList]

theorem itself {text : String} (plain : Unescaped text) : Shows text text :=
  deleteSequences_append plain

theorem paint (style : Style) (inked : Bool) {text : String} (plain : Unescaped text) :
    Shows (style.paint inked text) text := by
  cases inked with
  | false => exact itself plain
  | true =>
    intro rest
    rw [Style.paint, if_pos rfl, String.toList_ofList, resume_of_unescaped style plain,
      List.append_assoc, List.append_assoc, deleteSequences_start, deleteSequences_append plain,
      deleteSequences_reset]

theorem join {α : Type} {parts : List α} {styled plain : α → String}
    (each : ∀ part ∈ parts, Shows (styled part) (plain part)) :
    Shows (String.join (parts.map styled)) (String.join (parts.map plain)) := by
  induction parts with
  | nil => exact fun _ => rfl
  | cons part rest ih =>
    obtain ⟨here, later⟩ := List.forall_mem_cons.mp each
    simpa using here.append (ih later)

end Shows

end Style

def Cause.subject : Cause → String
  | .undefinedType reference => reference
  | .unexpectedChild name | .nonElementInGroup name | .unhandledComplexChild name
  | .recursiveType name => name
  | .missingAttribute key => key

namespace Report

open Style

def line (diagnostic : Diagnostic) : String :=
  "warning [" ++ diagnostic.cause.label ++ "] " ++ diagnostic.cause.message ++ "\n  at " ++
    diagnostic.path

def tally : Nat → String
  | 0 => "No diagnostics"
  | 1 => "1 diagnostic"
  | count => toString count ++ " diagnostics"

def plain (diagnostics : List Diagnostic) : String :=
  String.join (diagnostics.map fun one => line one ++ "\n") ++ tally diagnostics.length ++ "\n"

theorem unescaped_label (cause : Cause) : Unescaped cause.label := by
  cases cause <;> (rw [Cause.label]; decide)

theorem unescaped_message_iff (cause : Cause) :
    Unescaped cause.message ↔ Unescaped cause.subject := by
  have quoted {before after : String} (name : String) (one : Unescaped before)
      (other : Unescaped after) : Unescaped (before ++ name ++ after) ↔ Unescaped name := by
    simp only [unescaped_append_iff, one, other, true_and, and_true]
  cases cause <;> exact quoted _ (by decide) (by decide)

theorem diagnostic_plain (one : Diagnostic) : diagnostic false one = line one := by
  have opening : "warning [" = "warning" ++ " " ++ "[" := by decide
  have closing : "] " = "]" ++ " " := by decide
  have place : "\n  at " = "\n  " ++ "at" ++ " " := by decide
  rw [diagnostic, line, opening, closing, place]
  simp only [paint, Bool.false_eq_true, if_false, String.append_assoc]

theorem shows_line (inked : Bool) {one : Diagnostic} (path : Unescaped one.path)
    (message : Unescaped one.cause.message) : Shows (diagnostic inked one) (line one) := by
  have gap : Shows " " " " := .itself (by decide)
  have turn : Shows "\n  " "\n  " := .itself (by decide)
  have warning : Shows (boldYellow.paint inked "warning") "warning" := .paint _ _ (by decide)
  have place : Shows (dimmed.paint inked "at") "at" := .paint _ _ (by decide)
  have label : Unescaped ("[" ++ one.cause.label ++ "]") := by
    simp only [unescaped_append_iff, unescaped_label]
    decide
  have first := (((warning.append gap).append (.paint .dimmed inked label)).append gap).append
    (.itself message)
  have whole := (((first.append turn).append place).append gap).append (.paint .grey inked path)
  rw [← diagnostic_plain]
  exact whole

theorem shows_tally (inked : Bool) (count : Nat) : Shows (summary inked count) (tally count) := by
  have digits (count : Nat) : Unescaped (toString count) := by
    intro member
    rw [Nat.toString_eq_ofList_toDigits, String.toList_ofList] at member
    have digit := Nat.isDigit_of_mem_toDigits (by decide) (by decide) member
    contradiction
  match count with
  | 0 => exact .paint .green inked (by decide)
  | 1 =>
    have plain : Unescaped "1 diagnostic" := by decide
    exact .itself plain
  | count + 2 => exact .itself (unescaped_append_iff.mpr ⟨digits _, by decide⟩)

theorem summary_plain (count : Nat) : summary false count = tally count :=
  match count with
  | 0 | 1 | _ + 2 => rfl

theorem render_plain (diagnostics : List Diagnostic) :
    render false diagnostics = plain diagnostics := by
  simp only [render, plain, diagnostic_plain, summary_plain]

theorem shows_plain (inked : Bool) {diagnostics : List Diagnostic}
    (unescaped : ∀ one ∈ diagnostics, Unescaped one.path ∧ Unescaped one.cause.subject) :
    Shows (render inked diagnostics) (plain diagnostics) := by
  have turn : Shows "\n" "\n" := .itself (by decide)
  have each : ∀ one ∈ diagnostics, Shows (diagnostic inked one ++ "\n") (line one ++ "\n") := by
    intro one member
    obtain ⟨path, subject⟩ := unescaped one member
    exact (shows_line inked path ((unescaped_message_iff _).mpr subject)).append turn
  exact ((Shows.join each).append (shows_tally inked _)).append turn

theorem styles_add_sequences_only :
    (∀ one : Diagnostic, diagnostic false one = line one ∧
      (Unescaped one.path → Unescaped one.cause.message →
        strip (diagnostic true one) = line one)) ∧
    (∀ count, summary false count = tally count ∧ strip (summary true count) = tally count) ∧
    ∀ (compilation : Compilation) (output : OutputOptions) (terminal styles : Bool),
      let printed (color : String) :=
        ({ output with color } : OutputOptions).print terminal styles compilation
      (printed "never").stderr =
        (if output.diagnostics then plain compilation.diagnostics else "") ∧
      ∀ color, (printed color).stdout = (printed "never").stdout ∧
        (styles = false → printed color = printed "never") ∧
        ((∀ one ∈ compilation.diagnostics,
          Unescaped one.path ∧ Unescaped one.cause.subject) →
          strip (printed color).stderr = (printed "never").stderr) := by
  refine ⟨fun one => ⟨diagnostic_plain one, fun path message =>
    (shows_line true path message).strip_eq⟩, fun count => ⟨summary_plain count,
      (shows_tally true count).strip_eq⟩, fun compilation output terminal styles => ?_⟩
  intro printed
  have stderr (color : String) : (printed color).stderr =
      if output.diagnostics then
        render ((ColorMode.ofText color).isColored terminal && styles) compilation.diagnostics
      else "" := rfl
  have never : (printed "never").stderr =
      if output.diagnostics then plain compilation.diagnostics else "" := by
    have named : ColorMode.ofText "never" = .never := by decide +kernel
    rw [stderr, named, ColorMode.isColored, Bool.false_and, render_plain]
  refine ⟨never, fun color => ⟨rfl, fun unstyled => ?_, fun unescaped => ?_⟩⟩
  · have same : (printed color).stderr = (printed "never").stderr := by
      rw [never, stderr, unstyled, Bool.and_false, render_plain]
    exact congrArg (Printed.mk (printed color).stdout) same
  · rw [never, stderr]
    cases output.diagnostics with
    | false => exact (Shows.itself (by decide) : Shows "" "").strip_eq
    | true => exact (shows_plain _ unescaped).strip_eq

end Report

namespace Bracketed

def diagnostic : Diagnostic :=
  { path := "/schema/element[@name='[0m']", cause := .undefinedType "[31m" }

def compilation : Compilation :=
  { field := {}, diagnostics := [diagnostic], targetNamespace := none }

def output : OutputOptions := { compact := true, diagnostics := true, color := "always" }

theorem colors_deleted :
    Style.Unescaped diagnostic.path ∧ Style.Unescaped diagnostic.cause.message ∧
      ¬ Style.Unescaped (Report.diagnostic true diagnostic) ∧
      Style.strip (Report.diagnostic true diagnostic) =
        "warning [undefined-type] type '[31m' is not defined\n  at /schema/element[@name='[0m']" ∧
      Style.strip (output.print false true compilation).stderr =
        "warning [undefined-type] type '[31m' is not defined\n" ++
          "  at /schema/element[@name='[0m']\n1 diagnostic\n" := by
  have path : Style.Unescaped diagnostic.path := by decide
  have message : Style.Unescaped diagnostic.cause.message := by decide
  have names : ∀ one ∈ compilation.diagnostics,
      Style.Unescaped one.path ∧ Style.Unescaped one.cause.subject := by decide
  obtain ⟨lines, _, printed⟩ := Report.styles_add_sequences_only
  obtain ⟨never, colors⟩ := printed compilation output false true
  have same := ((colors "always").2.2 names).trans never
  exact ⟨path, message, by decide +kernel, ((lines diagnostic).2 path message).trans (by decide),
    same.trans (by decide)⟩

end Bracketed

end SchemaForms
