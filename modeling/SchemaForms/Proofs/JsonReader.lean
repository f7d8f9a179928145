import SchemaForms.Proofs.JsonSpelling
import SchemaForms.Proofs.ObjectKeys

set_option autoImplicit false

namespace SchemaForms

namespace Json

inductive Place
  | between
  | inside
  -- Behind a backslash.
  | escaped
  | unit (high : Option Nat) (digits : List Char)
  -- Behind a unit that has to be completed, without and with the next backslash.
  | halved (high : Nat)
  | halvedEscaped (high : Nat)
deriving DecidableEq, Repr

structure Lexer where
  read : List Token := []
  value : List Char := []
  place : Place := .between

def Mark.ofChar? : Char → Option Mark
  | '[' => some .beginArray
  | ']' => some .endArray
  | '\x7b' => some .beginObject
  | '\x7d' => some .endObject
  | ':' => some .colon
  | ',' => some .comma
  | _ => none

namespace Lexer

def add (lexer : Lexer) (c : Char) : Lexer :=
  { lexer with value := lexer.value ++ [c], place := .inside }

def finishUnit (lexer : Lexer) (unit : Nat) : Option Nat → Option Lexer
  | none =>
    if isHigh unit then some { lexer with place := .halved unit }
    else if isLow unit then none
    else some (lexer.add (Char.ofNat unit))
  | some high => if isLow unit then some (lexer.add (ofPair high unit)) else none

def next (lexer : Lexer) (c : Char) : Option Lexer :=
  match lexer.place with
  | .between =>
    if isBlank c then some lexer
    else if c = '"' then some { lexer with place := .inside }
    else (Mark.ofChar? c).map fun mark => { lexer with read := lexer.read ++ [.mark mark] }
  | .inside =>
    if c = '"' then some { read := lexer.read ++ [.text (String.ofList lexer.value)] }
    else if c = '\\' then some { lexer with place := .escaped }
    else if c.toNat < 32 then none
    else some (lexer.add c)
  | .escaped =>
    if c = 'u' then some { lexer with place := .unit none [] }
    else (ofLetter? c).map lexer.add
  | .unit high digits =>
    if digits.length < 3 then some { lexer with place := .unit high (digits ++ [c]) }
    else (unit? (digits ++ [c])).bind fun unit => lexer.finishUnit unit high
  | .halved high =>
    if c = '\\' then some { lexer with place := .halvedEscaped high } else none
  | .halvedEscaped high =>
    if c = 'u' then some { lexer with place := .unit (some high) [] } else none

def run (lexer : Lexer) (chars : List Char) : Option Lexer := chars.foldlM next lexer

end Lexer

def tokens? (chars : List Char) : Option (List Token) :=
  match ({} : Lexer).run chars with
  | some ⟨read, _, .between⟩ => some read
  | _ => none

/-- An array or object that is not closed yet, with what stands before the value being read. -/
inductive Frame
  | array (values : List Json)
  | entry (entries : List (String × Json)) (key : String)

inductive Reader
  | expectValue (outer : List Frame)
  -- Or the end of the array.
  | expectFirst (outer : List Frame)
  -- A key or the end of the object.
  | expectMember (outer : List Frame)
  | expectKey (entries : List (String × Json)) (outer : List Frame)
  | expectColon (entries : List (String × Json)) (key : String) (outer : List Frame)
  | finished (value : Json) (outer : List Frame)

namespace Reader

def begin (outer : List Frame) : Token → Option Reader
  | .text value => some (.finished (.text value) outer)
  | .mark .beginArray => some (.expectFirst outer)
  | .mark .beginObject => some (.expectMember outer)
  | .mark _ => none

def next : Reader → Token → Option Reader
  | .expectValue outer, token => begin outer token
  | .expectFirst outer, token =>
    if token = .mark .endArray then some (.finished (.array []) outer)
    else begin (.array [] :: outer) token
  | .expectMember outer, .mark .endObject => some (.finished (.object []) outer)
  | .expectMember outer, .text key => some (.expectColon [] key outer)
  | .expectKey entries outer, .text key => some (.expectColon entries key outer)
  | .expectColon entries key outer, .mark .colon =>
    some (.expectValue (.entry entries key :: outer))
  | .finished value (.array values :: outer), .mark .comma =>
    some (.expectValue (.array (values ++ [value]) :: outer))
  | .finished value (.array values :: outer), .mark .endArray =>
    some (.finished (.array (values ++ [value])) outer)
  | .finished value (.entry entries key :: outer), .mark .comma =>
    some (.expectKey (entries ++ [(key, value)]) outer)
  | .finished value (.entry entries key :: outer), .mark .endObject =>
    some (.finished (.object (entries ++ [(key, value)])) outer)
  | _, _ => none

def run (reader : Reader) (tokens : List Token) : Option Reader := tokens.foldlM next reader

end Reader

def ofTokens? (tokens : List Token) : Option Json :=
  match (Reader.expectValue []).run tokens with
  | some (.finished value []) => some value
  | _ => none

def ofText? (text : String) : Option Json := (tokens? text.toList).bind ofTokens?

namespace Lexer

theorem run_append (lexer : Lexer) (first rest : List Char) :
    lexer.run (first ++ rest) = (lexer.run first).bind (·.run rest) :=
  List.foldlM_append

theorem run_cons (lexer : Lexer) (c : Char) (rest : List Char) :
    lexer.run (c :: rest) = (lexer.next c).bind (·.run rest) :=
  List.foldlM_cons

theorem run_nil (lexer : Lexer) : lexer.run [] = some lexer := rfl

section Complete

variable (read : List Token) (value : List Char)

theorem run_digits {digits : List Char} {unit : Nat} (spelled : unit? digits = some unit)
    (high : Option Nat) :
    run { read, value, place := .unit high [] } digits =
      finishUnit { read, value } unit high := by
  match digits, spelled with
  | [a, b, c, d], spelled =>
    simp only [run_cons, run_nil, next, spelled, List.nil_append, List.cons_append, List.length_nil,
      List.length_cons, Option.bind_some, Nat.reduceAdd, Nat.reduceLT, if_true, if_false]
    cases high <;> simp [finishUnit, add]

theorem run_char {c : Char} {spelling : List Char} (spelled : CharSpelled c spelling) :
    run { read, value, place := .inside } spelling =
      some { read, value := value ++ [c], place := .inside } := by
  cases spelled with
  | plain _ printed quote backslash =>
    simp [run_cons, run_nil, next, quote, backslash, Nat.not_lt.mpr printed, add]
  | @letter _ letter stands =>
    have other : letter ≠ 'u' := by
      rintro rfl
      simp [ofLetter?] at stands
    simp [run_cons, run_nil, next, other, stands, add]
  | unit spelled high low =>
    simp [run_cons, next, run_digits _ _ spelled, finishUnit, high, low, add]
  | pair first second high low =>
    simp [run_cons, run_append, next, run_digits _ _ first, run_digits _ _ second, finishUnit, high,
      low, add]

theorem run_text {text inner : List Char} (spelled : TextSpelled text inner) :
    run { read, value, place := .inside } inner =
      some { read, value := value ++ text, place := .inside } := by
  induction spelled generalizing value with
  | nil => rw [run_nil, List.append_nil]
  | cons first _ ih =>
    rw [run_append, run_char _ _ first, Option.bind_some, ih, List.append_assoc]
    rfl

end Complete

theorem ofChar?_char (mark : Mark) : Mark.ofChar? mark.char = some mark := by
  cases mark <;> rfl

theorem run_spelled {tokens : List Token} {chars : List Char} (spelled : Spelled tokens chars)
    (read : List Token) : run { read } chars = some { read := read ++ tokens } := by
  induction spelled generalizing read with
  | nil => simp [run_nil]
  | blank blank _ ih => simp [run_cons, next, blank, ih]
  | mark mark _ ih =>
    have seen : isBlank mark.char = false ∧ mark.char ≠ '"' := by cases mark <;> decide
    simp [run_cons, next, seen, ofChar?_char, ih]
  | text spelled _ ih =>
    have quote : isBlank '"' = false := by decide
    simp [run_cons, run_append, next, quote, run_text _ _ spelled, ih]

end Lexer

def Place.Begins : Place → List Char → Prop
  | .between, _ => False
  | .inside, chars => chars = []
  | .escaped, chars => chars = ['\\']
  | .unit none digits, chars => digits.length < 4 ∧ chars = '\\' :: 'u' :: digits
  | .unit (some high) digits, chars =>
    digits.length < 4 ∧ isHigh high = true ∧ ∃ upper, unit? upper = some high ∧
      chars = '\\' :: 'u' :: (upper ++ '\\' :: 'u' :: digits)
  | .halved high, chars =>
    isHigh high = true ∧ ∃ upper, unit? upper = some high ∧ chars = '\\' :: 'u' :: upper
  | .halvedEscaped high, chars =>
    isHigh high = true ∧ ∃ upper, unit? upper = some high ∧
      chars = '\\' :: 'u' :: (upper ++ ['\\'])

namespace Lexer

/-- The characters that a reader comes to its state by. -/
def Reads (lexer : Lexer) (chars : List Char) : Prop :=
  match lexer.place with
  | .between => lexer.value = [] ∧ Spelled lexer.read chars
  | place => ∃ front inner begun, chars = front ++ '"' :: (inner ++ begun) ∧
      Spelled lexer.read front ∧ TextSpelled lexer.value inner ∧ place.Begins begun

section Sound

variable {lexer later : Lexer} {chars front inner : List Char} {c : Char}

theorem mark_of_ofChar? {mark : Mark} (found : Mark.ofChar? c = some mark) : c = mark.char := by
  unfold Mark.ofChar? at found
  split at found <;> cases found <;> rfl

theorem reads_add (before : Spelled lexer.read front) (known : TextSpelled lexer.value inner)
    {spelling : List Char} (spelled : CharSpelled c spelling) :
    (lexer.add c).Reads (front ++ '"' :: (inner ++ spelling)) := by
  have more := known.append (.cons spelled .nil)
  rw [List.append_nil] at more
  exact ⟨front, inner ++ spelling, [], by rw [List.append_nil], before, more, rfl⟩

theorem reads_unit (before : Spelled lexer.read front) (known : TextSpelled lexer.value inner)
    {digits : List Char} {unit : Nat} (spelled : unit? digits = some unit)
    (finished : lexer.finishUnit unit none = some later) :
    later.Reads (front ++ '"' :: (inner ++ '\\' :: 'u' :: digits)) := by
  simp only [finishUnit] at finished
  split_ifs at finished with high low
  · cases finished
    exact ⟨front, inner, _, rfl, before, known, high, digits, spelled, rfl⟩
  · cases finished
    exact reads_add before known (.unit spelled (Bool.eq_false_iff.mpr high)
      (Bool.eq_false_iff.mpr low))

theorem reads_pair (before : Spelled lexer.read front) (known : TextSpelled lexer.value inner)
    {upper lower : List Char} {high low : Nat} (first : unit? upper = some high)
    (second : unit? lower = some low) (surrogate : isHigh high = true)
    (finished : lexer.finishUnit low (some high) = some later) :
    later.Reads (front ++ '"' :: (inner ++ '\\' :: 'u' :: (upper ++ '\\' :: 'u' :: lower))) := by
  simp only [finishUnit] at finished
  split_ifs at finished with isLow
  cases finished
  exact reads_add before known (.pair first second surrogate isLow)

theorem Reads.next (reads : lexer.Reads chars) (stepped : lexer.next c = some later) :
    later.Reads (chars ++ [c]) := by
  obtain ⟨read, value, place⟩ := lexer
  cases place with
  | between =>
    obtain ⟨rfl, before⟩ := reads
    simp only [Lexer.next] at stepped
    split_ifs at stepped with blank quote
    · cases stepped
      have more := before.append (Spelled.of_blanks (List.forall_mem_singleton.mpr blank))
      rw [List.append_nil] at more
      exact ⟨rfl, more⟩
    · cases stepped
      exact ⟨chars, [], [], by rw [quote]; rfl, before, .nil, rfl⟩
    · obtain ⟨mark, found, rfl⟩ := Option.map_eq_some_iff.mp stepped
      rw [mark_of_ofChar? found]
      exact ⟨rfl, before.append (.of_mark mark)⟩
  | inside =>
    obtain ⟨front, inner, _, rfl, before, known, rfl⟩ := reads
    simp only [Lexer.next] at stepped
    split_ifs at stepped with quote backslash control
    · cases stepped
      have more := before.append (.text known .nil)
      exact ⟨rfl, by simpa [quote] using more⟩
    · cases stepped
      exact ⟨front, inner, _, by simp [backslash], before, known, rfl⟩
    · cases stepped
      have more := reads_add before known (.plain c (Nat.not_lt.mp control) quote backslash)
      simpa using more
  | escaped =>
    obtain ⟨front, inner, _, rfl, before, known, rfl⟩ := reads
    simp only [Lexer.next] at stepped
    split_ifs at stepped with four
    · cases stepped
      exact ⟨front, inner, _, by simp [four], before, known, by simp, rfl⟩
    · obtain ⟨d, stands, rfl⟩ := Option.map_eq_some_iff.mp stepped
      have more := reads_add before known (.letter stands)
      simpa using more
  | unit high digits =>
    simp only [Lexer.next] at stepped
    cases high with
    | none =>
      obtain ⟨front, inner, _, rfl, before, known, short, rfl⟩ := reads
      split_ifs at stepped with fewer
      · cases stepped
        exact ⟨front, inner, '\\' :: 'u' :: (digits ++ [c]), by simp, before, known,
          by simp; omega, rfl⟩
      · obtain ⟨unit, spelled, finished⟩ := Option.bind_eq_some_iff.mp stepped
        simpa using reads_unit before known spelled finished
    | some high =>
      obtain ⟨front, inner, _, rfl, before, known, short, surrogate, upper, first, rfl⟩ := reads
      split_ifs at stepped with fewer
      · cases stepped
        exact ⟨front, inner, '\\' :: 'u' :: (upper ++ '\\' :: 'u' :: (digits ++ [c])), by simp,
          before, known, by simp; omega, surrogate, upper, first, rfl⟩
      · obtain ⟨low, second, finished⟩ := Option.bind_eq_some_iff.mp stepped
        simpa using reads_pair before known first second surrogate finished
  | halved high =>
    obtain ⟨front, inner, _, rfl, before, known, surrogate, upper, spelled, rfl⟩ := reads
    simp only [Lexer.next] at stepped
    split_ifs at stepped with backslash
    cases stepped
    exact ⟨front, inner, _, by simp [backslash], before, known, surrogate, upper, spelled, rfl⟩
  | halvedEscaped high =>
    obtain ⟨front, inner, _, rfl, before, known, surrogate, upper, spelled, rfl⟩ := reads
    simp only [Lexer.next] at stepped
    split_ifs at stepped with four
    cases stepped
    exact ⟨front, inner, '\\' :: 'u' :: (upper ++ ['\\', 'u']), by simp [four], before, known,
      by simp, surrogate, upper, spelled, rfl⟩

theorem Reads.run {rest : List Char} (reads : lexer.Reads chars)
    (read : lexer.run rest = some later) : later.Reads (chars ++ rest) := by
  induction rest generalizing lexer chars with
  | nil =>
    cases read
    simpa using reads
  | cons c rest ih =>
    rw [run_cons] at read
    obtain ⟨middle, stepped, read⟩ := Option.bind_eq_some_iff.mp read
    simpa using ih (reads.next stepped) read

end Sound

end Lexer

theorem tokens?_eq_some_iff {chars : List Char} {tokens : List Token} :
    tokens? chars = some tokens ↔ Spelled tokens chars := by
  constructor
  · intro found
    unfold tokens? at found
    split at found
    · next read value ended =>
      cases found
      have begun : ({} : Lexer).Reads [] := ⟨rfl, .nil⟩
      exact (begun.run ended).2
    · contradiction
  · intro spelled
    rw [tokens?, Lexer.run_spelled spelled []]
    rfl

theorem valuesTokens_append (values : List Json) (last : Json) :
    valuesTokens (values ++ [last]) =
      values.flatMap (fun value => value.tokens ++ [.mark .comma]) ++ last.tokens := by
  induction values with
  | nil => simp [valuesTokens]
  | cons value rest ih => simp [valuesTokens, ih]

theorem entriesTokens_append (entries : List (String × Json)) (key : String) (last : Json) :
    entriesTokens (entries ++ [(key, last)]) =
      entries.flatMap (fun entry =>
        .text entry.1 :: .mark .colon :: (entry.2.tokens ++ [.mark .comma])) ++
      .text key :: .mark .colon :: last.tokens := by
  induction entries with
  | nil => simp [entriesTokens]
  | cons entry rest ih => simp [entriesTokens, ih]

namespace Frame

def entriesBefore (entries : List (String × Json)) : List Token :=
  .mark .beginObject :: entries.flatMap fun entry =>
    .text entry.1 :: .mark .colon :: (entry.2.tokens ++ [.mark .comma])

def tokens : Frame → List Token
  | .array values =>
    .mark .beginArray :: values.flatMap fun value => value.tokens ++ [.mark .comma]
  | .entry entries key => entriesBefore entries ++ [.text key, .mark .colon]

def leading : List Frame → List Token
  | [] => []
  | frame :: outer => leading outer ++ frame.tokens

end Frame

namespace Reader

def tokens : Reader → List Token
  | .expectValue outer => Frame.leading outer
  | .expectFirst outer => Frame.leading outer ++ [.mark .beginArray]
  | .expectMember outer => Frame.leading outer ++ [.mark .beginObject]
  | .expectKey entries outer => Frame.leading outer ++ Frame.entriesBefore entries
  | .expectColon entries key outer =>
    Frame.leading outer ++ (Frame.entriesBefore entries ++ [.text key])
  | .finished value outer => Frame.leading outer ++ value.tokens

theorem tokens_begin {outer : List Frame} {token : Token} {later : Reader}
    (begun : begin outer token = some later) : later.tokens = Frame.leading outer ++ [token] := by
  cases token with
  | text value =>
    cases begun
    simp [tokens, Json.tokens]
  | mark mark => cases mark <;> cases begun <;> rfl

theorem tokens_next {reader later : Reader} {token : Token}
    (stepped : reader.next token = some later) : later.tokens = reader.tokens ++ [token] := by
  unfold next at stepped
  split at stepped
  · exact tokens_begin stepped
  · split_ifs at stepped with closed
    · cases stepped
      simp [tokens, Json.tokens, valuesTokens, closed]
    · simpa [tokens, Frame.leading, Frame.tokens] using tokens_begin stepped
  all_goals cases stepped
  all_goals simp [tokens, Json.tokens, entriesTokens, valuesTokens_append, entriesTokens_append,
    Frame.leading, Frame.tokens, Frame.entriesBefore]

theorem run_append (reader : Reader) (first rest : List Token) :
    reader.run (first ++ rest) = (reader.run first).bind (·.run rest) :=
  List.foldlM_append

theorem run_cons (reader : Reader) (token : Token) (rest : List Token) :
    reader.run (token :: rest) = (reader.next token).bind (·.run rest) :=
  List.foldlM_cons

theorem tokens_run {reader later : Reader} {rest : List Token}
    (read : reader.run rest = some later) : later.tokens = reader.tokens ++ rest := by
  induction rest generalizing reader with
  | nil =>
    cases read
    rw [List.append_nil]
  | cons token rest ih =>
    rw [run_cons] at read
    obtain ⟨middle, stepped, read⟩ := Option.bind_eq_some_iff.mp read
    rw [ih read, tokens_next stepped, List.append_assoc]
    rfl

theorem run_expectFirst (value : Json) (outer : List Frame) :
    (expectFirst outer).run value.tokens = (expectValue (.array [] :: outer)).run value.tokens := by
  cases value <;> rfl

mutual

theorem run_value : (value : Json) → (outer : List Frame) →
    (expectValue outer).run value.tokens = some (.finished value outer)
  | .text _, _ => rfl
  | .array [], _ => rfl
  | .array (value :: rest), outer => by
    have read := run_values (value :: rest) (by simp) [] outer
    simp only [valuesTokens, List.append_assoc, run_append] at read
    simp only [Json.tokens, run_cons, next, begin, valuesTokens, List.append_assoc, run_append,
      Option.bind_some, run_expectFirst]
    exact read
  | .object [], _ => rfl
  -- The first key is read alike behind a bracket and behind a comma.
  | .object ((key, value) :: rest), outer => run_entries ((key, value) :: rest) (by simp) [] outer

theorem run_values : (values : List Json) → values ≠ [] → (before : List Json) →
    (outer : List Frame) →
    (expectValue (.array before :: outer)).run (valuesTokens values ++ [.mark .endArray]) =
      some (.finished (.array (before ++ values)) outer)
  | [], nonempty, _, _ => absurd rfl nonempty
  | value :: rest, _, before, outer => by
    have first := run_value value (.array before :: outer)
    have later := run_values rest
    rw [valuesTokens, List.append_assoc, run_append, first, Option.bind_some]
    cases rest with
    | nil => rfl
    | cons other more =>
      have read := later (by simp) (before ++ [value]) outer
      simpa [run_cons, next] using read

theorem run_entries : (entries : List (String × Json)) → entries ≠ [] →
    (before : List (String × Json)) → (outer : List Frame) →
    (expectKey before outer).run (entriesTokens entries ++ [.mark .endObject]) =
      some (.finished (.object (before ++ entries)) outer)
  | [], nonempty, _, _ => absurd rfl nonempty
  | (key, value) :: rest, _, before, outer => by
    have first := run_value value (.entry before key :: outer)
    have later := run_entries rest
    rw [entriesTokens]
    change (expectValue (.entry before key :: outer)).run (value.tokens ++ _ ++ _) = _
    rw [List.append_assoc, run_append, first, Option.bind_some]
    cases rest with
    | nil => rfl
    | cons other more =>
      have read := later (by simp) (before ++ [(key, value)]) outer
      simpa [run_cons, next] using read

end

end Reader

theorem ofTokens?_eq_some_iff {tokens : List Token} {value : Json} :
    ofTokens? tokens = some value ↔ tokens = value.tokens := by
  constructor
  · intro found
    unfold ofTokens? at found
    split at found
    · next ended =>
      cases found
      exact (Reader.tokens_run ended).symm
    · contradiction
  · rintro rfl
    rw [ofTokens?, Reader.run_value]

theorem ofText?_eq_some_iff {text : String} {value : Json} :
    ofText? text = some value ↔ value.Spells text := by
  simp only [ofText?, Option.bind_eq_some_iff, tokens?_eq_some_iff, ofTokens?_eq_some_iff,
    exists_eq_right, Spells]

example : ofText? "[ \"\\ud83d\\ude00\\n\", [] ]" = some (.array [.text "😀\n", .array []]) := by rfl

end Json

theorem Field.texts_spell_form (field : Field) :
    (∀ layout,
      (∀ value : Json, value.Spells (field.render layout) ↔ value = field.form) ∧
      Json.ofText? (field.render layout) = some field.form) ∧
    field.form = .object (
      Form.entry "name" field.name ++
      Form.entry "type" (field.kind.map Kind.text) ++
      Form.entry "required" (field.required.map Requiredness.text) ++
      Form.entry "minOccurs" field.minOccurs ++
      field.items.toList.map (fun items => ("items", .array (items.map form))) ++
      field.enumeration.toList.map (fun values => ("enumeration", .array (values.map .text))) ++
      Form.entry "doc" field.doc ++
      (if field.assertions = [] then []
        else [("assert", .array (field.assertions.map fun made =>
          .object (Form.entry "message" made.message ++ Form.entry "formula" made.formula)))]) ++
      field.extra.map fun (key, value) => (key, .text value)) := by
  refine ⟨fun layout => ?_, ?_⟩
  · have read : Json.ofText? (field.render layout) = some field.form :=
      Json.ofText?_eq_some_iff.mpr (field.form.spells_render layout)
    refine ⟨fun value => ?_, read⟩
    rw [← Json.ofText?_eq_some_iff, read, Option.some_inj, eq_comm]
  · simp only [form_eq, ownEntries, Form.heading, Form.details, forms_eq_map, List.isEmpty_iff,
      List.append_assoc, List.map_nil, List.nil_append]
    rfl

end SchemaForms
