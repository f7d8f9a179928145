import SchemaForms.Json.Text
import Mathlib.Tactic.IntervalCases

set_option autoImplicit false

namespace SchemaForms.Json

inductive Mark
  | beginArray
  | endArray
  | beginObject
  | endObject
  | colon
  | comma
deriving DecidableEq, Repr

def Mark.char : Mark → Char
  | .beginArray => '['
  | .endArray => ']'
  | .beginObject => '\x7b'
  | .endObject => '\x7d'
  | .colon => ':'
  | .comma => ','

inductive Token
  | mark (mark : Mark)
  | text (value : String)
deriving DecidableEq, Repr

def isBlank (c : Char) : Bool := c = ' ' || c = '\t' || c = '\n' || c = '\r'

def ofLetter? : Char → Option Char
  | '"' => some '"'
  | '\\' => some '\\'
  | '/' => some '/'
  | 'b' => some (Char.ofNat 8)
  | 'f' => some (Char.ofNat 12)
  | 'n' => some '\n'
  | 'r' => some '\r'
  | 't' => some '\t'
  | _ => none

def digit? (c : Char) : Option Nat :=
  if '0' ≤ c ∧ c ≤ '9' then some (c.toNat - 48)
  else if 'a' ≤ c ∧ c ≤ 'f' then some (c.toNat - 87)
  else if 'A' ≤ c ∧ c ≤ 'F' then some (c.toNat - 55)
  else none

def unit? : List Char → Option Nat
  | [a, b, c, d] => do
    return (((← digit? a) * 16 + (← digit? b)) * 16 + (← digit? c)) * 16 + (← digit? d)
  | _ => none

def isHigh (unit : Nat) : Bool := 0xd800 ≤ unit && unit < 0xdc00

def isLow (unit : Nat) : Bool := 0xdc00 ≤ unit && unit < 0xe000

def ofPair (high low : Nat) : Char :=
  Char.ofNat (0x10000 + (high - 0xd800) * 0x400 + (low - 0xdc00))

inductive CharSpelled : Char → List Char → Prop
  | plain (c : Char) (printed : 32 ≤ c.toNat) (quote : c ≠ '"') (backslash : c ≠ '\\') :
    CharSpelled c [c]
  | letter {c letter : Char} (stands : ofLetter? letter = some c) : CharSpelled c ['\\', letter]
  | unit {digits : List Char} {unit : Nat} (read : unit? digits = some unit)
    (high : isHigh unit = false) (low : isLow unit = false) :
    CharSpelled (Char.ofNat unit) ('\\' :: 'u' :: digits)
  | pair {upper lower : List Char} {high low : Nat} (first : unit? upper = some high)
    (second : unit? lower = some low) (isHigh : isHigh high = true) (isLow : isLow low = true) :
    CharSpelled (ofPair high low) ('\\' :: 'u' :: (upper ++ '\\' :: 'u' :: lower))

inductive TextSpelled : List Char → List Char → Prop
  | nil : TextSpelled [] []
  | cons {c : Char} {value first rest : List Char} (spelled : CharSpelled c first)
    (more : TextSpelled value rest) : TextSpelled (c :: value) (first ++ rest)

inductive Spelled : List Token → List Char → Prop
  | nil : Spelled [] []
  | blank {c : Char} {tokens : List Token} {rest : List Char} (blank : isBlank c = true)
    (more : Spelled tokens rest) : Spelled tokens (c :: rest)
  | mark {tokens : List Token} {rest : List Char} (mark : Mark) (more : Spelled tokens rest) :
    Spelled (.mark mark :: tokens) (mark.char :: rest)
  | text {value inner : List Char} {tokens : List Token} {rest : List Char}
    (spelled : TextSpelled value inner) (more : Spelled tokens rest) :
    Spelled (.text (String.ofList value) :: tokens) ('"' :: (inner ++ '"' :: rest))

mutual

def tokens : Json → List Token
  | .text value => [.text value]
  | .array values => .mark .beginArray :: (valuesTokens values ++ [.mark .endArray])
  | .object entries => .mark .beginObject :: (entriesTokens entries ++ [.mark .endObject])

def valuesTokens : List Json → List Token
  | [] => []
  | value :: rest =>
    tokens value ++ (if rest.isEmpty then [] else .mark .comma :: valuesTokens rest)

def entriesTokens : List (String × Json) → List Token
  | [] => []
  | (key, value) :: rest =>
    .text key :: .mark .colon :: (tokens value ++
      (if rest.isEmpty then [] else .mark .comma :: entriesTokens rest))

end

/-- The text is a JSON text, and this is its value. -/
def Spells (value : Json) (text : String) : Prop := Spelled value.tokens text.toList

theorem TextSpelled.append {value inner other more : List Char} (first : TextSpelled value inner)
    (second : TextSpelled other more) : TextSpelled (value ++ other) (inner ++ more) := by
  induction first with
  | nil => exact second
  | cons spelled _ ih =>
    rw [List.append_assoc]
    exact .cons spelled ih

namespace Spelled

variable {tokens others : List Token} {chars more : List Char}

theorem append (first : Spelled tokens chars) (second : Spelled others more) :
    Spelled (tokens ++ others) (chars ++ more) := by
  induction first with
  | nil => exact second
  | blank blank _ ih => exact .blank blank ih
  | mark mark _ ih => exact .mark mark ih
  | text spelled _ ih =>
    simp only [List.cons_append, List.append_assoc]
    exact .text spelled ih

theorem of_blanks (blanks : ∀ c ∈ chars, isBlank c = true) : Spelled [] chars := by
  induction chars with
  | nil => exact .nil
  | cons c rest ih =>
    obtain ⟨blank, blanks⟩ := List.forall_mem_cons.mp blanks
    exact .blank blank (ih blanks)

theorem of_mark (mark : Mark) : Spelled [.mark mark] [mark.char] := .mark mark .nil

end Spelled

theorem digit?_hexDigit {digit : Nat} (small : digit < 16) :
    digit? (hexDigit digit) = some digit := by
  interval_cases digit <;> decide

theorem unit?_control {code : Nat} (control : code < 32) :
    unit? ['0', '0', hexDigit (code / 16), hexDigit (code % 16)] = some code := by
  have high := digit?_hexDigit (show code / 16 < 16 by omega)
  have low := digit?_hexDigit (Nat.mod_lt code (show 0 < 16 by decide))
  have zero : digit? '0' = some 0 := by decide
  simp only [unit?, zero, high, low]
  have whole : ((0 * 16 + 0) * 16 + code / 16) * 16 + code % 16 = code := by omega
  exact congrArg some whole

theorem charSpelled_escape (c : Char) : CharSpelled c (escape c) := by
  have ofCode {code : Nat} (same : c.toNat = code) : c = Char.ofNat code := by
    rw [← same, Char.ofNat_toNat]
  unfold escape
  split_ifs with quote backslash control line back tab erase feed
  · rw [quote]
    exact .letter rfl
  · rw [backslash]
    exact .letter rfl
  · rw [line]
    exact .letter rfl
  · rw [back]
    exact .letter rfl
  · rw [tab]
    exact .letter rfl
  · rw [ofCode erase]
    exact .letter rfl
  · rw [ofCode feed]
    exact .letter rfl
  · have spelled := CharSpelled.unit (unit?_control control) (by simp [isHigh]; omega)
      (by simp [isLow]; omega)
    rwa [Char.ofNat_toNat] at spelled
  · exact .plain c (by omega) quote backslash

theorem textSpelled_escapes (value : List Char) : TextSpelled value (value.flatMap escape) := by
  induction value with
  | nil => exact .nil
  | cons c rest ih => exact .cons (charSpelled_escape c) ih

theorem spelled_quote (value : String) : Spelled [.text value] (quote value) := by
  have spelled := Spelled.text (textSpelled_escapes value.toList) .nil
  rwa [String.ofList_toList] at spelled

namespace Layout

variable (layout : Layout)

theorem spelled_lineBreak (level : Nat) : Spelled [] (layout.lineBreak level) := by
  cases layout with
  | compact => exact .nil
  | pretty =>
    refine .blank rfl (Spelled.of_blanks fun c member => ?_)
    rw [List.eq_of_mem_replicate member]
    rfl

theorem spelled_closing (level : Nat) (empty : Bool) :
    Spelled [] (if empty then [] else layout.lineBreak level) := by
  split
  · exact .nil
  · exact layout.spelled_lineBreak level

theorem spelled_colon : Spelled [.mark .colon] layout.colon := by
  cases layout with
  | compact => exact .of_mark .colon
  | pretty => exact .mark .colon (.blank rfl .nil)

end Layout

mutual

theorem spelled_write (layout : Layout) (level : Nat) :
    (value : Json) → Spelled value.tokens (write layout level value)
  | .text value => spelled_quote value
  | .array values => by
    have inside := ((spelled_writeValues layout level values).append
      (layout.spelled_closing level values.isEmpty)).append (.of_mark .endArray)
    rw [List.append_nil] at inside
    exact .mark .beginArray inside
  | .object entries => by
    have inside := ((spelled_writeEntries layout level entries).append
      (layout.spelled_closing level entries.isEmpty)).append (.of_mark .endObject)
    rw [List.append_nil] at inside
    exact .mark .beginObject inside

theorem spelled_writeValues (layout : Layout) (level : Nat) :
    (values : List Json) → Spelled (valuesTokens values) (writeValues layout level values)
  | [] => .nil
  | value :: rest => by
    have first := (layout.spelled_lineBreak (level + 1)).append
      (spelled_write layout (level + 1) value)
    have later := spelled_writeValues layout level rest
    refine first.append ?_
    split
    · exact .nil
    · exact .mark .comma later

theorem spelled_writeEntries (layout : Layout) (level : Nat) :
    (entries : List (String × Json)) →
      Spelled (entriesTokens entries) (writeEntries layout level entries)
  | [] => .nil
  | (key, value) :: rest => by
    have first := (((layout.spelled_lineBreak (level + 1)).append (spelled_quote key)).append
      layout.spelled_colon).append (spelled_write layout (level + 1) value)
    have later := spelled_writeEntries layout level rest
    refine first.append ?_
    split
    · exact .nil
    · exact .mark .comma later

end

theorem spells_render (layout : Layout) (value : Json) : value.Spells (value.render layout) := by
  rw [Spells, render, String.toList_ofList]
  exact spelled_write layout 0 value

end SchemaForms.Json
