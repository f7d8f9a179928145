set_option autoImplicit false

namespace SchemaForms.Toml

inductive Origin
  | header
  | implied
  | dotted
  | inlined
deriving DecidableEq, Repr

inductive Value
  | string (text : String)
  | integer (number : Int)
  | float
  | boolean (truth : Bool)
  | date
  | array (values : List Value)
  | table (origin : Origin) (entries : List (String × Value))
  | tables (tables : List (List (String × Value)))

abbrev Entries := List (String × Value)

inductive Fault
  | expected (what : String)
  | illegalCharacter
  | malformedValue (text : String)
  | malformedEscape
  | tooDeep
  | duplicateKey (key : String)
deriving DecidableEq, Repr

def Fault.message : Fault → String
  | .expected what => "expected " ++ what
  | .illegalCharacter => "illegal character"
  | .malformedValue text => "malformed value '" ++ text ++ "'"
  | .malformedEscape => "malformed escape sequence"
  | .tooDeep => "values nested too deeply"
  | .duplicateKey key => "key '" ++ key ++ "' cannot be set here"

namespace Entries

def find? (entries : Entries) (key : String) : Option Value :=
  (List.find? (fun entry => entry.1 = key) entries).map (·.2)

def put : Entries → String → Value → Entries
  | [], key, value => [(key, value)]
  | (k, v) :: rest, key, value =>
    if k = key then (k, value) :: rest else (k, v) :: put rest key value

/-- Changes the table that a path leads to, from one of this origin. -/
def change (edit : Origin → Entries → Except Fault Entries) (dotted : Bool) (origin : Origin)
    (entries : Entries) : List String → Except Fault Entries
  | [] => edit origin entries
  | key :: rest =>
    match entries.find? key with
    | none => do
      let origin := if dotted then .dotted else .implied
      return entries.put key (.table origin (← change edit dotted origin [] rest))
    | some (.table origin inner) => do
      if origin = .inlined || (dotted && origin = .header) then throw (.duplicateKey key)
      return entries.put key (.table origin (← change edit dotted origin inner rest))
    | some (.tables tables) => do
      let inner ← change edit dotted .header (tables.getLast?.getD []) rest
      return entries.put key (.tables (tables.dropLast ++ [inner]))
    | some _ => throw (.duplicateKey key)

def add (entries : Entries) (path : List String) (value : Value) : Except Fault Entries :=
  match path.getLast? with
  | none => .ok entries
  | some key =>
    change (fun origin entries =>
      if (origin = .dotted) = path.dropLast.isEmpty || (entries.find? key).isSome then
        .error (.duplicateKey key)
      else .ok (entries.put key value)) true .header entries path.dropLast

end Entries

abbrev Pair := List String × Value

def tableOf (start : Entries) (pairs : List Pair) : Except Fault Entries :=
  pairs.foldlM (fun entries pair => entries.add pair.1 pair.2) start

structure Section where
  path : List String
  repeated : Bool
  pairs : List Pair

def Section.addTo (part : Section) (document : Entries) : Except Fault Entries :=
  match part.path.getLast? with
  | none => tableOf document part.pairs
  | some key =>
    Entries.change (fun _ entries =>
      match entries.find? key, part.repeated with
      | none, true => return entries.put key (.tables [← tableOf [] part.pairs])
      | some (.tables tables), true =>
        return entries.put key (.tables (tables ++ [← tableOf [] part.pairs]))
      | none, false => return entries.put key (.table .header (← tableOf [] part.pairs))
      | some (.table .implied inner), false =>
        return entries.put key (.table .header (← tableOf inner part.pairs))
      | some _, _ => throw (.duplicateKey key)) false .header document part.path.dropLast

end SchemaForms.Toml
