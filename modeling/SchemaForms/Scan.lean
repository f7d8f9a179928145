set_option autoImplicit false

namespace SchemaForms

abbrev Scan (ε α : Type) := StateT (List Char) (Except ε) α

namespace Scan

variable {ε α : Type}

def startsWith (word : String) : Scan ε Bool :=
  return word.toList.isPrefixOf (← get)

def skip? (word : String) : Scan ε Bool := do
  let input ← get
  if word.toList.isPrefixOf input then
    set (input.drop word.length)
    return true
  else return false

def expect (error : ε) (word : String) : Scan ε Unit := do
  unless ← skip? word do throw error

def next? : Scan ε (Option Char) := do
  match ← get with
  | [] => return none
  | c :: rest =>
    set rest
    return some c

def atEnd : Scan ε Bool := return (← get).isEmpty

def takeWhile (test : Char → Bool) : Scan ε (List Char) := do
  let input ← get
  set (input.dropWhile test)
  return input.takeWhile test

def before (word : List Char) : List Char → List Char
  | [] => []
  | c :: rest => if word.isPrefixOf (c :: rest) then [] else c :: before word rest

def takeBefore (word : String) : Scan ε (List Char) := do
  let input ← get
  let taken := before word.toList input
  set (input.drop taken.length)
  return taken

def manyUpTo (item : Scan ε (Option α)) : Nat → Scan ε (List α)
  | 0 => return []
  | limit + 1 => do
    match ← item with
    | none => return []
    | some a => return a :: (← manyUpTo item limit)

def many (item : Scan ε (Option α)) : Scan ε (List α) := do
  manyUpTo item ((← get).length + 1)

def eval (scan : Scan ε α) (input : List Char) : Except ε α := scan.run' input

end Scan

end SchemaForms
