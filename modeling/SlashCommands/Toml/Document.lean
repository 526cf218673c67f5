import SlashCommands.Toml.Quotation
import SlashCommands.Toml.Scalar

namespace SlashCommands.Toml

/-- A reader of something at the front of a text. -/
abbrev Reader (α : Type) := List Char → Option (α × List Char)

def depthLimit : Nat := 79

def isGap (c : Char) : Bool := c == ' ' || c == '\t'

def skipGap (cs : List Char) : List Char := cs.dropWhile isGap

def skipComment : List Char → List Char
  | '#' :: rest => rest.dropWhile Quotation.isText
  | cs => cs

def lineEnd? : List Char → Option (List Char)
  | [] => some []
  | '\n' :: rest | '\r' :: '\n' :: rest => some rest
  | _ => none

def endLine? (cs : List Char) : Option (List Char) := lineEnd? (skipComment (skipGap cs))

def skipLines (inComment : Bool) : List Char → List Char
  | [] => []
  | '\r' :: '\n' :: rest => skipLines false rest
  | c :: rest =>
    if c = '\n' then skipLines false rest
    else if inComment then if Quotation.isText c then skipLines true rest else c :: rest
    else if isGap c then skipLines false rest
    else if c = '#' then skipLines true rest
    else c :: rest

def simpleKey? : Reader String := fun cs =>
  match cs with
  | '"' :: rest => (Quotation.basic? rest).map fun (s, rest) => (.ofList s, rest)
  | '\'' :: rest => (Quotation.literal? rest).map fun (s, rest) => (.ofList s, rest)
  | _ =>
    let isBare := fun (c : Char) => c.isAlphanum || c == '_' || c == '-'
    let key := cs.takeWhile isBare
    if key.isEmpty then none else some (.ofList key, cs.dropWhile isBare)

/-- The parts of a dotted key with the blanks around them, as the last part and those before it. At
most `limit + 1` parts are read. -/
def key? (limit : Nat) : Reader (List String × String) := fun cs => do
  let (part, cs) ← simpleKey? (skipGap cs)
  match skipGap cs, limit with
  | '.' :: cs, limit + 1 =>
    let ((path, key), cs) ← key? limit cs
    some ((part :: path, key), cs)
  | '.' :: _, 0 => none
  | cs, _ => some (([], part), cs)

def dottedKey? : Reader (List String × String) := key? (depthLimit - 1)

def timeAfterBlank : List Char → List Char × List Char
  | ' ' :: c :: rest =>
    let isTime := fun (c : Char) => c.isAlphanum || c == ':' || c == '.' || c == '+' || c == '-'
    if c.isDigit then ('T' :: (c :: rest).takeWhile isTime, (c :: rest).dropWhile isTime)
    else ([], ' ' :: c :: rest)
  | cs => ([], cs)

def scalar? : Reader Node := fun cs =>
  let isWord := fun (c : Char) =>
    c.isAlphanum || c == '_' || c == ':' || c == '.' || c == '+' || c == '-'
  let word := cs.takeWhile isWord
  let rest := cs.dropWhile isWord
  let (time, rest) := if Scalar.date? word = some [] then timeAfterBlank rest else ([], rest)
  (Scalar.read? (word ++ time)).map (·, rest)

/-- The items of an array up to its bracket. A comma may follow the last one. Each item takes one
character at least, so that `fuel` of the length of the text is enough. -/
def items? (value? : Reader Node) : Nat → Reader (List Node)
  | 0, _ => none
  | fuel + 1, cs =>
    match skipLines false cs with
    | ']' :: rest => some ([], rest)
    | cs => do
      let (item, cs) ← value? cs
      match skipLines false cs with
      | ',' :: cs =>
        let (items, cs) ← items? value? fuel cs
        some (item :: items, cs)
      | ']' :: cs => some ([item], cs)
      | _ => none

def pair? (value? : Reader Node) : Reader ((List String × String) × Node) := fun cs => do
  let (key, cs) ← dottedKey? cs
  match cs with
  | '=' :: cs =>
    let (value, cs) ← value? (skipGap cs)
    some ((key, value), skipGap cs)
  | _ => none

def pairs? (value? : Reader Node) : Nat → Entries → Reader Entries
  | 0, _, _ => none
  | fuel + 1, entries, cs => do
    let (((path, key), value), cs) ← pair? value? cs
    let entries ← entries.insert? path key value
    match cs with
    | ',' :: cs => pairs? value? fuel entries cs
    | '\x7d' :: cs => some (entries, cs)
    | _ => none

def value? (depth : Nat) : Reader Node := fun cs =>
  match cs, depth with
  | '"' :: _, _ | '\'' :: _, _ =>
    (Quotation.string? cs).map fun (s, rest) => (.string (.ofList s), rest)
  | '[' :: _, 0 | '\x7b' :: _, 0 => none
  | '[' :: rest, depth + 1 =>
    (items? (value? depth) rest.length rest).map fun (items, rest) => (.array items, rest)
  | '\x7b' :: rest, depth + 1 =>
    match skipGap rest with
    | '\x7d' :: rest => some (.inline [], rest)
    | _ =>
      (pairs? (value? depth) rest.length [] rest).map fun (entries, rest) => (.inline entries, rest)
  | _, _ => scalar? cs

structure Draft where
  root : Entries := []
  path : List String := []

def header? (cs : List Char) : Option (((List String × String) × Bool) × List Char) :=
  match cs with
  | '[' :: '[' :: rest =>
    match dottedKey? rest with
    | some (key, ']' :: ']' :: rest) => some ((key, true), rest)
    | _ => none
  | '[' :: rest =>
    match dottedKey? rest with
    | some (key, ']' :: rest) => some ((key, false), rest)
    | _ => none
  | _ => none

def line? (d : Draft) : Reader Draft := fun cs =>
  match skipGap cs with
  | [] => some (d, [])
  | c :: cs => do
    if c = '#' ∨ c = '\n' ∨ c = '\r' then
      some (d, ← endLine? (c :: cs))
    else if c = '[' then
      let (((path, key), double), cs) ← header? (c :: cs)
      let root ← if double then d.root.openItem? path key else d.root.openTable? path key
      some (⟨root, path ++ [key]⟩, ← endLine? cs)
    else
      let (((path, key), value), cs) ← pair? (value? depthLimit) (c :: cs)
      some ({ d with root := ← d.root.insertAt? d.path path key value }, ← endLine? cs)

def lines? : Nat → Draft → List Char → Option Draft
  | _, d, [] => some d
  | 0, _, _ => none
  | fuel + 1, d, cs => do
    let (d, cs) ← line? d cs
    lines? fuel d cs

/-- The root table of a document. A byte order mark at the front does not count. -/
def read? (cs : List Char) : Option Entries :=
  let cs := if cs.head? = some '\ufeff' then cs.tail else cs
  (lines? cs.length {} cs).map (·.root)

end SlashCommands.Toml
