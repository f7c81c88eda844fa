/-
TOML documents. A document is read statement by statement into one table. Tables that
a header has named cannot be named again, tables that dotted keys have made cannot be
opened by a header of a later section, and inline tables and arrays are closed for
good. Values are not nested deeper than a limit. Any violation makes the whole document
unreadable; the first flaw that is met in reading is the one that counts.
-/

import QueryWarden.Format.Toml.Moment
import QueryWarden.Format.Toml.Scalar

namespace QueryWarden.Toml

open Number Text

/-! ### Tables -/

/-- Changes the table at the end of a path, making tables on the way where there are
none. A list of tables stands for its last one, where that is allowed. -/
def changeTable (intoLists : Bool) (change : Bindings → Option Bindings) :
    Key → Bindings → Option Bindings
  | [], table => change table
  | part :: path, table =>
      match table.lookup part with
      | none =>
          (changeTable intoLists change path []).map
            (fun inner => Bindings.put part (.map inner) table)
      | some (.map inner) =>
          (changeTable intoLists change path inner).map
            (fun inner => Bindings.put part (.map inner) table)
      | some (.list items) =>
          match items.getLast? with
          | some (.map inner) =>
              if intoLists then
                (changeTable intoLists change path inner).map
                  (fun inner => Bindings.put part (.list (items.dropLast ++ [.map inner])) table)
              else none
          | _ => none
      | some _ => none

def bindNew (name : String) (value : Value) (table : Bindings) : Option Bindings :=
  if (table.lookup name).isSome then none else some (Bindings.put name value table)

/-- Appends an empty table to a list of tables, which is made where there is none. -/
def appendTable (name : String) (table : Bindings) : Option Bindings :=
  match table.lookup name with
  | none => some (Bindings.put name (.list [.map []]) table)
  | some (.list items) => some (Bindings.put name (.list (items ++ [.map []])) table)
  | some _ => none

/-! ### Marks -/

/-- What is known of paths: named by a header, closed with all below, and to be treated
as named once the section ends. -/
structure Marks where
  named : List Key
  closed : List Key
  pending : List Key

namespace Marks

def none : Marks :=
  { named := [], closed := [], pending := [] }

def isNamed (marks : Marks) (key : Key) : Bool :=
  marks.named.contains key

def isClosed (marks : Marks) (key : Key) : Bool :=
  marks.closed.any (fun closed => closed.isPrefixOf key)

def name (marks : Marks) (key : Key) : Marks :=
  { marks with named := key :: marks.named }

def close (marks : Marks) (key : Key) : Marks :=
  { marks with closed := key :: marks.closed }

def settle (marks : Marks) : Marks :=
  { marks with named := marks.pending ++ marks.named, pending := [] }

def forget (marks : Marks) (key : Key) : Marks :=
  { marks with
    named := marks.named.filter (fun other => !key.isPrefixOf other)
    closed := marks.closed.filter (fun other => !key.isPrefixOf other) }

end Marks

def isContainer : Value → Bool
  | .list _ | .map _ => true
  | _ => false

def splitKey (key : Key) : Key × String :=
  (key.dropLast, key.getLast?.getD "")

/-! ### Values -/

/-- What was found, or else the text is malformed. -/
def expected {α : Type} : Option α → Except TextFlaw α
  | some found => .ok found
  | none => .error .malformed

def readScalar (letters : List Char) : Except TextFlaw (Value × List Char) :=
  match after? "true".toList letters, after? "false".toList letters with
  | some rest, _ => .ok (.bool true, rest)
  | none, some rest => .ok (.bool false, rest)
  | none, none =>
      match readDateTime letters with
      | some found => expected found
      | none =>
          match readTime letters with
          | some found => expected found
          | none => readNumber letters

mutual

/-- Every step into an array or an inline table takes one unit of fuel, and its part of
the depth that is left. -/
def readValue (depth : Nat) : (fuel : Nat) → List Char → Except TextFlaw (Value × List Char)
  | 0, _ => .error .malformed
  | fuel + 1, letters =>
      match letters with
      | '"' :: _ | '\'' :: _ =>
          (expected (readText letters)).map
            (fun found => (.text (String.ofList found.1), found.2))
      | '[' :: rest =>
          if depth < 2 then .error (.tooDeep .tomlValue)
          else
            match skipVoid (rest.length + 1) rest with
            | some (']' :: rest) => .ok (.list [], rest)
            | some rest =>
                (readItems (depth - 2) fuel rest).map (fun found => (.list found.1, found.2))
            | none => .error .malformed
      | '{' :: rest =>
          if depth < 3 then .error (.tooDeep .tomlValue)
          else
            match skipSpace rest with
            | '}' :: rest => .ok (.map [], rest)
            | rest =>
                (readInline (depth - 3) fuel [] .none rest).map
                  (fun found => (.map found.1, found.2))
      | letters => readScalar letters

/-- The items of an array up to its end; a comma may stand before it. -/
def readItems (depth : Nat) : (fuel : Nat) → List Char → Except TextFlaw (List Value × List Char)
  | 0, _ => .error .malformed
  | fuel + 1, letters => do
      let (item, rest) ← readValue depth fuel letters
      match skipVoid (rest.length + 1) rest with
      | some (']' :: rest) => return ([item], rest)
      | some (',' :: rest) =>
          match skipVoid (rest.length + 1) rest with
          | some (']' :: rest) => return ([item], rest)
          | some rest =>
              let (items, rest) ← readItems depth fuel rest
              return (item :: items, rest)
          | none => throw .malformed
      | _ => throw .malformed

def readPair (depth : Nat) : (fuel : Nat) → List Char → Except TextFlaw ((Key × Value) × List Char)
  | 0, _ => .error .malformed
  | fuel + 1, letters =>
      match readKey letters with
      | some (key, '=' :: rest) =>
          (readValue depth fuel (skipSpace rest)).map (fun found => ((key, found.1), found.2))
      | _ => .error .malformed

def readInline (depth : Nat) : (fuel : Nat) → Bindings → Marks → List Char →
    Except TextFlaw (Bindings × List Char)
  | 0, _, _, _ => .error .malformed
  | fuel + 1, table, marks, letters => do
      let ((key, value), rest) ← readPair depth fuel letters
      if marks.isClosed key then throw .malformed
      else
        let (path, name) := splitKey key
        let table ← expected (changeTable false (bindNew name value) path table)
        match skipSpace rest with
        | '}' :: rest => return (table, rest)
        | ',' :: rest =>
            readInline depth fuel table
              (if isContainer value then marks.close key else marks) (skipSpace rest)
        | _ => throw .malformed

end

/-! ### Statements -/

structure Document where
  table : Bindings
  marks : Marks
  header : Key

/-- The proper beginnings of a key, below the header. -/
def innerPaths (header key : Key) : List Key :=
  (List.range (key.length - 1)).map (fun index => header ++ key.take (index + 1))

def addPair (document : Document) (key : Key) (value : Value) : Option Document :=
  let inner := innerPaths document.header key
  if inner.any document.marks.isNamed then none
  else
    let (path, name) := splitKey key
    let path := document.header ++ path
    if document.marks.isClosed path then none
    else
      (changeTable true (bindNew name value) path document.table).map (fun table =>
        let marks := { document.marks with pending := inner ++ document.marks.pending }
        { document with
          table := table
          marks := if isContainer value then marks.close (document.header ++ key) else marks })

def openTable (document : Document) (key : Key) : Option Document :=
  if document.marks.isNamed key || document.marks.isClosed key then none
  else
    (changeTable true some key document.table).map (fun table =>
      { table := table, marks := document.marks.name key, header := key })

def openListed (document : Document) (key : Key) : Option Document :=
  if document.marks.isClosed key then none
  else
    let (path, name) := splitKey key
    (changeTable true (appendTable name) path document.table).map (fun table =>
      { table := table, marks := (document.marks.forget key).name key, header := key })

/-- A header, its opening brackets read, up to its closing ones. -/
def readHeader (closing : List Char) (letters : List Char) : Option (Key × List Char) :=
  match readKey (skipSpace letters) with
  | some (key, rest) => (after? closing rest).map (fun rest => (key, rest))
  | none => none

/-- Reads one statement; a comment alone is one that changes nothing. -/
def readStatement (document : Document) (letters : List Char) :
    Except TextFlaw (Document × List Char) :=
  let settled := { document with marks := document.marks.settle }
  match letters with
  | '#' :: _ => .ok (document, letters)
  | '[' :: '[' :: rest => do
      let (key, rest) ← expected (readHeader [']', ']'] rest)
      return (← expected (openListed settled key), rest)
  | '[' :: rest => do
      let (key, rest) ← expected (readHeader [']'] rest)
      return (← expected (openTable settled key), rest)
  | letters => do
      let ((key, value), rest) ← readPair tomlDepth (2 * letters.length + 2) letters
      return (← expected (addPair document key value), rest)

/-- Reads lines to the end of the text; each takes one unit of fuel. -/
def readLines : (fuel : Nat) → Document → List Char → Except TextFlaw Bindings
  | 0, _, _ => .error .malformed
  | fuel + 1, document, letters =>
      match skipSpace letters with
      | [] => .ok document.table
      | '\n' :: rest => readLines fuel document rest
      | letters => do
          let (document, rest) ← readStatement document letters
          match skipComment (skipSpace rest) with
          | some [] => return document.table
          | some ('\n' :: rest) => readLines fuel document rest
          | _ => throw .malformed

def parse (letters : List Char) : Except TextFlaw Value :=
  (readLines (letters.length + 1) { table := [], marks := .none, header := [] } letters).map
    .map

end QueryWarden.Toml
