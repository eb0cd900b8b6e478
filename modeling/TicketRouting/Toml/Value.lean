/-!
TOML values and the rules by which tables are put together from headers and dotted keys. No table
may be defined twice, and a table is open to later definitions only as the rules below say.
-/
namespace TicketRouting.Toml

inductive Origin where
  /-- By a header of its own; the whole document counts as such a table. -/
  | header
  /-- On the way of a header to a table within it. -/
  | implied
  /-- By a dotted key. -/
  | dotted
  /-- Between braces. -/
  | inline
deriving DecidableEq

/-- Of numbers with a fraction and of dates only the text is kept. -/
inductive Value where
  | text (content : String)
  | integer (n : Int)
  | real (written : List Char)
  | flag (value : Bool)
  | date (written : List Char)
  | array (elements : List Value)
  | table (origin : Origin) (entries : List (String × Value))
  /-- Tables under one header in double brackets. -/
  | tables (elements : List (List (String × Value)))

abbrev Entries := List (String × Value)

def hasKey (key : String) (entries : Entries) : Bool := entries.any (·.1 == key)

def replaceEntry (key : String) (value : Value) (entries : Entries) : Entries :=
  entries.map fun entry => if entry.1 == key then (key, value) else entry

/-- Changes the table that a path leads to; tables that are missing on the way are made. A dotted key
must not lead into a table with a header, and nothing leads into braces. -/
def changeAt (byDots : Bool) (change : Origin → Entries → Option Entries) :
    List String → Origin → Entries → Option Entries
  | [], origin, entries => change origin entries
  | key :: path, _, entries =>
    match entries.lookup key with
    | none => do
      let origin := if byDots then Origin.dotted else Origin.implied
      let inner ← changeAt byDots change path origin []
      return entries ++ [(key, .table origin inner)]
    | some (.table .inline _) => none
    | some (.table origin inner) =>
      if byDots && origin == .header then none
      else do
        let changed ← changeAt byDots change path origin inner
        return replaceEntry key (.table origin changed) entries
    | some (.tables elements) =>
      match elements.getLast? with
      | none => none
      | some last => do
        let changed ← changeAt byDots change path .header last
        return replaceEntry key (.tables (elements.dropLast ++ [changed])) entries
    | some _ => none

/-- Puts a value under a dotted key. A table made by dotted keys takes further ones through such keys
only. -/
def putDotted (path : List String) (key : String) (value : Value) (origin : Origin)
    (entries : Entries) : Option Entries :=
  let put (inner : Origin) (entries : Entries) : Option Entries :=
    if (inner == .dotted) == path.isEmpty || hasKey key entries then none
    else some (entries ++ [(key, value)])
  changeAt true put path origin entries

/-- A document that is being read: the tables that are complete, and the one whose header was read
last, with the path of this header. -/
structure Document where
  complete : Entries := []
  path : List String := []
  inArray : Bool := false
  current : Entries := []

namespace Document

def finished? (document : Document) : Option Entries :=
  match document.path.getLast? with
  | none => some document.current
  | some key =>
    let put (_ : Origin) (entries : Entries) : Option Entries :=
      if document.inArray then
        match entries.lookup key with
        | none => some (entries ++ [(key, .tables [document.current])])
        | some (.tables elements) =>
          some (replaceEntry key (.tables (elements ++ [document.current])) entries)
        | some _ => none
      else if hasKey key entries then none
      else some (entries ++ [(key, .table .header document.current)])
    changeAt false put document.path.dropLast .header document.complete

/-- A header in single brackets. It may name a table that was only implied as yet. -/
def startTable? (path : List String) (document : Document) : Option Document := do
  let root ← document.finished?
  let key ← path.getLast?
  let visit (_ : Origin) (entries : Entries) : Option Entries := some entries
  let root ← changeAt false visit path.dropLast .header root
  let parent ← entriesAt path.dropLast root
  match parent.lookup key with
  | none => return ⟨root, path, false, []⟩
  | some (.table .implied entries) =>
    let remove (_ : Origin) (entries : Entries) : Option Entries :=
      some (entries.filter fun entry => entry.1 != key)
    return ⟨← changeAt false remove path.dropLast .header root, path, false, entries⟩
  | some _ => none
where
  entriesAt : List String → Entries → Option Entries
    | [], entries => some entries
    | key :: path, entries =>
      match entries.lookup key with
      | some (.table _ inner) => entriesAt path inner
      | some (.tables elements) => elements.getLast?.bind (entriesAt path)
      | _ => none

/-- A header in double brackets, which begins one more table of an array. -/
def startElement? (path : List String) (document : Document) : Option Document := do
  let root ← document.finished?
  let key ← path.getLast?
  let check (_ : Origin) (entries : Entries) : Option Entries :=
    match entries.lookup key with
    | none => some entries
    | some (.tables _) => some entries
    | some _ => none
  let root ← changeAt false check path.dropLast .header root
  return ⟨root, path, true, []⟩

def put? (path : List String) (key : String) (value : Value) (document : Document) :
    Option Document := do
  return { document with current := ← putDotted path key value .header document.current }

end Document

end TicketRouting.Toml
