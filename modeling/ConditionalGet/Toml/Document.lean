import ConditionalGet.Toml.Reader

/-!
# TOML documents

The lines of a document put together to one table. Each line adds to what the lines before it have
made; what may not be added to is settled by how it came about: a table with a header is complete
at the next header, one between braces at once, and no key gets two values.
-/

set_option autoImplicit false

namespace ConditionalGet.Toml

abbrev Entries := List (String × Value)

/-- A table being made: how it came about, and its entries so far. -/
structure Draft where
  origin : Origin
  entries : Entries

namespace Draft

def value (d : Draft) : Value := .table d.origin d.entries

/-- Replaces the value of a key, or adds it at the end, by what `f` makes of the former value. -/
def update (key : String) (f : Option Value → Except Flaw Value) : Entries → Except Flaw Entries
  | [] => do return [(key, ← f none)]
  | e :: rest => do
    if e.1 = key then return (key, ← f (some e.2)) :: rest
    else return e :: (← update key f rest)

/-- Changes the table that a path leads to by `f`; tables missing on the way are made. `dotted` says
that the path is part of a key with dots, which does not lead into tables with headers. -/
def changeAt (dotted : Bool) (f : Draft → Except Flaw Draft) :
    List KeyPart → Draft → Except Flaw Draft
  | [], d => f d
  | none :: _, _ => .error .malformed
  | some key :: path, d => do
    let change (d : Draft) : Except Flaw Value := do return (← changeAt dotted f path d).value
    let entries ← update key (fun former =>
      match former with
      | none => change ⟨if dotted then .dotted else .implied, []⟩
      | some (.table .braces _) => .error .malformed
      | some (.table origin entries) =>
        if dotted && !origin.isImplicit then .error .duplicateKey else change ⟨origin, entries⟩
      | some (.array true items) =>
        match items.getLast? with
        | some (.table origin entries) => do
          return .array true (items.dropLast ++ [← change ⟨origin, entries⟩])
        | _ => .error .malformed
      | some _ => .error .malformed) d.entries
    return { d with entries := entries }

def addNew (key : String) (v : Value) (d : Draft) : Except Flaw Draft := do
  let entries ← update key (fun former =>
    match former with
    | none => .ok v
    | some _ => .error .duplicateKey) d.entries
  return { d with entries := entries }

/-- Assigns a value to a key. A key with dots adds only to tables that keys with dots have made. -/
def assign (d : Draft) (path : List KeyPart) (v : Value) : Except Flaw Draft :=
  match path.getLast? with
  | some (some key) =>
    let way := path.dropLast
    d.changeAt true (fun t =>
      if decide (t.origin = .dotted) = way.isEmpty then .error .duplicateKey
      else t.addNew key v) way
  | _ => .error .malformed

end Draft

/-! ## Values -/

mutual

def valueOf : Written → Except Flaw Value
  | .simple v => .ok v
  | .invalid => .error .malformed
  | .array items => do return .array false (← valuesOf items)
  | .braces assignments => do return (← assignAll ⟨.braces, []⟩ assignments).value

/-- The values of the items of an array. -/
def valuesOf : List Written → Except Flaw (List Value)
  | [] => .ok []
  | w :: ws => do return (← valueOf w) :: (← valuesOf ws)

/-- The table after the assignments between braces. -/
def assignAll (d : Draft) : List (List KeyPart × Written) → Except Flaw Draft
  | [] => .ok d
  | a :: rest => do
    let d ← d.assign a.1 (← valueOf a.2)
    assignAll d rest

end

/-! ## Sections -/

/-- The table that has been made when reading has come to a section: the whole document, the header
of the section, and the table that the section makes. -/
structure Progress where
  root : Draft
  header : Option (Bool × List KeyPart)
  current : Draft

namespace Progress

/-- Puts the table of the section into the document. -/
def finish (p : Progress) : Except Flaw Draft :=
  match p.header with
  | none => .ok p.current
  | some (ofArray, path) =>
    match path.getLast? with
    | some (some key) =>
      p.root.changeAt false (fun parent => do
        let entries ← Draft.update key (fun former =>
          match ofArray, former with
          | true, none => .ok (.array true [p.current.value])
          | true, some (.array true items) => .ok (.array true (items ++ [p.current.value]))
          | true, some _ => .error .duplicateKey
          | false, _ => .ok p.current.value) parent.entries
        return { parent with entries := entries }) path.dropLast
    | _ => .error .malformed

/-- What stands under a key. -/
def find (key : String) (entries : Entries) : Option Value :=
  (entries.find? (·.1 = key)).map Prod.snd

/-- The table under a key that a header may still define: a new one, or one that longer headers have
named on the way. -/
def opened (parent : Draft) (key : String) : Except Flaw Draft :=
  match find key parent.entries with
  | none => .ok ⟨.header, []⟩
  | some (.table .implied entries) => .ok ⟨.header, entries⟩
  | some _ => .error .duplicateKey

/-- The table at a path, with tables missing on the way taken as empty. -/
def tableAt : List KeyPart → Draft → Except Flaw Draft
  | [], d => .ok d
  | none :: _, _ => .error .malformed
  | some key :: path, d =>
    match find key d.entries with
    | none => tableAt path ⟨.implied, []⟩
    | some (.table .braces _) => .error .malformed
    | some (.table origin entries) => tableAt path ⟨origin, entries⟩
    | some (.array true items) =>
      match items.getLast? with
      | some (.table origin entries) => tableAt path ⟨origin, entries⟩
      | _ => .error .malformed
    | some _ => .error .malformed

/-- Starts the section of a header. -/
def start (p : Progress) (ofArray : Bool) (path : List KeyPart) : Except Flaw Progress := do
  let root ← p.finish
  match path.getLast? with
  | some (some key) =>
    if ofArray then return ⟨root, some (ofArray, path), ⟨.header, []⟩⟩
    else return ⟨root, some (ofArray, path), ← opened (← tableAt path.dropLast root) key⟩
  | _ => .error .malformed

def step (p : Progress) : Line → Except Flaw Progress
  | .header ofArray path => p.start ofArray path
  | .assignment path written => do
    let current ← p.current.assign path (← valueOf written)
    return { p with current := current }

end Progress

def parse (text : String) : Except Flaw Entries := do
  let lines ← readLines text
  let start : Progress := ⟨⟨.header, []⟩, none, ⟨.header, []⟩⟩
  return (← (← lines.foldlM Progress.step start).finish).entries

end ConditionalGet.Toml
