import SqlTemplate.Toml.Scalar

/-!
# Reading TOML

A reader of whole documents: lines that hold a key and its value, a table header, a comment or
nothing. Neither dotted keys nor values inside each other go deeper than a fixed limit.
-/

namespace SqlTemplate.Toml

def skipComment? : List Char → Option (List Char)
  | '#' :: s =>
    let rest := s.dropWhile isText
    if rest.isEmpty || (readNewline? rest).isSome then some rest else none
  | s => some s

/-- The end of a line: blanks, perhaps a comment, and a line end or the end of the text. -/
def readLineEnd? (s : List Char) : Option (List Char) := do
  let s ← skipComment? (s.dropWhile isSpace)
  if s.isEmpty then some [] else readNewline? s

def skipFiller? : Nat → List Char → Option (List Char)
  | 0, _ => none
  | fuel + 1, s => do
    let s ← skipComment? (s.dropWhile isSpace)
    match readNewline? s with
    | some s => skipFiller? fuel s
    | none => some s

def isKeyChar (c : Char) : Bool :=
  c.isAlphanum || c == '_' || c == '-'

/-- One key: bare, or a string on one line. -/
def readSimpleKey? (s : List Char) : Option (String × List Char) :=
  match s with
  | [] => none
  | c :: rest =>
    if c == '"' || c == '\'' then
      (readLine? c (s.length + 1) rest).map fun (t, s) => (String.ofList t, s)
    else if isKeyChar c then
      some (String.ofList (s.takeWhile isKeyChar), s.dropWhile isKeyChar)
    else none

/-- Keys with dots between them: those before the last, the last, and what follows. -/
def readKeys? : Nat → List Char → Option ((List String × String) × List Char)
  | 0, _ => none
  | fuel + 1, s => do
    let (key, s) ← readSimpleKey? (s.dropWhile isSpace)
    match s.dropWhile isSpace with
    | '.' :: s => do
      let ((path, last), s) ← readKeys? fuel s
      some ((key :: path, last), s)
    | s => some (([], key), s)

/-- The most keys with dots between them, and the most arrays and inline tables inside each
other. -/
def depthLimit : Nat := 79

def readKey? (s : List Char) : Option ((List String × String) × List Char) := do
  let ((path, last), s) ← readKeys? (s.length + 1) s
  if path.length < depthLimit then some ((path, last), s) else none

mutual

/-- A value at the start of a text. No more than `room` arrays and inline tables may stand inside
each other. -/
def readValue? : Nat → Nat → List Char → Option (Toml × List Char)
  | 0, _, _ => none
  | fuel + 1, room, s =>
    match s with
    | [] => none
    | c :: rest =>
      if c == '"' || c == '\'' then (readString? c s).map fun (t, s) => (string t, s)
      else if c == '[' || c == '{' then
        match room with
        | 0 => none
        | room + 1 =>
          if c == '[' then (readItems? fuel room rest).map fun (items, s) => (array items, s)
          else match rest.dropWhile isSpace with
            | '}' :: s => some (inlineTable [], s)
            | s => (readEntries? fuel room ({}, []) s).map fun ((_, entries), s) =>
              (inlineTable entries, s)
      else readScalar? s

def readItems? : Nat → Nat → List Char → Option (List Toml × List Char)
  | 0, _, _ => none
  | fuel + 1, room, s => do
    match ← skipFiller? (s.length + 1) s with
    | ']' :: s => some ([], s)
    | s => do
      let (item, s) ← readValue? fuel room s
      match ← skipFiller? (s.length + 1) s with
      | ',' :: s => do
        let (items, s) ← readItems? fuel room s
        some (item :: items, s)
      | ']' :: s => some ([item], s)
      | _ => none

/-- The entries of a table between braces up to the closing one; there is one at least. -/
def readEntries? : Nat → Nat → Table → List Char → Option (Table × List Char)
  | 0, _, _, _ => none
  | fuel + 1, room, t, s => do
    let ((path, key), value, s) ← readEntry? fuel room s
    let t ← put path key value t
    match s.dropWhile isSpace with
    | ',' :: s => readEntries? fuel room t s
    | '}' :: s => some (t, s)
    | _ => none

def readEntry? : Nat → Nat → List Char → Option ((List String × String) × Toml × List Char)
  | 0, _, _ => none
  | fuel + 1, room, s => do
    let (key, s) ← readKey? s
    match s.dropWhile isSpace with
    | '=' :: s => do
      let (value, s) ← readValue? fuel room (s.dropWhile isSpace)
      some (key, value, s)
    | _ => none

end

/-- The document so far and the path of keys to the open table. -/
structure Draft where
  root : Table := ({}, [])
  current : List String := []

def readLineInto? (d : Draft) (s : List Char) : Option (Draft × List Char) :=
  match s with
  | '[' :: '[' :: s => do
    let ((path, key), s) ← readKey? s
    match s.dropWhile isSpace with
    | ']' :: ']' :: s => do some (⟨← openNext path key d.root, path ++ [key]⟩, s)
    | _ => none
  | '[' :: s => do
    let ((path, key), s) ← readKey? s
    match s.dropWhile isSpace with
    | ']' :: s => do some (⟨← openTable path key d.root, path ++ [key]⟩, s)
    | _ => none
  | s => do
    let ((path, key), value, s) ← readEntry? (2 * s.length + 4) depthLimit s
    some ({ d with root := ← change false (put path key value) d.current d.root }, s)

def readDocument? : Nat → Draft → List Char → Option Table
  | 0, _, _ => none
  | fuel + 1, d, s => do
    match ← skipFiller? (s.length + 1) s with
    | [] => some d.root
    | s => do
      let (d, s) ← readLineInto? d s
      readDocument? fuel d (← readLineEnd? s)

/-- The entries of a document. A byte order mark may stand in front. -/
def read? (text : String) : Option (Entries Toml) :=
  let s := match text.toList with
    | '\ufeff' :: s => s
    | s => s
  (readDocument? (s.length + 1) {} s).map (·.2)

end SqlTemplate.Toml
