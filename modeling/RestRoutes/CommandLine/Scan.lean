import RestRoutes.Text.Split

/-! Taking the words of a command line apart.  An option with one dash has one letter, and several may
share a word; an option with two dashes has a name, and its value may follow after an equals sign. -/

namespace RestRoutes.CommandLine

inductive Meaning (α : Type)
  | flag (item : α)
  /-- The next word is the value. -/
  | valued (item : String → α)

/-- The options that may be given, by their names with dashes. -/
abbrev Options (α : Type) := List (String × Meaning α)

/-- The items that options said, in the order given, and the words that are no options. -/
structure Scanned (α : Type) where
  items : List α
  words : List String

namespace Scanned

variable {α : Type}

def withItem (item : α) (s : Scanned α) : Scanned α := { s with items := item :: s.items }

def withWord (word : String) (s : Scanned α) : Scanned α := { s with words := word :: s.words }

end Scanned

variable {α : Type}

/-- A word that starts with a dash and has more to it. -/
def isOption (word : String) : Bool :=
  match word.toList with
  | '-' :: _ :: _ => true
  | _ => false

/-- The name in a word with two dashes, and the value after an equals sign. -/
def nameAndValue (word : String) : String × Option String :=
  match Text.cutFirst (· == '=') word.toList with
  | some (name, value) => (String.ofList name, some (String.ofList value))
  | none => (word, none)

/-- What one word says: items, and perhaps the start of one whose value is the next word. `none` for a
word that says nothing. -/
structure Said (α : Type) where
  items : List α
  open? : Option (String → α)

/-- What a word with two dashes says. -/
def longOption (options : Options α) (word : String) : Option (Said α) :=
  let (name, value) := nameAndValue word
  match options.lookup name, value with
  | some (.flag item), none => some ⟨[item], none⟩
  | some (.valued item), some value => some ⟨[item value], none⟩
  | some (.valued item), none => some ⟨[], some item⟩
  | _, _ => none

/-- What the letters after a single dash say. The letters after one that takes a value are that
value. -/
def shortOptions (options : Options α) : List Char → Option (Said α)
  | [] => some ⟨[], none⟩
  | c :: rest =>
    match options.lookup (String.ofList ['-', c]) with
    | some (.flag item) => (shortOptions options rest).map fun s => { s with items := item :: s.items }
    | some (.valued item) =>
      if rest.isEmpty then some ⟨[], some item⟩ else some ⟨[item (String.ofList rest)], none⟩
    | none => none

/-- What a word says. -/
def said (options : Options α) (word : String) : Option (Said α) :=
  if Text.startsWith "--" word then longOption options word
  else shortOptions options (word.toList.drop 1)

/-- Takes words apart. `first` is the item whose value the first word is. Two dashes end the options;
if `interspersed` does not hold, so does the first word that is none. `none` if a word says nothing, or
a value is missing. -/
def scanFrom (options : Options α) (interspersed : Bool) :
    Option (String → α) → List String → Option (Scanned α)
  | none, [] => some ⟨[], []⟩
  | some _, [] => none
  | some item, word :: rest =>
    (scanFrom options interspersed none rest).map (·.withItem (item word))
  | none, word :: rest =>
    if word = "--" then some ⟨[], rest⟩
    else if isOption word then
      match said options word with
      | none => none
      | some s =>
        (scanFrom options interspersed s.open? rest).map fun scanned =>
          { scanned with items := s.items ++ scanned.items }
    else if interspersed then (scanFrom options interspersed none rest).map (·.withWord word)
    else some ⟨[], word :: rest⟩

def scan (options : Options α) (interspersed : Bool) (words : List String) : Option (Scanned α) :=
  scanFrom options interspersed none words

end RestRoutes.CommandLine
