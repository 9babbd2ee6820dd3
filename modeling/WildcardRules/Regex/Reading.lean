import WildcardRules.Regex.Form

set_option autoImplicit false

namespace WildcardRules.Regex

structure Cursor where
  rest : Text
  place : Nat := 0
  spaced : Bool := false
  names : List (Text × Span) := []

def idle : (inComment : Bool) → Text → Nat
  | _, [] => 0
  | true, c :: t => idle (c != '\n') t + 1
  | false, c :: t =>
      if Unicode.isWhiteSpace c then idle false t + 1
      else if c = '#' then idle true t + 1
      else 0

namespace Cursor

def drop (s : Cursor) : (count : Nat) → Cursor
  | 0 => s
  | count + 1 =>
      match s.rest with
      | [] => s
      | _ :: rest => drop { s with rest, place := s.place + 1 } count

def skipIdle (s : Cursor) : Cursor := if s.spaced then s.drop (idle false s.rest) else s

end Cursor

abbrev Scan := StateT Cursor (Except Fault)

namespace Scan

def fail {α : Type} (cause : Cause) (span : Span) : Scan α := throw { cause, span }

def offset : Scan Nat := return (← get).place

def here : Scan Span := return ⟨← offset, ← offset⟩

def charSpan : Scan Span := return ⟨← offset, (← offset) + 1⟩

def peek : Scan (Option Char) := return (← get).rest.head?

def bump : Scan Unit := modify fun s => s.drop 1

def space : Scan Unit := modify Cursor.skipIdle

def bumpSpace : Scan Unit := do
  bump
  space

def atEnd : Scan Bool := return (← peek).isNone

def while_ (p : Char → Bool) : Scan Text := do
  let taken := (← get).rest.takeWhile p
  modify fun s => s.drop taken.length
  return taken

def skipped (expected : Text) : Scan Bool := do
  if expected.isPrefixOf (← get).rest then
    modify fun s => s.drop expected.length
    return true
  else return false

def skippedAny : List Text → Scan Bool
  | [] => return false
  | expected :: others => do
      if ← skipped expected then return true else skippedAny others

def repeated {σ : Type} (step : σ → Scan (Option σ)) : (bound : Text) → σ → Scan σ
  | [], state => return state
  | _ :: bound, state => do
      match ← step state with
      | some state => repeated step bound state
      | none => return state

-- Takes steps until there is none to take. Every step takes a character, so there are no more
-- steps than characters.
def loop {σ : Type} (step : σ → Scan (Option σ)) (state : σ) : Scan σ := do
  repeated step ('\n' :: (← get).rest) state

def whileSpaced (p : Char → Bool) : Scan Text := do
  let taken ← loop (fun taken => do
    match ← peek with
    | some c =>
        if p c then
          bumpSpace
          return some (c :: taken)
        else return none
    | none => return none) []
  return taken.reverse

end Scan

open Scan

def charOf (digits : Text) (span : Span) : Scan Char :=
  let number := Unicode.hexNumber (digits.map Char.toUpper)
  if number.isValidChar then return Char.ofNat number else fail .hexNumber span

def hexDigits : Nat → Text → Scan Text
  | 0, taken => return taken
  | count + 1, taken => do
      match ← peek with
      | none => fail .escapeUnfinished (← here)
      | some c =>
          if Unicode.isAsciiHexDigit c then
            bumpSpace
            hexDigits count (taken ++ [c])
          else fail .hexDigit (← charSpan)

def hexInBraces : Scan Char := do
  let brace ← offset
  bumpSpace
  let digits ← whileSpaced Unicode.isAsciiHexDigit
  match ← peek with
  | none => fail .escapeUnfinished ⟨brace, ← offset⟩
  | some c =>
      if c = '\x7d' then
        let stop ← offset
        bumpSpace
        if digits.isEmpty then fail .hexEmpty ⟨brace, ← offset⟩
        else charOf digits ⟨brace + 1, stop⟩
      else fail .hexDigit (← charSpan)

def numbered (start count : Nat) : Scan Literal := do
  bumpSpace
  match ← peek with
  | none => fail .escapeUnfinished (← here)
  | some c =>
      if c = '\x7b' then
        let char ← hexInBraces
        return { span := ⟨start, ← offset⟩, char }
      else
        let first ← offset
        let digits ← hexDigits count []
        let char ← charOf digits ⟨first, ← offset⟩
        return { span := ⟨start, ← offset⟩, char, coded := count = 2 }

def propertyName : Scan Text := do
  bumpSpace
  match ← peek with
  | none => fail .escapeUnfinished (← here)
  | some c =>
      if c = '\x7b' then
        bumpSpace
        let name ← whileSpaced (· != '\x7d')
        if ← atEnd then fail .escapeUnfinished (← here)
        else
          bump
          return name
      else if c = '\\' then fail .propertyEscape (← charSpan)
      else
        bumpSpace
        return [c]

def edges : List (Text × (Flags → Place)) :=
  [("start".toList, Place.wordStart), ("end".toList, Place.wordEnd),
    ("start-half".toList, Place.noWordBefore), ("end-half".toList, Place.noWordAfter)]

-- Takes the name of a kind of place at the edge of a word, in braces. If what follows the brace is
-- part of no name, nothing is taken: it may be a number of repetitions.
def edgeName? (start : Nat) : Scan (Option (Flags → Place)) := do
  let isNamed := fun (c : Char) => c.isAlpha || c == '-'
  let before ← get
  if before.rest.head? != some '\x7b' then return none
  else
    bumpSpace
    let first ← offset
    match ← peek with
    | none => fail .edgeUnfinished ⟨start, ← offset⟩
    | some c =>
        if isNamed c then
          let name ← whileSpaced isNamed
          let stop ← offset
          if ← skipped ['\x7d'] then
            match edges.lookup name with
            | some p => return some p
            | none => fail .edgeUnknown ⟨first, stop⟩
          else fail .edgeUnclosed ⟨before.place, stop⟩
        else
          set before
          return none

def controls : List (Char × Char) :=
  [('a', '\x07'), ('f', '\x0c'), ('t', '\t'), ('n', '\n'), ('r', '\r'), ('v', '\x0b')]

def placeEscapes : List (Char × (Flags → Place)) :=
  [('A', fun _ => Place.textStart), ('z', fun _ => Place.textEnd), ('B', Place.noWordEdge),
    ('<', Place.wordStart), ('>', Place.wordEnd)]

def simpleEscape (start : Nat) (c : Char) : Scan Atom := do
  bump
  let span : Span := ⟨start, ← offset⟩
  if c = 'b' then
    match ← edgeName? start with
    | some p => return .place ⟨start, ← offset⟩ p
    | none => return .place span Place.wordEdge
  else
    match controls.lookup c, placeEscapes.lookup c with
    | some d, _ => return .literal { span, char := d }
    | none, some p => return .place span p
    | none, none =>
        if c.toNat < 0x80 && !c.isAlphanum then return .literal { span, char := c }
        else fail .escapeUnknown span

def escaped : Scan Atom := do
  let start ← offset
  bump
  match ← peek with
  | none => fail .escapeUnfinished ⟨start, ← offset⟩
  | some c =>
      if c.isDigit then fail .backreference ⟨start, (← offset) + 1⟩
      else if c = 'x' then return .literal (← numbered start 2)
      else if c = 'u' then return .literal (← numbered start 4)
      else if c = 'U' then return .literal (← numbered start 8)
      else if c = 'p' ∨ c = 'P' then
        let name ← propertyName
        return .named ⟨start, ← offset⟩ (c = 'P') (.property name)
      else if ['d', 's', 'w'].contains c.toLower then
        bump
        return .named ⟨start, ← offset⟩ c.isUpper (.letter c.toLower)
      else simpleEscape start c

def member (c : Char) : Scan Atom := do
  if c = '\\' then escaped
  else
    let span ← charSpan
    bump
    return .literal { span, char := c }

def Atom.toMember : Atom → Scan Members
  | literal l => return .literal l
  | named span negated name => return .named span negated name
  | dot span => fail .classEscape span
  | place span _ => fail .classEscape span

def Atom.toRangeEnd : Atom → Scan Literal
  | literal l => return l
  | a => fail .rangeEnd a.span

def asciiClass? : Scan (Option Members) := do
  let before ← get
  if ← skipped ['[', ':'] then
    let negated ← skipped ['^']
    let name ← while_ (· != ':')
    let closed ← skipped [':', ']']
    match Class.asciiClasses.lookup name with
    | some k =>
        if closed then return some (.named ⟨before.place, ← offset⟩ negated (.ascii k))
        else
          set before
          return none
    | none =>
        set before
        return none
  else return none

-- The character that decides whether a hyphen stands between the ends of a range: the one after it
-- or, where white space means nothing, the next that is none. It may be the first one of a comment.
def afterHyphen (s : Cursor) : Option Char :=
  let after := s.rest.drop 1
  if s.spaced then
    let blank := Unicode.isWhiteSpace
    let found :=
      match after.dropWhile blank with
      | '#' :: t => t.dropWhile blank
      | t => t
    if found.isEmpty then after.head? else found.head?
  else after.head?

def memberOrRange (opened : Span) (c : Char) : Scan Members := do
  let first ← member c
  space
  match ← peek with
  | none => fail .classUnclosed opened
  | some d =>
      let after := afterHyphen (← get)
      if d != '-' || after == some ']' || after == some '-' then first.toMember
      else
        bumpSpace
        match ← peek with
        | none => fail .classUnclosed opened
        | some e =>
            let last ← member e
            let least ← first.toRangeEnd
            let most ← last.toRangeEnd
            if least.char ≤ most.char then return .range least most
            else fail .rangeOrder ⟨least.span.start, most.span.stop⟩

structure ClassDraft where
  start : Nat
  parts : List Members := []
  left : Option (Members × Junction) := none

namespace ClassDraft

def add (d : ClassDraft) (m : Members) : ClassDraft := { d with parts := m :: d.parts }

def last (d : ClassDraft) (stop : Nat) : Members :=
  match d.parts with
  | [m] => m
  | parts => .union ⟨d.start, stop⟩ parts.reverse

def finish (d : ClassDraft) (stop : Nat) : Members :=
  match d.left with
  | none => d.last stop
  | some (left, junction) => .joined ⟨d.start, stop⟩ junction left (d.last stop)

end ClassDraft

def junction? : List (Text × Junction) → Scan (Option Junction)
  | [] => return none
  | (sign, junction) :: signs => do
      if ← skipped sign then return some junction else junction? signs

def leadingMembers (start : Nat) : Scan (List Members) := do
  let hyphens ← loop (fun (hyphens : List Members) => do
    if (← peek) == some '-' then
      let span ← charSpan
      bumpSpace
      if ← atEnd then fail .classUnclosed ⟨start, start⟩
      else return some (.literal { span, char := '-' } :: hyphens)
    else return none) []
  if hyphens.isEmpty && (← peek) == some ']' then
    let span ← charSpan
    bumpSpace
    if ← atEnd then fail .classUnclosed ⟨start, ← offset⟩
    else return [.literal { span, char := ']' }]
  else return hyphens

def brackets : (depth : Nat) → Scan Members
  | 0 => return .union ⟨0, 0⟩ []
  | depth + 1 => do
      let start ← offset
      bumpSpace
      let negated := (← peek) == some '^'
      if negated then bumpSpace
      if ← atEnd then fail .classUnclosed ⟨start, ← offset⟩
      let first ← offset
      let leading ← leadingMembers start
      let opened : Span := ⟨start, ← offset⟩
      let draft ← loop (fun (d : ClassDraft) => do
        space
        match ← peek with
        | none => fail .classUnclosed opened
        | some ']' => return none
        | some '[' =>
            match ← asciiClass? with
            | some m => return some (d.add m)
            | none => return some (d.add (← brackets depth))
        | some c =>
            let stop ← offset
            match ← junction? Junction.signs with
            | some junction =>
                return some { start := d.start, left := some (d.finish stop, junction) }
            | none => return some (d.add (← memberOrRange opened c)))
        { start := first, parts := leading }
      let stop ← offset
      bump
      return .brackets ⟨start, ← offset⟩ negated (draft.finish stop)

structure FlagDraft where
  changes : List (Flag × Bool × Span) := []
  hyphen : Option Span := none
  dangling : Bool := false

def flagOrHyphen (d : FlagDraft) (c : Char) : Scan FlagDraft := do
  let span ← charSpan
  if c = '-' then
    match d.hyphen with
    | some other => throw { cause := .hyphenRepeated, span, other := some other }
    | none => return { d with hyphen := some span, dangling := true }
  else
    match Flag.ofLetter? c with
    | none => fail .flagUnknown span
    | some flag =>
        match d.changes.lookup flag with
        | some (_, other) => throw { cause := .flagRepeated, span, other := some other }
        | none =>
            let changes := (flag, d.hyphen.isNone, span) :: d.changes
            return { d with changes, dangling := false }

def flagChanges : Scan (List (Flag × Bool)) := do
  let read ← loop (fun (d : FlagDraft) => do
    match ← peek with
    | none => return none
    | some c =>
        if c = ':' ∨ c = ')' then return none
        else
          let d ← flagOrHyphen d c
          bump
          if ← atEnd then fail .flagsUnfinished (← here) else return some d) {}
  match read.hyphen, read.dangling with
  | some span, true => fail .hyphenDangling span
  | _, _ => return read.changes.reverse.map fun entry => (entry.1, entry.2.1)

def beginsName (c : Char) : Bool := c == '_' || Unicode.alphabetic.contains c

def goesOnInName (c : Char) : Bool :=
  ['_', '.', '[', ']'].contains c || Unicode.alphabetic.contains c
    || Unicode.numbers.contains c

def groupName : Scan Unit := do
  let start ← offset
  let name ← while_ goesOnInName
  let span : Span := ⟨start, ← offset⟩
  match name.head?.map beginsName, ← peek with
  | some false, _ => fail .nameCharacter ⟨start, start + 1⟩
  | _, none => fail .nameUnfinished (← here)
  | found, some c =>
      if c != '>' then fail .nameCharacter (← charSpan)
      else
        bump
        if found.isNone then fail .nameEmpty ⟨start, start⟩
        else
          match (← get).names.lookup name with
          | some other => throw { cause := .nameRepeated, span, other := some other }
          | none => modify fun s => { s with names := (name, span) :: s.names }

inductive Opening where
  | flags (changes : List (Flag × Bool))
  | group (told : Bool) (changes : List (Flag × Bool))

def opening : Scan Opening := do
  let open_ ← charSpan
  bumpSpace
  let inner ← here
  if ← skippedAny ["?=".toList, "?!".toList, "?<=".toList, "?<!".toList] then
    fail .lookAround ⟨open_.start, ← offset⟩
  else if ← skippedAny ["?P<".toList, "?<".toList] then
    groupName
    return .group true []
  else if ← skipped ['?'] then
    if ← atEnd then fail .groupUnclosed open_
    else
      let changes ← flagChanges
      if ← skipped [')'] then
        if changes.isEmpty then fail .nothingRepeated inner else return .flags changes
      else
        bump
        return .group false changes
  else return .group true []

def count : Scan (Except Fault Nat) := do
  let _ ← while_ Unicode.isWhiteSpace
  let start ← offset
  let digits ← whileSpaced Char.isDigit
  let span : Span := ⟨start, ← offset⟩
  let _ ← loop (fun _ => do
    if (← peek).any Unicode.isWhiteSpace then
      bumpSpace
      return some ()
    else return none) ()
  let number := Unicode.decimalNumber digits
  if digits.isEmpty then return .error { cause := .countEmpty, span }
  else if number < UInt32.size then return .ok number
  else return .error { cause := .number, span }

def counts (start : Nat) : Scan (Nat × Option Nat) := do
  let unclosed : Scan Unit := do
    if ← atEnd then fail .countUnclosed ⟨start, ← offset⟩
  bumpSpace
  unclosed
  let least ← count
  unclosed
  if (← peek) == some ',' then
    bumpSpace
    unclosed
    if (← peek) == some '\x7d' then return (← liftExcept least, none)
    else
      let least ← liftExcept least
      let most ← liftExcept (← count)
      return (least, some most)
  else
    let exactly ← liftExcept least
    return (exactly, some exactly)
where
  liftExcept (found : Except Fault Nat) : Scan Nat :=
    match found with
    | .ok number => return number
    | .error fault => throw fault

def preference : Scan Unit := do
  let _ ← skipped ['?']

def countedRepetition : Scan (Nat × Option Nat) := do
  let start ← offset
  let (least, most) ← counts start
  if (← peek) == some '\x7d' then
    bumpSpace
    preference
    if most.all (least ≤ ·) then return (least, most)
    else fail .countOrder ⟨start, ← offset⟩
  else fail .countUnclosed ⟨start, ← offset⟩

def repetition (c : Char) : Scan (Nat × Option Nat) := do
  if c = '\x7b' then countedRepetition
  else
    bump
    preference
    return if c = '*' then (0, none) else if c = '+' then (1, none) else (0, some 1)

def atom (c : Char) : Scan Atom := do
  let span ← charSpan
  match c with
  | '\\' => escaped
  | '.' =>
      bump
      return .dot span
  | '^' =>
      bump
      return .place span Place.start
  | '$' =>
      bump
      return .place span Place.finish
  | c =>
      bump
      return .literal { span, char := c }

structure Draft where
  start : Nat
  branchStart : Nat
  branches : List Form := []
  parts : List (Nat × Form) := []

namespace Draft

def add (d : Draft) (start : Nat) (r : Form) : Draft := { d with parts := (start, r) :: d.parts }

def branch (d : Draft) (stop : Nat) : Form :=
  match d.parts with
  | [(_, r)] => r
  | parts => .sequence ⟨d.branchStart, stop⟩ (parts.reverse.map Prod.snd)

def split (d : Draft) (stop : Nat) : Draft :=
  { d with branchStart := stop + 1, branches := d.branch stop :: d.branches, parts := [] }

def finish (d : Draft) (stop : Nat) : Form :=
  if d.branches.isEmpty then d.branch stop
  else .choice ⟨d.start, stop⟩ (d.branch stop :: d.branches).reverse

def repeatLast (d : Draft) (c : Char) : Scan Draft := do
  match d.parts with
  | [] => fail .nothingRepeated (← here)
  | (_, .flags _) :: _ => fail .nothingRepeated (← here)
  | (start, body) :: parts =>
      let (least, most) ← repetition c
      return { d with parts := (start, .times ⟨start, ← offset⟩ body least most) :: parts }

def next? (depth : Nat) (inner : Scan Form) (d : Draft) : Scan (Option Draft) := do
  space
  let start ← offset
  match ← peek with
  | none => return none
  | some ')' => return none
  | some '|' =>
      bump
      return some (d.split start)
  | some '[' => return some (d.add start (.brackets (← brackets depth)))
  | some '(' =>
      match ← opening with
      | .flags changes =>
          modify fun s => { s with spaced := (changes.lookup .spaced).getD s.spaced }
          return some (d.add start (.flags changes))
      | .group told changes =>
          let outer := (← get).spaced
          modify fun s => { s with spaced := (changes.lookup .spaced).getD s.spaced }
          let body ← inner
          if ← atEnd then fail .groupUnclosed ⟨start, start + 1⟩
          else
            modify fun s => { s with spaced := outer }
            bump
            return some (d.add start (.group ⟨start, ← offset⟩ told changes body))
  | some c =>
      if ['?', '*', '+', '\x7b'].contains c then return some (← d.repeatLast c)
      else return some (d.add start (.atom (← atom c)))

end Draft

def form : (depth : Nat) → Scan Form
  | 0 => return .sequence ⟨0, 0⟩ []
  | depth + 1 => do
      let begun ← offset
      let draft ← loop (Draft.next? (depth + 1) (form depth)) { start := begun, branchStart := begun }
      return draft.finish (← offset)

def wholeForm : Scan Form := do
  let r ← form ((← get).rest.length + 1)
  if ← atEnd then return r else fail .groupUnopened (← charSpan)

def Form.ofText (t : Text) : Except Fault Form :=
  match wholeForm { rest := t } with
  | .error fault => .error fault
  | .ok (r, _) =>
      match r.tooDeep? depthLimit with
      | none => .ok r
      | some span => .error { cause := .tooDeep, span }

end WildcardRules.Regex
