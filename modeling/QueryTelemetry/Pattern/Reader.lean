import QueryTelemetry.Pattern.Sign

/-!
# The written form of patterns

Patterns are written with the usual signs: `.` for any character but a line break, sets in
brackets, groups in parentheses, `|` between alternatives, and `*`, `+`, `?` and counts in braces
after what they repeat; a further `?` makes a repetition take as little as it can, a further `+`
makes it keep what it took. The backslash gives classes of characters, boundaries, earlier groups,
codes and plain signs. A question mark after a parenthesis gives groups with names, groups without
numbers, looks ahead and back, conditions, comments and flags.
-/

namespace QueryTelemetry

open Text (LetterCase)

/-- What may be repeated: anything but conditions on a place and what is repeated already. -/
inductive Repeatable where
  | yes
  | anchored
  | repeated
deriving DecidableEq, Repr

/-- A part of an alternative, and the place where it begins. -/
structure PatternPart where
  start : Nat
  pattern : Pattern
  repeatable : Repeatable

/-- A pattern that was read, with the number of its groups and their names. -/
structure ReadPattern where
  pattern : Pattern
  groups : Nat
  names : List (String × Nat)

namespace Width

/-- The width of two patterns one after the other. -/
def add (a b : Width) : Width where
  least := a.least + b.least
  most := a.most.bind fun m => b.most.map (m + ·)

/-- The width of one of two patterns. -/
def either (a b : Width) : Width where
  least := min a.least b.least
  most := a.most.bind fun m => b.most.map (max m)

/-- The width of a repeated pattern. -/
def times (least : Nat) (most : Option Nat) (w : Width) : Width where
  least := least * w.least
  most :=
    match most with
    | some m => if m = 0 then some 0 else w.most.map (m * ·)
    | none => if w.most = some 0 then some 0 else none

end Width

/-- The width of a pattern, given those of the groups before it. -/
def Pattern.width (groups : List (Nat × Width)) : Pattern → Width
  | .empty | .anchor _ | .look .. => ⟨0, some 0⟩
  | .set _ => ⟨1, some 1⟩
  | .sequence p q => (p.width groups).add (q.width groups)
  | .either p q | .given _ p q => (p.width groups).either (q.width groups)
  | .group _ p | .once p => p.width groups
  | .times _ least most p => (p.width groups).times least most
  | .again _ number => (groups.lookup number).getD ⟨0, some 0⟩

namespace Reading

/-- Refuse the text, when it is read as a whole, for what begins at a place. -/
def refuseLater (start : Nat) (cause : Malformed.Cause) : Reading Unit :=
  modify fun s => { s with late := (start, cause) :: s.late }

/-- How letters are compared at this place. -/
def letters : Reading LetterCase := return (← get).mode.letters

/-! ## Sets -/

/-- A member of a set as it is written. -/
inductive SetMember where
  | code (n : Nat)
  | range (first last : Nat)
  | kind (k : CharKind) (ascii negated : Bool)
deriving DecidableEq, Repr

/-- The first code beyond the plane of the usual characters. -/
def farCode : Nat := 65536

/-- The character of a code, as items of a set. -/
def codeItems (n : Nat) : List CharItem :=
  if Nat.isValidChar n then [.one (Char.ofNat n)] else []

/-- The characters from one code to another, as items of a set. Where letters have two cases, a range
that reaches beyond the usual characters holds also what has its capital in the range. -/
def rangeItems (letters : LetterCase) (first last : Nat) : List CharItem :=
  let part (a b : Nat) : List CharItem :=
    if b < a then []
    else if letters = .exact ∨ last < farCode then [.range (Char.ofNat a) (Char.ofNat b)]
    else [.range (Char.ofNat a) (Char.ofNat b), .capital (Char.ofNat a) (Char.ofNat b)]
  part first (min last 55295) ++ part (max first 57344) last

/-- A member of a set of several members as items. Where case is ignored, the members are compared
with small letters; the usual capitals are made small for that, and the others are never found. -/
def SetMember.items (letters : LetterCase) : SetMember → List CharItem
  | .code n =>
    let c := Char.ofNat n
    if letters = .ignored ∧ farCode ≤ n ∧ Text.lowerChar c ≠ c then [] else codeItems n
  | .range first last => rangeItems letters first last
  | .kind k ascii negated => [.kind k ascii negated]

/-- The set of the members. -/
def setOf (letters : LetterCase) (negated : Bool) (members : List SetMember) : Pattern :=
  match members.eraseDups with
  | [.code n] => .set { negated, items := codeItems n, letters }
  | members => .set { negated, items := members.flatMap (SetMember.items letters), letters }

/-- The code that two or three octal digits give in a set. -/
def octalMember (c : Char) : Reading Nat := do
  let more ← takeWhile isOctal 2
  let code := ofOctal (c :: more.toList)
  if code ≤ 255 then return code
  else failBack (more.length + 2) (.largeOctal (String.ofList ['\\', c] ++ more))

/-- The member of a set that a sign gives. -/
def setMember : Sign → Reading SetMember
  | .plain c => return .code c.toNat
  | .escaped c => do
    match kind? c with
    | some (k, negated) => return .kind k (← get).mode.ascii negated
    | none =>
      if c = 'b' then return .code 8
      else if isOctal c then return .code (← octalMember c)
      else return .code (← plainCode c)

/-- The members of a set after those in `members`, up to its closing bracket. -/
def setMembers (start : Nat) : Nat → Bool → List SetMember → Reading (List SetMember)
  | 0, _, _ => failAt start .openSet
  | fuel + 1, started, members => do
    match ← take with
    | none => failAt start .openSet
    | some sign =>
      if started && sign = .plain ']' then return members
      else
        let first ← setMember sign
        if ← accept '-' then
          match ← take with
          | none => failAt start .openSet
          | some (.plain ']') => return members ++ [first, .code '-'.toNat]
          | some other =>
            let refused : Reading (List SetMember) :=
              failBack (sign.length + 1 + other.length) (.badRange sign.text other.text)
            match first, ← setMember other with
            | .code a, .code b =>
              if b < a then refused
              else setMembers start fuel true (members ++ [.range a b])
            | _, _ => refused
        else setMembers start fuel true (members ++ [first])

/-- A set after its opening bracket. -/
def readSet (start : Nat) : Reading Pattern := do
  let negated ← accept '^'
  let members ← setMembers start ((← get).rest.length + 1) false []
  return setOf (← letters) negated members

/-! ## Escapes -/

/-- A code as a pattern. -/
def codePattern (n : Nat) : Reading Pattern := return setOf (← letters) false [.code n]

/-- Refuse to ask for a group that is not complete; the text that asks for it began `length`
characters before. -/
def checkGroup (number length : Nat) : Reading Unit := do
  if ((← get).widths.lookup number).isNone then failBack length .openGroup

/-- Refuse to ask inside a look back for a group that is open or part of the look back. -/
def checkLook (number : Nat) : Reading Unit := do
  match (← get).lookFrom with
  | some known => do
    checkGroup number 0
    if known < number then failBack 0 .groupInsideLook
  | none => return ()

/-- An escape that starts with a digit other than zero: an octal code of three digits, or an
earlier group. -/
def digitEscape (c : Char) : Reading Pattern := do
  let second ← takeWhile Char.isDigit 1
  let digits := c :: second.toList
  let third ←
    if second.isEmpty || !digits.all isOctal then pure "" else takeWhile isOctal 1
  if third.isEmpty then
    let number := Text.ofDigits (digits.map fun d => d.toNat - 48)
    if (← get).opened < number then failBack digits.length (.noGroup number)
    else
      checkGroup number (digits.length + 1)
      checkLook number
      return .again (← letters) number
  else
    let code := ofOctal (digits ++ third.toList)
    if code ≤ 255 then codePattern code
    else failBack 4 (.largeOctal (String.ofList ('\\' :: digits) ++ third))

/-- What an escape outside a set means, and whether it may be repeated. -/
def escape (c : Char) : Reading (Pattern × Repeatable) := do
  let ascii := (← get).mode.ascii
  match c with
  | 'A' => return (.anchor .textStart, .anchored)
  | 'Z' => return (.anchor .textEnd, .anchored)
  | 'b' => return (.anchor (.boundary ascii false), .anchored)
  | 'B' => return (.anchor (.boundary ascii true), .anchored)
  | '0' => return (← codePattern (ofOctal (← takeWhile isOctal 2).toList), .yes)
  | _ =>
    match kind? c with
    | some (k, negated) => return (setOf (← letters) false [.kind k ascii negated], .yes)
    | none =>
      if c.isDigit then return (← digitEscape c, .yes)
      else return (← codePattern (← plainCode c), .yes)

/-! ## Repetitions -/

/-- The number of rounds from which on a count is refused. -/
def countLimit : Nat := 4294967295

/-- A written count, when there is one. -/
def readCount (digits : String) : Reading (Option Nat) :=
  let n := Text.ofDigits (digits.toList.map fun d => d.toNat - 48)
  if digits.isEmpty then return none
  else if Text.digitLimit < digits.length then
    throw { cause := .longCount digits.length, position := none }
  else if countLimit ≤ n then throw { cause := .largeCount, position := none }
  else return some n

/-- The counts in braces, after the opening one; without counts the brace means itself, and nothing
is passed. -/
def bracedCounts : Reading (Option (Nat × Option Nat)) := do
  let start ← get
  let length := start.rest.length
  if (← peek) = some (.plain '\x7d') then return none
  let first ← takeWhile Char.isDigit length
  let last ← if ← accept ',' then takeWhile Char.isDigit length else pure first
  if ← accept '\x7d' then
    let least := (← readCount first).getD 0
    let most ← readCount last
    match most with
    | some m => if m < least then failAt start.position .reversedCounts
    | none => pure ()
    return some (least, most)
  else
    set start
    return none

/-- The counts that a sign for a repetition gives. -/
def counts (c : Char) : Reading (Option (Nat × Option Nat)) := do
  match c with
  | '*' => return some (0, none)
  | '+' => return some (1, none)
  | '?' => return some (0, some 1)
  | _ => bracedCounts

/-- The parts, the last one first, with the last one repeated. -/
def repeated (start least : Nat) (most : Option Nat) :
    List PatternPart → Reading (List PatternPart)
  | [] => failAt start .nothingToRepeat
  | part :: others => do
    match part.repeatable with
    | .anchored => failAt start .nothingToRepeat
    | .repeated => failAt start .repeatedTwice
    | .yes =>
      let p := part.pattern
      let reluctant ← accept '?'
      let kept ← if reluctant then pure false else accept '+'
      if (← get).flags.contains 't' then
        refuseLater part.start (.repetition
          (if kept then "POSSESSIVE_REPEAT" else if reluctant then "MIN_REPEAT" else "MAX_REPEAT"))
      let pattern : Pattern :=
        if kept then .once (.times true least most (.once p))
        else .times (!reluctant) least most p
      return { part with pattern, repeatable := .repeated } :: others

/-! ## Flags -/

/-- The flags, by their letters. -/
def flagLetters : List Char := ['i', 'L', 'm', 's', 'x', 'a', 't', 'u']

/-- The flags for the kind of letters, of which only one may be given. -/
def kindLetters : List Char := ['a', 'L', 'u']

/-- Refuse what stands in the place of a flag. -/
def refuseFlag {α : Type} (sign : Sign) (what : String) : Reading α :=
  match sign with
  | .plain c =>
    failBack 1 (if Text.isLetter c then .unknownFlag else .missing what)
  | .escaped _ => failBack 2 (.missing what)

/-- The flags that are set, the first being `c`, and the sign after them. -/
def flagsOn : Nat → Char → List Char → Reading (List Char × Char)
  | 0, _, _ => failBack 0 (.missing "-, : or )")
  | fuel + 1, c, on => do
    if c = 'L' then failBack 0 (.flags .locale)
    else if kindLetters.contains c && on.any (fun d => kindLetters.contains d && d != c) then
      failBack 0 (.flags .incompatible)
    else
      match ← take with
      | none => failBack 0 (.missing "-, : or )")
      | some sign =>
        match sign with
        | .plain e =>
          if [')', '-', ':'].contains e then return (c :: on, e)
          else if flagLetters.contains e then flagsOn fuel e (c :: on)
          else refuseFlag sign "-, : or )"
        | .escaped _ => refuseFlag sign "-, : or )"

/-- The flags that are taken away, up to the colon after them. -/
def flagsOff : Nat → Char → List Char → Reading (List Char)
  | 0, _, _ => failBack 0 (.missing ":")
  | fuel + 1, c, off => do
    if kindLetters.contains c then failBack 0 (.flags .kindOff)
    else
      match ← take with
      | none => failBack 0 (.missing ":")
      | some sign =>
        match sign with
        | .plain e =>
          if e = ':' then return c :: off
          else if flagLetters.contains e then flagsOff fuel e (c :: off)
          else refuseFlag sign ":"
        | .escaped _ => refuseFlag sign ":"

/-- The first of the flags that are taken away, and the others. -/
def readFlagsOff : Reading (List Char) := do
  match ← take with
  | none => failBack 0 (.missing "flag")
  | some sign =>
    match sign with
    | .plain c =>
      if flagLetters.contains c then flagsOff ((← get).rest.length + 1) c []
      else refuseFlag sign "flag"
    | .escaped _ => refuseFlag sign "flag"

/-- The flags of a group, of which the first sign is `c`: those that are set, and those that are
taken away, when they are meant for the group alone. -/
def readFlags (c : Char) : Reading (List Char × Option (List Char)) := do
  let (on, last) ←
    if c = '-' then pure ([], '-') else flagsOn ((← get).rest.length + 1) c []
  if last = ')' then return (on, none)
  else if on.contains 't' then failBack 1 (.flags .globalOn)
  else
    let off ← if last = '-' then readFlagsOff else pure []
    if off.contains 't' then failBack 1 (.flags .globalOff)
    else if on.any off.contains then failBack 1 (.flags .onAndOff)
    else return (on, some off)

/-- A mode with flags set and taken away. -/
def switch (mode : ReadMode) (on off : List Char) : ReadMode :=
  let flag (c : Char) (before : Bool) : Bool := (before || on.contains c) && !off.contains c
  { byLine := flag 'm' mode.byLine, anyChar := flag 's' mode.anyChar
    spaced := flag 'x' mode.spaced, ignoresCase := flag 'i' mode.ignoresCase
    ascii := on.contains 'a' || (mode.ascii && !on.contains 'u') }

/-- Read in another mode, and go on in the one before. -/
def withMode {α : Type} (mode : ReadMode) (read : Reading α) : Reading α := do
  let before := (← get).mode
  modify fun s => { s with mode }
  let r ← read
  modify fun s => { s with mode := before }
  return r

/-! ## Groups -/

/-- The pattern of the parts, the last one first. -/
def joined (parts : List PatternPart) : Pattern := .inOrder (parts.reverse.map (·.pattern))

/-- Open a group, which may have a name. -/
def openGroup (name : Option String) : Reading Nat := do
  let s ← get
  let number := s.opened + 1
  match name with
  | none => set { s with opened := number }
  | some n =>
    match s.names.lookup n with
    | some earlier => failBack (n.length + 1) (.takenName n number earlier)
    | none => set { s with opened := number, names := (n, number) :: s.names }
  return number

/-- Pass a comment up to the closing parenthesis. -/
def skipComment (start : Nat) : Nat → Reading Unit
  | 0 => failAt start .openComment
  | fuel + 1 => do
    match ← take with
    | none => failAt start .openComment
    | some sign => if sign = .plain ')' then return () else skipComment start fuel

/-- Pass a comment up to the end of the line. -/
def skipLine : Nat → Reading Unit
  | 0 => return ()
  | fuel + 1 => do
    match ← take with
    | none => return ()
    | some sign => if sign = .plain '\n' then return () else skipLine fuel

/-- The closing parenthesis of what began at a place. -/
def close (start : Nat) : Reading Unit := do
  if !(← accept ')') then failAt start .openBracket

/-- The number of groups from which on a number is refused at once. -/
def groupLimit : Nat := 1073741823

/-- The number of the group that a condition asks for, by its name or number. -/
def condition (name : String) : Reading Nat := do
  if Text.isIdentifier name then
    match (← get).names.lookup name with
    | some number => return number
    | none => failBack (name.length + 1) (.unknownName name)
  else
    let number ← groupNumber name
    if number = 0 then failBack (name.length + 1) .groupZero
    else if groupLimit ≤ number then failBack (name.length + 1) (.noGroup number)
    else
      modify fun s =>
        if (s.asked.lookup number).isSome then s
        else { s with asked := s.asked ++ [(number, s.position - name.length - 1)] }
      return number

/-- An earlier group by its name, after the equality sign. -/
def againByName : Reading Pattern := do
  let name ← takeName ')' "group name"
  checkName name
  match (← get).names.lookup name with
  | none => failBack (name.length + 1) (.unknownName name)
  | some number =>
    checkGroup number (name.length + 1)
    checkLook number
    return .again (← letters) number

/-- The greatest number of characters that a look back may go back. -/
def lookLimit : Nat := 4294967295

/-- A pattern as a look back that began at a place; without a fixed width it will be refused. -/
def lookBack (start : Nat) (negated : Bool) (p : Pattern) : Reading Pattern := do
  let w := p.width (← get).widths
  if lookLimit < w.least then refuseLater start .farLook
  else if w.most ≠ some w.least then refuseLater start .variableLook
  return .look w.least negated p

/-- A sign that stands for itself, for an anchor, a set or a repetition, after the parts before. -/
def simpleSign (start : Nat) (parts : List PatternPart) : Sign → Reading (List PatternPart)
  | .escaped c => do
    let (pattern, repeatable) ← escape c
    return { start, pattern, repeatable } :: parts
  | .plain c => do
    let mode := (← get).mode
    let part (pattern : Pattern) (repeatable : Repeatable) : List PatternPart :=
      { start, pattern, repeatable } :: parts
    match c with
    | '[' => return part (← readSet start) .yes
    | '.' =>
      let items := if mode.anyChar then [] else [CharItem.one '\n']
      return part (.set { negated := true, items, letters := .exact }) .yes
    | '^' => return part (.anchor (if mode.byLine then .lineStart else .textStart)) .anchored
    | '$' => return part (.anchor (if mode.byLine then .lineEnd else .lastLineEnd)) .anchored
    | _ =>
      if ['*', '+', '?', '\x7b'].contains c then
        match ← counts c with
        | some (least, most) => repeated start least most parts
        | none => return part (.char mode.letters c) .yes
      else return part (.char mode.letters c) .yes

mutual

/-- The alternatives at this place; `outermost` says whether they begin the text. -/
def alternatives : Nat → Bool → Reading Pattern
  | 0, _ => failBack 0 .endOfText
  | fuel + 1, outermost => do
    let p ← parts fuel outermost []
    if ← accept '|' then return .either p (← alternatives fuel false) else return p

/-- The parts of an alternative after the ones before, the last one first. -/
def parts : Nat → Bool → List PatternPart → Reading Pattern
  | 0, _, _ => failBack 0 .endOfText
  | fuel + 1, outermost, before => do
    let s ← get
    match ← peek with
    | none | some (.plain '|') | some (.plain ')') => return joined before
    | some sign =>
      discard take
      if s.mode.spaced && [' ', '\t', '\n', '\r', Char.ofNat 11, Char.ofNat 12].any
          (fun c => sign = .plain c) then
        parts fuel outermost before
      else if s.mode.spaced && sign = .plain '#' then
        skipLine (s.rest.length + 1)
        parts fuel outermost before
      else if sign = .plain '(' then
        match ← bracket fuel s.position (outermost && before.isEmpty) with
        | some pattern =>
          parts fuel outermost ({ start := s.position, pattern, repeatable := .yes } :: before)
        | none => parts fuel outermost before
      else parts fuel outermost (← simpleSign s.position before sign)

/-- A numbered group, after its opening. -/
def numbered : Nat → Nat → Option String → Reading Pattern
  | 0, start, _ => failAt start .openBracket
  | fuel + 1, start, name => do
    let number ← openGroup name
    let p ← alternatives fuel false
    close start
    modify fun s => { s with widths := (number, p.width s.widths) :: s.widths }
    return .group number p

/-- A look back, after its opening. -/
def behind : Nat → Nat → Bool → Reading Pattern
  | 0, start, _ => failAt start .openBracket
  | fuel + 1, start, negated => do
    let outer := (← get).lookFrom
    modify fun s => { s with lookFrom := some (outer.getD s.opened) }
    let p ← alternatives fuel false
    modify fun s => { s with lookFrom := outer }
    close start
    lookBack start negated p

/-- What depends on whether a group took part, after its opening. -/
def conditional : Nat → Nat → Reading Pattern
  | 0, start => failAt start .openBracket
  | fuel + 1, start => do
    let number ← condition (← takeName ')' "group name")
    checkLook number
    let yes ← parts fuel false []
    let no ←
      if ← accept '|' then
        let q ← parts fuel false []
        if (← peek) = some (.plain '|') then failBack 0 .manyBranches
        pure q
      else pure .empty
    close start
    return .given number yes no

/-- What stands after an opening parenthesis; comments and flags for the rest give nothing. Flags
for the rest may only be given when the pattern is `fresh`. -/
def bracket : Nat → Nat → Bool → Reading (Option Pattern)
  | 0, start, _ => failAt start .openBracket
  | fuel + 1, start, fresh => do
    if !(← accept '?') then return some (← numbered fuel start none)
    match ← take with
    | none => failBack 0 .endOfText
    | some sign =>
      match sign with
      | .plain 'P' =>
        if ← accept '<' then
          let name ← takeName '>' "group name"
          checkName name
          return some (← numbered fuel start (some name))
        else if ← accept '=' then return some (← againByName)
        else
          match ← take with
          | none => failBack 0 .endOfText
          | some other => failBack (other.length + 2) (.unknownExtension ("P" ++ other.text))
      | .plain ':' =>
        let p ← alternatives fuel false
        close start
        return some p
      | .plain '>' =>
        let p ← alternatives fuel false
        close start
        return some (.once p)
      | .plain '#' =>
        skipComment start ((← get).rest.length + 1)
        return none
      | .plain '=' =>
        let p ← alternatives fuel false
        close start
        return some (.look 0 false p)
      | .plain '!' =>
        let p ← alternatives fuel false
        close start
        return some (.look 0 true p)
      | .plain '<' =>
        match ← take with
        | none => failBack 0 .endOfText
        | some (.plain '=') => return some (← behind fuel start false)
        | some (.plain '!') => return some (← behind fuel start true)
        | some other => failBack (other.length + 2) (.unknownExtension ("<" ++ other.text))
      | .plain '(' => return some (← conditional fuel start)
      | .plain c =>
        if flagLetters.contains c || c = '-' then
          let (on, off) ← readFlags c
          let mode := (← get).mode
          match off with
          | none =>
            if !fresh then failAt start .lateFlags
            modify fun s => { s with mode := switch mode on [], flags := on ++ s.flags }
            return none
          | some off =>
            -- The group stays a sequence, so that a set in it is not taken for one of the parts of
            -- an alternative around it, whose flags it need not share.
            withMode (switch mode on off) do
              let p ← alternatives fuel false
              close start
              return some (.sequence p .empty)
        else failBack 2 (.unknownExtension c.toString)
      | .escaped _ => failBack 3 (.unknownExtension sign.text)

end

/-- The set of the characters with which every match begins, where that is plain to see: sets are
joined when they are alternatives without flags of their own. -/
def opening? : Pattern → Option CharSet
  | .set chars => some chars
  | .sequence p _ | .group _ p => opening? p
  | .either (.set a) (.set b) =>
    if a.negated || b.negated then none else some { a with items := a.items ++ b.items }
  | _ => none

/-- Whether an item holds letters that have two cases. -/
def hasCase (letters : LetterCase) : CharItem → Bool
  | .one c => letters.varies c
  | .range first last | .capital first last =>
    decide (farCode ≤ last.toNat) ||
      (List.range (last.toNat + 1 - first.toNat)).any fun n =>
        letters.varies (Char.ofNat (first.toNat + n))
  | .kind .. => false

/-- An item with its kind meant among the characters of ASCII or among all. -/
def inMode (ascii : Bool) : CharItem → CharItem
  | .kind k _ negated => .kind k ascii negated
  | item => item

/-- A pattern for which flags were given as a whole. A set at the very beginning that has no cases is
also meant as these flags say, whatever they are at its own place. -/
def flagged (flags : List Char) (p : Pattern) : Pattern :=
  match opening? p with
  | some chars =>
    let items := chars.items.map (inMode (flags.contains 'a'))
    if items = chars.items || chars.items.any (hasCase chars.letters) then p
    else .sequence (.look 0 false (.set { chars with items })) p
  | none => p

/-- A whole text as a pattern. -/
def whole : Reading ReadPattern := do
  let pattern ← alternatives (4 * (← get).rest.length + 4) true
  let s ← get
  if s.flags.contains 'a' && s.flags.contains 'u' then
    throw { cause := .flagsClash, position := none }
  if !s.rest.isEmpty then failBack 0 .closedTwice
  match s.asked.find? fun e => s.opened < e.1 with
  | some (number, position) => failAt position (.noGroup number)
  | none => pure ()
  match s.late.find? fun e => s.late.all fun other => e.1 ≤ other.1 with
  | some (_, cause) => throw { cause, position := none }
  | none => pure ()
  return { pattern := flagged s.flags pattern, groups := s.opened, names := s.names }

end Reading

/-- The pattern that a text describes. -/
def ReadPattern.ofText (s : String) : Except Malformed ReadPattern := Reading.whole.run s

end QueryTelemetry
