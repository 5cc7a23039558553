import SqlShell.Launch.Option

/-! # The Command Line

    A command line is a list of words.  First each word is classified, then
    the options are taken one by one with their values.

    - A long option may be shortened as long as no other one begins so, and its
      value may follow an equals sign.
    - A short option may be followed at once by its value, or, if it takes
      none, by further short options.
    - A word after `--` is never an option; nor is a negative number, a single
      dash, or a word with a blank that is no option.
    - The mark `--` joined to an option gives it nothing. -/

namespace SqlShell

/-! ## Classification -/

/-- An option as it is used in a word: `value` is what the word itself gives as
    its value. -/
structure OptionUse where
  option : OptionName
  long : Bool
  value : Option Text
deriving DecidableEq, Repr

/-- **The classes of words.** -/
inductive Word where
  /-- No option. -/
  | plain
  /-- The mark behind which there are no options. -/
  | mark
  /-- An option. -/
  | option (u : OptionUse)
  /-- Something that looks like an option and is none. -/
  | unknown
deriving DecidableEq, Repr

namespace CommandLine

/-- What stands before the first equals sign, and what stands behind it. -/
def splitValue (word : Text) : Text × Option Text :=
  match word.dropWhile (· ≠ '=') with
  | [] => (word, none)
  | _ :: value => (word.takeWhile (· ≠ '='), some value)

/-- The text is a long option: it begins with two dashes. -/
def isLong : Text → Bool
  | '-' :: '-' :: _ => true
  | _ => false

/-- A run of digits that is not empty, up to the end or a last line feed. -/
def isDigits (s : Text) : Bool :=
  let digits := match s.reverse with
    | '\n' :: r => r
    | r => r
  !digits.isEmpty && digits.all fun c => (digitValue? c).isSome

/-- The word is a negative number: a dash and digits, with at most one point
    that digits follow. -/
def isNegativeNumber : Text → Bool
  | '-' :: r =>
    isDigits r ||
      match r.dropWhile fun c => (digitValue? c).isSome with
      | '.' :: decimals => isDigits decimals
      | _ => false
  | _ => false

/-- The options that a word may mean by a part of its name, with the ways to
    write them. -/
def candidates (word : Text) : List (Text × OptionUse) :=
  if isLong word then
    let (name, value) := splitValue word
    (OptionName.table.filter fun (flag, _) => name.isPrefixOf flag).map fun (flag, o) =>
      (flag, ⟨o, true, value⟩)
  else
    (OptionName.table.filter fun (flag, _) => flag = word.take 2).map fun (flag, o) =>
      (flag, ⟨o, false, some (word.drop 2)⟩)

/-- **The class of a word.** -/
def wordClass (word : Text) : Except Refusal Word :=
  if word.head? ≠ some '-' then .ok .plain
  else match OptionName.ofFlag? word with
    -- A whole name counts before all others, also if it is the beginning of one.
    | some o => .ok (.option ⟨o, isLong word, none⟩)
    | none =>
      if word.length = 1 then .ok .plain
      else
        let (name, value) := splitValue word
        match value, OptionName.ofFlag? name with
        | some value, some o => .ok (.option ⟨o, isLong name, some value⟩)
        | _, _ =>
          match candidates word with
          | [(_, u)] => .ok (.option u)
          | [] =>
            -- A word with a space in it is taken for a value, dash or no dash.
            .ok (if isNegativeNumber word || word.contains ' ' then .plain else .unknown)
          | several =>
            .error (.usage ("ambiguous option: ".toList ++ word ++ " could match ".toList
              ++ Text.joinWith ", ".toList (several.map Prod.fst)))

/-- The words of a command line with their classes. -/
def wordClasses : List Text → Except Refusal (List (Text × Word))
  | [] => .ok []
  | word :: r =>
    -- Nothing behind the mark is an option.
    if word = "--".toList then .ok ((word, .mark) :: r.map fun w => (w, .plain))
    else do
      let c ← wordClass word
      let others ← wordClasses r
      pure ((word, c) :: others)

/-! ## Taking options -/

/-- What an option word means: options without a value, and what comes last. -/
structure Unfolded where
  simple : List OptionName := []
  /-- An option with its value; without one the next word is its value. -/
  last : Option (OptionName × Option Text) := none
deriving DecidableEq, Repr

/-- Adds an option without a value in front. -/
def Unfolded.cons (o : OptionName) (u : Unfolded) : Unfolded :=
  { u with simple := o :: u.simple }

/-- The refusal of a value for an option that takes none. -/
def ignored (o : OptionName) (value : Text) : Refusal :=
  .about o ("ignored explicit argument ".toList ++ Text.quoted value)

/-- **Takes a group of short options apart**: the word goes on with `text` behind
    the option `o`.  That is the value of an option that takes one; behind any
    other option each letter is an option again. -/
def unfoldGroup (o : OptionName) (text : Text) : Except Refusal Unfolded :=
  if o.takesValue then .ok { last := some (o, some text) }
  else match text with
    | [] => .error (ignored o [])
    | c :: r =>
      match OptionName.ofFlag? ['-', c] with
      | none => .error (ignored o (c :: r))
      | some o' =>
        if r.isEmpty then
          .ok (if o'.takesValue then { simple := [o], last := some (o', none) }
            else { simple := [o, o'] })
        else (unfoldGroup o' r).map (.cons o)

/-- What an option word means. -/
def unfold (u : OptionUse) : Except Refusal Unfolded :=
  match u.value with
  | none => .ok (if u.option.takesValue then { last := some (u.option, none) }
      else { simple := [u.option] })
  | some value =>
    if u.long then
      if u.option.takesValue then .ok { last := some (u.option, some value) }
      else .error (ignored u.option value)
    else unfoldGroup u.option value

/-- Takes options without values into account. -/
def giveAll (c : Choices) : List OptionName → Except Refusal Choices
  | [] => .ok c
  | o :: r => (c.give o none).bind fun c => giveAll c r

/-- **Takes the options** of classified words into account; `extras` holds,
    backwards, the words that mean nothing. -/
def take (c : Choices) (extras : List Text) :
    List (Text × Word) → Except Refusal (Choices × List Text)
  | [] => .ok (c, extras.reverse)
  | (word, .plain) :: r => take c (word :: extras) r
  | (word, .mark) :: r => take c (word :: extras) r
  | (word, .unknown) :: r => take c (word :: extras) r
  | (_, .option u) :: r => do
    let meant ← unfold u
    match meant.last with
    | none =>
      let c ← giveAll c meant.simple
      take c extras r
    | some (o, some value) =>
      let c ← giveAll c meant.simple
      -- A value in the same word may be one that gives nothing; a word of its own may not.
      let c ← c.give o (Given.ofWord value)
      take c extras r
    | some (o, none) =>
      match r with
      | (value, .plain) :: r' =>
        let c ← giveAll c meant.simple
        let c ← c.give o (some value)
        take c extras r'
      | _ => .error (.about o "expected one argument".toList)

/-- **Reads a command line.** -/
def parse (words : List Text) : Except Refusal Choices := do
  let classified ← wordClasses words
  let (c, extras) ← take {} [] classified
  if extras.isEmpty then pure c
  else .error (.usage ("unrecognized arguments: ".toList ++ Text.joinWith [' '] extras))

end CommandLine

end SqlShell
