/-
  Rulebook.Terminal.Grammar

  Command lines.  A grammar has flags, which start with a dash and may stand anywhere, and
  operands, which are known by their place.  A flag with a long name may be abbreviated as long as
  one flag alone fits, and its value may be attached with an equals sign; flags of one letter may
  be written as a cluster behind one dash.  After a double dash everything is an operand.

  A double dash among the arguments of a flag or an operand does not count as one of them.  Where
  it is the only one, the flag or the operand is given without a value: it is left blank.
-/
import Rulebook.Record
import Rulebook.Text.Digits

namespace Rulebook.Terminal

/-- Why the reading of a command line stops. -/
inductive Stop where
  /-- the user asked for help -/
  | help
  /-- the command line does not fit the grammar -/
  | misuse
deriving DecidableEq, Repr

/-- What a flag is for. -/
inductive Use where
  | switch
  | value
  | help
deriving DecidableEq, Repr

/-- A flag. -/
structure Flag where
  key : String
  /-- its names, with their dashes -/
  names : List String
  use : Use
deriving DecidableEq, Repr

/-- What a command line has given: texts by key, the empty text for a switch, and none for what was
left blank. -/
structure Given where
  values : Record String (Option String) := []
  /-- whether there was something that the grammar has no place for -/
  unexpected : Bool := false
deriving DecidableEq, Repr

/-- What has been given, and a text for a key, or none if it was left blank. -/
def Given.put (g : Given) (key : String) (text : Option String) : Given :=
  { g with values := g.values.put key text }

/-! ## Tokens -/

/-- What an argument is. -/
inductive Mark where
  | plain
  /-- the first double dash -/
  | separator
  /-- a flag by one of its names, or an unknown one, and what is attached to it -/
  | option (flag : Option Flag) (name : String) (attached : Option String)
deriving DecidableEq, Repr

/-- An argument, and what it is. -/
structure Token where
  text : String
  mark : Mark
deriving DecidableEq, Repr

namespace Token

/-- Whether an argument is the first double dash. -/
def isSeparator (t : Token) : Bool :=
  t.mark = .separator

/-- Whether an argument is a flag. -/
def isOption (t : Token) : Bool :=
  match t.mark with
  | .option .. => true
  | _ => false

end Token

/-- The flag with a name. -/
def flag? (flags : List Flag) (name : String) : Option Flag :=
  flags.find? fun f => f.names.contains name

/-- Every name of every flag. -/
def named (flags : List Flag) : List (Flag × String) :=
  flags.flatMap fun f => f.names.map fun name => (f, name)

/-- What stands before the first equals sign, and what stands after it. -/
def splitEquals : List Char → List Char × Option (List Char)
  | [] => ([], none)
  | c :: cs =>
    if c = '=' then ([], some cs)
    else
      let (stem, attached) := splitEquals cs
      (c :: stem, attached)

/-- The flags that an argument may abbreviate, or may be a cluster of. -/
def fitting (flags : List Flag) (arg : List Char) : List Mark :=
  match arg with
  | '-' :: '-' :: _ =>
    let (stem, attached) := splitEquals arg
    (named flags).filterMap fun (f, name) =>
      if stem.isPrefixOf name.toList then
        some (.option (some f) name (attached.map String.ofList))
      else none
  | '-' :: c :: rest =>
    (named flags).filterMap fun (f, name) =>
      if name.toList = ['-', c] then some (.option (some f) name (some (String.ofList rest)))
      else if arg.isPrefixOf name.toList then some (.option (some f) name none)
      else none
  | _ => []

/-- Whether a text after a dash makes a negative number: digits, or digits with a point in front
of the last ones.  One line break at the end does not count. -/
def isNumber (cs : List Char) : Bool :=
  let cs := if cs.getLast? = some '\n' then cs.dropLast else cs
  match cs.dropWhile Text.isDigit with
  | [] => cs ≠ []
  | '.' :: places => places ≠ [] && places.all Text.isDigit
  | _ => false

/-- The flag that an argument names in full, with what is attached by an equals sign. -/
def inFull? (flags : List Flag) (arg : String) : Option Mark :=
  match flag? flags arg with
  | some f => some (.option (some f) arg none)
  | none =>
    match splitEquals arg.toList with
    | (_, none) => none
    | (name, some attached) =>
      (flag? flags (String.ofList name)).map fun f =>
        .option (some f) (String.ofList name) (some (String.ofList attached))

/-- What an argument in front of the double dash is. -/
def mark (flags : List Flag) (arg : String) : Except Stop Mark :=
  match arg.toList with
  | '-' :: c :: cs =>
    match inFull? flags arg with
    | some m => .ok m
    | none =>
      match fitting flags arg.toList with
      | [m] => .ok m
      | _ :: _ :: _ => .error .misuse
      | [] =>
        if isNumber (c :: cs) || arg.toList.contains ' ' then .ok .plain
        else .ok (.option none arg none)
  | _ => .ok .plain

/-- The double dash. -/
def doubleDash : String := "--"

/-- What the arguments are. -/
def tokens (flags : List Flag) : List String → Except Stop (List Token)
  | [] => .ok []
  | arg :: rest =>
    if arg = doubleDash then .ok ({ text := arg, mark := .separator } ::
      rest.map fun text => { text, mark := .plain })
    else do
      let m ← mark flags arg
      let ts ← tokens flags rest
      return { text := arg, mark := m } :: ts

/-! ## Flags -/

/-- The flags that a flag and the text attached to it stand for, each with its value if that is
attached.  A flag with a value takes the text; behind any other one, further flags of one letter
may stand, if it has one letter itself (`short`). -/
def cluster (flags : List Flag) (flag : Flag) (short : Bool) :
    List Char → Except Stop (List (Flag × Option String))
  | [] => if flag.use = .value then .ok [(flag, some "")] else .error .misuse
  | c :: rest =>
    if flag.use = .value then .ok [(flag, some (String.ofList (c :: rest)))]
    else if short then
      match flag? flags (String.ofList ['-', c]) with
      | none => .error .misuse
      | some next =>
        match rest with
        | [] => .ok [(flag, none), (next, none)]
        | d :: more => (cluster flags next true (d :: more)).map ((flag, none) :: ·)
    else .error .misuse

/-- Whether a name has one letter. -/
def isShort (name : String) : Bool :=
  match name.toList with
  | '-' :: '-' :: _ => false
  | _ => true

/-- A single argument as a value: none if it is a double dash. -/
def valueOf (text : String) : Option String :=
  if text = doubleDash then none else some text

/-- Gives a flag, whose value is attached or is the `next` argument.  The answer says whether the
next argument was taken. -/
def giveFlag (g : Given) (flag : Flag) (attached next : Option String) :
    Except Stop (Given × Bool) :=
  match flag.use with
  | .help => .error .help
  | .switch => .ok (g.put flag.key (some ""), false)
  | .value =>
    match attached with
    | some text => .ok (g.put flag.key (valueOf text), false)
    | none =>
      match next with
      | some text => .ok (g.put flag.key (valueOf text), true)
      | none => .error .misuse

/-- Gives what an argument that is a flag stands for. -/
def giveOption (flags : List Flag) (g : Given) (flag : Option Flag) (name : String)
    (attached next : Option String) : Except Stop (Given × Bool) :=
  match flag with
  | none => .ok ({ g with unexpected := true }, false)
  | some f =>
    match attached with
    | none => giveFlag g f none next
    | some text => do
      let fs ← cluster flags f (isShort name) text.toList
      fs.foldlM (fun (g, taken) (f, attached) => do
        let (g, t) ← giveFlag g f attached next
        return (g, taken || t)) (g, false)

/-! ## Operands -/

/-- An operand. -/
structure Operand where
  /-- whether it takes all arguments that follow, flags too -/
  takesRest : Bool := false
  /-- what its arguments give, beside what was given before -/
  read : Given → List String → Except Stop Given

/-- How many arguments an operand takes, if it fits them: one, and a double dash beside it. -/
def Operand.size? (o : Operand) (ts : List Token) : Option Nat :=
  let lead := (ts.takeWhile Token.isSeparator).length
  match ts.drop lead with
  | [] => none
  | t :: after =>
    if t.mark = .plain then
      if o.takesRest then some ts.length
      else some (lead + 1 + (after.takeWhile Token.isSeparator).length)
    else none

/-- Gives the operands that fit the arguments one after another.  The answer has the operands that
are left and the number of arguments taken. -/
def giveOperands (g : Given) : List Operand → List Token → Except Stop (List Operand × Given × Nat)
  | [], _ => .ok ([], g, 0)
  | o :: os, ts =>
    match o.size? ts with
    | none => .ok (o :: os, g, 0)
    | some k => do
      let g ← o.read g ((ts.take k).map Token.text)
      let (os, g, n) ← giveOperands g os (ts.drop k)
      return (os, g, k + n)

/-- An operand of one argument, which has to be accepted unless it is left blank. -/
def Operand.one (key : String) (accepts : String → Bool) : Operand where
  read g args :=
    match args.erase doubleDash with
    | [] => .ok (g.put key none)
    | [text] => if accepts text then .ok (g.put key (some text)) else .error .misuse
    | _ => .error .misuse

/-! ## Grammars -/

/-- A grammar of command lines. -/
structure Grammar where
  flags : List Flag
  operands : List Operand

/-- The text of the next argument, if it can be the value of a flag. -/
def nextPlain? : List Token → Option String
  | t :: _ => if t.mark = .plain then some t.text else none
  | [] => none

/-- What arguments give, beside what was given before. -/
def readTokens (flags : List Flag) (operands : List Operand) (g : Given) (ts : List Token) :
    Except Stop Given :=
  match ts with
  | [] => if operands.isEmpty then .ok g else .error .misuse
  | t :: rest =>
    match t.mark with
    | .option flag name attached => do
      let (g, taken) ← giveOption flags g flag name attached (nextPlain? rest)
      readTokens flags operands g (rest.drop taken.toNat)
    | _ => do
      let (left, g, n) ← giveOperands g operands (t :: rest)
      if n = 0 then
        readTokens flags operands { g with unexpected := true }
          (rest.dropWhile fun t => !t.isOption)
      else readTokens flags left g (rest.drop (n - 1))
termination_by ts.length
decreasing_by
  · simp only [List.length_drop, List.length_cons]; omega
  · exact Nat.lt_succ_of_le (List.dropWhile_sublist _).length_le
  · simp only [List.length_drop, List.length_cons]; omega

/-- What a command line gives. -/
def Grammar.read (grammar : Grammar) (args : List String) : Except Stop Given := do
  readTokens grammar.flags grammar.operands {} (← tokens grammar.flags args)

end Rulebook.Terminal
