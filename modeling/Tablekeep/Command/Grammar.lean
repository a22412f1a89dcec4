import Tablekeep.Text.Blank
import Tablekeep.Text.Digits

/-!
# Command lines

A command line has switches, which begin with a hyphen, and words, which fill slots in order. A
switch with two hyphens may be shortened as long as it is the only one that begins so, and its value
may follow an equals sign; switches with one hyphen may be written together. After two hyphens alone
everything is a word.

What is wrong with a command line is not said, only that something is.
-/

namespace Tablekeep.Command

/-- What a switch does. -/
inductive SwitchKind where
  /-- It takes a value. -/
  | value
  | flag
  /-- It asks for help, and nothing else is done. -/
  | help
  deriving DecidableEq, Repr

/-- A switch. -/
structure Switch where
  /-- The ways to write it. -/
  spellings : List String
  kind : SwitchKind
  /-- What it sets. -/
  key : String
  deriving DecidableEq, Repr

/-- What words are wanted for. -/
inductive Slot where
  | one
  | optional
  /-- A word and everything after it. -/
  | command
  deriving DecidableEq, Repr

/-- What command lines look like. -/
structure Grammar where
  switches : List Switch
  slots : List Slot
  deriving DecidableEq, Repr

/-- Why a command line is not carried out. -/
inductive Stop where
  | help
  | usage
  deriving DecidableEq, Repr

/-- A switch as it is written: which it is, how it is spelled, and the value after the equals sign
or after its letter. -/
structure Written where
  switch : Switch
  spelling : String
  value : Option String
  deriving DecidableEq, Repr

/-- An argument of a command line. -/
inductive Token where
  | word (s : String)
  /-- Two hyphens. -/
  | separator
  | known (argument : String) (w : Written)
  | unknown (s : String)
  deriving DecidableEq, Repr

namespace Token

/-- The token is a switch. -/
def isSwitch : Token → Bool
  | known _ _ => true
  | unknown _ => true
  | _ => false

/-- What was written. -/
def text : Token → String
  | word s => s
  | separator => "--"
  | known argument _ => argument
  | unknown s => s

end Token

namespace Grammar

/-! ## Switches -/

/-- The spellings of all switches. -/
def spellings (g : Grammar) : List (String × Switch) :=
  g.switches.flatMap fun s => s.spellings.map (·, s)

/-- The switch with a spelling. -/
def spelled? (g : Grammar) (spelling : String) (value : Option String) : Option Written :=
  (g.spellings.lookup spelling).map (⟨·, spelling, value⟩)

/-- The text before the first equals sign and after it. -/
def splitEquals (s : String) : String × Option String :=
  match s.toList.dropWhile (· ≠ '=') with
  | _ :: value => (String.ofList (s.toList.takeWhile (· ≠ '=')), some (String.ofList value))
  | [] => (s, none)

/-- The switches that an argument with two hyphens may be short for. -/
def longCandidates (g : Grammar) (arg : String) : List Written :=
  let (start, value) := splitEquals arg
  (g.spellings.filter fun (spelling, _) => Text.beginsWith spelling start).map
    fun (spelling, s) => ⟨s, spelling, value⟩

/-- The switches that an argument with one hyphen may mean: one with its first letter and a value
behind it, or one that begins so. -/
def shortCandidates (g : Grammar) (arg : String) : List Written :=
  let first := String.ofList (arg.toList.take 2)
  g.spellings.filterMap fun (spelling, s) =>
    if spelling = first then some ⟨s, spelling, some (String.ofList (arg.toList.drop 2))⟩
    else if Text.beginsWith spelling arg then some ⟨s, spelling, none⟩
    else none

/-- The switches that an argument may mean. -/
def candidates (g : Grammar) (arg : String) : List Written :=
  if Text.beginsWith arg "--" then g.longCandidates arg else g.shortCandidates arg

/-- The argument is a negative number. -/
def isNegativeNumber (arg : String) : Bool :=
  match arg.toList with
  | '-' :: cs =>
    let fraction := (cs.dropWhile Text.isDigit).drop 1
    (!cs.isEmpty && cs.all Text.isDigit)
      || ((cs.dropWhile Text.isDigit).head? == some '.' && !fraction.isEmpty
        && fraction.all Text.isDigit)
  | _ => false

/-- The token for an argument that is not two hyphens. -/
def token (g : Grammar) (arg : String) : Except Stop Token :=
  if !Text.beginsWith arg "-" || arg = "-" then .ok (.word arg)
  else
    let (start, value) := splitEquals arg
    match g.spelled? arg none, if value.isSome then g.spelled? start value else none with
    | some w, _ => .ok (.known arg w)
    | none, some w => .ok (.known arg w)
    | none, none =>
      match g.candidates arg with
      | [w] => .ok (.known arg w)
      | [] =>
        if isNegativeNumber arg || Text.contains arg " " then .ok (.word arg)
        else .ok (.unknown arg)
      | _ => .error .usage

/-- The tokens of the arguments. -/
def tokens (g : Grammar) : List String → Except Stop (List Token)
  | [] => .ok []
  | arg :: args =>
    if arg = "--" then .ok (.separator :: args.map .word)
    else do
      let t ← g.token arg
      let ts ← g.tokens args
      return t :: ts

end Grammar

/-! ## Slots -/

/-- How many separators stand at the front. -/
def separators (ts : List Token) : Nat :=
  (ts.takeWhile (· == .separator)).length

/-- How many tokens fill a slot: separators around a word; a command takes all that is left. -/
def taken? (slot : Slot) (ts : List Token) : Option Nat :=
  let before := separators ts
  match slot, ts.drop before with
  | .command, .word _ :: rest => some (before + 1 + rest.length)
  | .one, .word _ :: rest => some (before + 1 + separators rest)
  | .optional, .word _ :: rest => some (before + 1 + separators rest)
  | .optional, _ => some before
  | _, _ => none

/-- The arguments that fill a slot, without the first separator unless they are a command. -/
def slotArguments (slot : Slot) (ts : List Token) : List String :=
  match slot with
  | .command => ts.map Token.text
  | _ => (ts.erase .separator).map Token.text

/-- What has been read of a command line. -/
structure Parsed where
  /-- The switches that were given, with their values. -/
  switches : List (Switch × Option String)
  /-- The arguments of the slots that were filled. -/
  filled : List (List String)
  /-- The slots that are still to be filled. -/
  unfilled : List Slot
  /-- Something could not be used. -/
  leftover : Bool
  deriving DecidableEq, Repr

namespace Parsed

/-- Fills slots as long as the tokens go, and gives the tokens that are left. -/
def fill (p : Parsed) (ts : List Token) : List Slot → Parsed × List Token
  | [] => ({ p with unfilled := [] }, ts)
  | slot :: slots =>
    match taken? slot ts with
    | none => ({ p with unfilled := slot :: slots }, ts)
    | some n =>
      let p := { p with filled := p.filled ++ [slotArguments slot (ts.take n)] }
      p.fill (ts.drop n) slots

end Parsed

/-! ## Reading -/

namespace Grammar

/-- The switches that are written together, where `w` is the first of them. Each takes a letter of
the text behind it, of which there are at most `fuel`. The tokens are those after the argument. -/
def together (g : Grammar) :
    Nat → Written → List Token → Except Stop (List (Switch × Option String) × List Token)
  | 0, _, _ => .error .usage
  | fuel + 1, w, ts =>
    match w.switch.kind, w.value, ts with
    | .value, some value, ts => .ok ([(w.switch, some value)], ts)
    | .value, none, .word s :: ts => .ok ([(w.switch, some s)], ts)
    | .value, none, _ => .error .usage
    | _, none, ts => .ok ([(w.switch, none)], ts)
    | _, some value, ts =>
      match Text.beginsWith w.spelling "--", value.toList with
      | false, c :: cs =>
        let behind := if cs.isEmpty then none else some (String.ofList cs)
        match g.spelled? (String.ofList ['-', c]) behind with
        | none => .error .usage
        | some next => do
          let (others, ts) ← g.together fuel next ts
          return ((w.switch, none) :: others, ts)
      | _, _ => .error .usage

/-- Uses the switches that an argument means. -/
def use (g : Grammar) (p : Parsed) (w : Written) (ts : List Token) :
    Except Stop (Parsed × List Token) := do
  let (used, ts) ← g.together ((w.value.getD "").length + 1) w ts
  if used.any fun (s, _) => s.kind == .help then throw .help
  return ({ p with switches := p.switches ++ used }, ts)

/-- Reads tokens: words before a switch fill slots, and those that fill none are left over. Every
step takes a token, of which there are at most `fuel`. -/
def read (g : Grammar) : Nat → Parsed → List Token → Except Stop Parsed
  | 0, p, _ => .ok p
  | fuel + 1, p, ts =>
    if ts.any Token.isSwitch then
      match ts with
      | .known _ w :: ts => do
        let (p, ts) ← g.use p w ts
        g.read fuel p ts
      | .unknown _ :: ts => g.read fuel { p with leftover := true } ts
      | ts =>
        let (p, rest) := p.fill ts p.unfilled
        if rest.length < ts.length then g.read fuel p rest
        else
          g.read fuel { p with leftover := true } (ts.dropWhile fun t => !t.isSwitch)
    else
      let (p, rest) := p.fill ts p.unfilled
      .ok { p with leftover := p.leftover || !rest.isEmpty }

/-- Reads a command line. Slots that have to be filled are. -/
def parse (g : Grammar) (args : List String) : Except Stop Parsed := do
  let ts ← g.tokens args
  let p ← g.read (ts.length + 1) ⟨[], [], g.slots, false⟩ ts
  if p.unfilled.any (· != .optional) then throw .usage
  return p

end Grammar

namespace Parsed

/-- The value of the last switch with the key. -/
def value? (p : Parsed) (key : String) : Option String :=
  (p.switches.reverse.find? fun (s, _) => s.key == key).bind (·.2)

/-- A switch with the key is given. -/
def has (p : Parsed) (key : String) : Bool :=
  p.switches.any fun (s, _) => s.key == key

/-- The argument of a slot, if it is filled. -/
def word? (p : Parsed) (slot : Nat) : Option String :=
  (p.filled[slot]?).bind (·.head?)

end Parsed

end Tablekeep.Command
