import Introspection.Text.Digit
import Introspection.Text.Piece
import Introspection.Text.Quoted

/-!
# Words on a command line

A command takes options, which begin with a dash and may be abbreviated, and positional arguments.
Two dashes alone end the options. Options and positional arguments may alternate; a positional
argument takes the words up to the next option.

* `Grammar`: the options and positional arguments of a command;
* `Word`, `Grammar.word`: what a word stands for by itself;
* `Grammar.read`: the values that words give to options and positional arguments.
-/

namespace Introspection.CommandLine

/-! ## Grammars -/

/-- What an option does. -/
inductive OptionKind where
  | help
  | flag
  /-- It takes the next word as its value. -/
  | value
deriving DecidableEq, Repr

/-- An option with its names. -/
structure OptionRule where
  names : List String
  kind : OptionKind
deriving DecidableEq, Repr

/-- The names of an option as they stand in messages. -/
def OptionRule.label (o : OptionRule) : String := String.intercalate "/" o.names

/-- How many words a positional argument takes. -/
inductive Arity where
  | one
  | many
  /-- One and all that follow, options included. -/
  | rest
deriving DecidableEq, Repr

/-- A positional argument. -/
structure Positional where
  name : String
  arity : Arity
deriving DecidableEq, Repr

/-- The options and positional arguments of a command, with what is said about it. -/
structure Grammar where
  /-- The command as it stands in messages. -/
  program : String
  usage : String
  /-- What is said on demand about the command. -/
  help : String
  options : List OptionRule
  positionals : List Positional
deriving Repr

/-- Why reading words comes to an end. -/
inductive Stop where
  | help
  | misfit (message : String)
deriving DecidableEq, Repr

/-! ## Words -/

/-- An option on a command line. -/
structure Use where
  rule : OptionRule
  /-- The name by which the option is used, in full. -/
  name : String
  /-- What is attached to the name, and whether an equals sign stands between. -/
  attached : Option (Bool × String)
deriving DecidableEq, Repr

/-- What a word stands for by itself. -/
inductive Word where
  | plain (s : String)
  /-- Two dashes, which end the options. -/
  | separator
  | use (u : Use)
  /-- A word that looks like an option and is none. -/
  | foreign (s : String)
deriving DecidableEq, Repr

/-- A negative number, with or without a fraction, is no option. A line end may follow it. -/
def isNegativeNumber (cs : List Char) : Bool :=
  let isDigit (c : Char) : Bool := (Text.digitValue? c).isSome
  match (if cs.getLast? = some '\n' then cs.dropLast else cs) with
  | '-' :: cs =>
    match cs.dropWhile isDigit with
    | [] => !cs.isEmpty
    | '.' :: places => !places.isEmpty && places.all isDigit
    | _ => false
  | _ => false

namespace Grammar

variable (g : Grammar)

def optionNames : List (String × OptionRule) :=
  g.options.flatMap fun o => o.names.map (·, o)

/-- The options that an abbreviated name may stand for. A name with one dash is a single letter, to
which anything may be attached. -/
def abbreviated (s : String) : List Use :=
  match s.toList with
  | '-' :: '-' :: _ =>
    let (name, attached) := match Text.splitAtFirst? '=' s.toList with
      | some (name, value) => (name, some (true, String.ofList value))
      | none => (s.toList, none)
    (g.optionNames.filter fun (n, _) => name.isPrefixOf n.toList).map fun (n, o) =>
      ⟨o, n, attached⟩
  | d :: c :: rest =>
    (g.optionNames.filter fun (n, _) => n.toList = [d, c]).map fun (n, o) =>
      ⟨o, n, some (false, String.ofList rest)⟩
  | _ => []

/-- The option whose full name a word gives, perhaps with a value behind an equals sign. -/
def spelled? (s : String) : Option Use :=
  match g.optionNames.lookup s with
  | some o => some ⟨o, s, none⟩
  | none => do
    let (name, value) ← Text.splitAtFirst? '=' s.toList
    let o ← g.optionNames.lookup (String.ofList name)
    return ⟨o, String.ofList name, some (true, String.ofList value)⟩

/-- What a word stands for that is not two dashes. -/
def word (s : String) : Except Stop Word :=
  if s.toList.head? ≠ some '-' ∨ s = "-" then .ok (.plain s)
  else
    match g.spelled? s with
    | some u => .ok (.use u)
    | none =>
      match g.abbreviated s with
      | [u] => .ok (.use u)
      | [] =>
        if isNegativeNumber s.toList ∨ ' ' ∈ s.toList then .ok (.plain s) else .ok (.foreign s)
      | us => .error (.misfit ("ambiguous option: " ++ s ++ " could match " ++
          String.intercalate ", " (us.map (·.name))))

/-- What words stand for. Behind two dashes there are no options. -/
def words : List String → Except Stop (List (Word × String))
  | [] => .ok []
  | s :: ss =>
    if s = "--" then .ok ((.separator, s) :: ss.map fun s => (.plain s, s))
    else do return (← g.word s, s) :: (← words ss)

end Grammar

/-- Whether a word is used or meant as an option. -/
def Word.isOption : Word → Bool
  | .use _ | .foreign _ => true
  | .plain _ | .separator => false

/-- Whether a word is plain. -/
def Word.isPlain : Word → Bool
  | .plain _ => true
  | _ => false

def Word.isSeparator : Word → Bool
  | .separator => true
  | _ => false

/-! ## Positional arguments -/

/-- The words that a positional argument takes, with the words behind them. Two dashes may stand
around them. -/
def Arity.take? (a : Arity) (ws : List (Word × String)) :
    Option (List String × List (Word × String)) :=
  let lead := ws.takeWhile (·.1.isSeparator)
  match ws.dropWhile (·.1.isSeparator) with
  | (.plain s, _) :: ws =>
    let more : Word → Bool := match a with
      | .one => Word.isSeparator
      | .many => fun w => !w.isOption
      | .rest => fun _ => true
    some ((lead.map (·.2)) ++ s :: (ws.takeWhile fun w => more w.1).map (·.2),
      ws.dropWhile fun w => more w.1)
  | _ => none

/-- The value of a positional argument: its words without the first two dashes among them. All that
follows a command stays as it is. -/
def Arity.value (a : Arity) (ss : List String) : List String :=
  match a with
  | .rest => ss
  | .one | .many => ss.erase "--"

/-- Values of options and positional arguments, with the words that fit nowhere. -/
structure Values where
  /-- The flags that are set, by the first name of their option. -/
  flags : List String := []
  /-- The values of options, by the first name of their option, the latest first. -/
  options : List (String × String) := []
  /-- The values of positional arguments. -/
  positionals : List (String × List String) := []
  extras : List String := []
deriving Repr

/-- Gives words to as many positional arguments as possible. -/
def takePositionals (v : Values) :
    List Positional → List (Word × String) → Values × List Positional × List (Word × String)
  | [], ws => (v, [], ws)
  | p :: ps, ws =>
    match p.arity.take? ws with
    | none => (v, p :: ps, ws)
    | some (ss, ws) =>
      takePositionals { v with positionals := v.positionals ++ [(p.name, p.arity.value ss)] } ps ws

/-! ## Options -/

/-- A misfit of an option. -/
def OptionRule.misfit (o : OptionRule) (message : String) : Stop :=
  .misfit ("argument " ++ o.label ++ ": " ++ message)

/-- The misfit of an option that takes nothing and has something attached. -/
def OptionRule.ignored (o : OptionRule) (attached : String) : Stop :=
  o.misfit ("ignored explicit argument " ++ Text.quoted attached)

def Values.flag (v : Values) (o : OptionRule) : Except Stop Values :=
  match o.kind with
  | .help => .error .help
  | _ => .ok { v with flags := v.flags ++ o.names.take 1 }

def Values.option (v : Values) (o : OptionRule) (value : String) : Values :=
  { v with options := (o.names.headD "", value) :: v.options }

/-- What a cluster of letters behind one dash stands for: options that take nothing, and then
perhaps one that takes the rest of the word or the next word. -/
inductive Cluster where
  | flags (os : List OptionRule)
  | value (os : List OptionRule) (o : OptionRule) (value : String)
  | pending (os : List OptionRule) (o : OptionRule)
  /-- A letter is no option; what is left of the word fits nowhere. -/
  | foreign (os : List OptionRule) (rest : String)

/-- Reads the letters attached to an option with one dash. -/
def Grammar.cluster (g : Grammar) (os : List OptionRule) (o : OptionRule) (spelledOut : Bool) :
    Bool → List Char → Except Stop Cluster
  | equals, cs =>
    match o.kind with
    | .value => .ok (.value os o (String.ofList cs))
    | _ =>
      match cs with
      | [] => .error (o.ignored "")
      | c :: rest =>
        if spelledOut ∨ equals ∨ c = '-' then .error (o.ignored (String.ofList cs))
        else
          match g.optionNames.lookup (String.ofList ['-', c]) with
          | none => .ok (.foreign (os ++ [o]) (String.ofList ('-' :: cs)))
          | some next =>
            match rest with
            | [] =>
              if next.kind = .value then .ok (.pending (os ++ [o]) next)
              else .ok (.flags (os ++ [o, next]))
            | '=' :: value => g.cluster (os ++ [o]) next false true value
            | rest => g.cluster (os ++ [o]) next false false rest
termination_by _ cs => cs.length

def Values.setFlags (v : Values) (os : List OptionRule) : Except Stop Values :=
  os.foldlM Values.flag v

/-- Gives an option the next word, which must be plain. -/
def Values.next (v : Values) (o : OptionRule) (ws : List (Word × String)) :
    Except Stop (Values × List (Word × String)) :=
  match ws with
  | (.plain s, _) :: ws => .ok (v.option o s, ws)
  | _ => .error (o.misfit "expected one argument")

/-- Uses an option; gives the words behind what it takes. -/
def Grammar.use (g : Grammar) (v : Values) (u : Use) (ws : List (Word × String)) :
    Except Stop (Values × List (Word × String)) :=
  match u.attached with
  | none =>
    if u.rule.kind = .value then v.next u.rule ws
    else do return (← v.flag u.rule, ws)
  | some (equals, value) => do
    let spelledOut := "--".toList.isPrefixOf u.name.toList
    match ← g.cluster [] u.rule spelledOut equals value.toList with
    | .flags os => return (← v.setFlags os, ws)
    | .value os o value => return ((← v.setFlags os).option o value, ws)
    | .pending os o => (← v.setFlags os).next o ws
    | .foreign os rest => do
      let v ← v.setFlags os
      return ({ v with extras := v.extras ++ [rest] }, ws)

/-! ## Reading -/

/-- Gives words to options and positional arguments in turn. -/
def Grammar.readWords (g : Grammar) :
    Nat → Values → List Positional → List (Word × String) → Except Stop (Values × List Positional)
  | 0, v, ps, _ => .ok (v, ps)
  | fuel + 1, v, ps, ws =>
    match ws with
    | (.use u, _) :: ws => do
      let (v, ws) ← g.use v u ws
      g.readWords fuel v ps ws
    | (.foreign s, _) :: ws => g.readWords fuel { v with extras := v.extras ++ [s] } ps ws
    | ws =>
      let (v, ps, rest) := takePositionals v ps ws
      if rest.length < ws.length then g.readWords fuel v ps rest
      else
        let extras := (rest.takeWhile fun w => !w.1.isOption).map (·.2)
        let v := { v with extras := v.extras ++ extras }
        match rest.dropWhile fun w => !w.1.isOption with
        | [] => .ok (v, ps)
        | rest => g.readWords fuel v ps rest

/-- The values that words give to options and positional arguments. Those positional arguments are
required that do not take all the rest. -/
def Grammar.read (g : Grammar) (args : List String) : Except Stop Values := do
  let ws ← g.words args
  let (v, missing) ← g.readWords (ws.length + 1) {} g.positionals ws
  match missing.filter (·.arity ≠ .rest) with
  | [] => return v
  | ps => .error (.misfit ("the following arguments are required: " ++
      String.intercalate ", " (ps.map (·.name))))

end Introspection.CommandLine
